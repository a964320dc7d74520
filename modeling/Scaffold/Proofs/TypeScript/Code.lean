import Mathlib.Data.List.Basic
import Scaffold.Proofs.Text.Lines
import Scaffold.Proofs.TypeScript.Comment
import Scaffold.TypeScript.Identifier

/-!
# The words of code

Code is read in three steps: literals and comments are left out (`stripped`), what is left is cut
into words and marks (`tokensFrom`), and these show what names are used for (`uses`). A text that
begins and ends between two tokens can be read by itself, whatever stands behind it (`Reads`), so
the uses in a module are those in its parts. The main statements say so of code (`Reads.code`),
literals (`Reads.quote`), comments (`Reads.blockComment`) and names (`Reads.name`).
-/

namespace Scaffold.TypeScript

/-! ## Tokens -/

/-- What a character stands in. -/
inductive Region where
  | code
  | quoted
  | template
  | pattern
  | line
  | block
  deriving DecidableEq

/-- The code without literals and comments. The regions around a character are stacked, since a
template literal holds code again. A slash with a blank behind it divides, and another one begins a
pattern or a comment. -/
def stripped : List Region → List Char → List Char
  | _, [] => []
  | .quoted :: outer, '\'' :: cs => ' ' :: stripped outer cs
  | .template :: outer, '`' :: cs => ' ' :: stripped outer cs
  | .template :: outer, '$' :: '\x7b' :: cs => '\x7b' :: stripped (.code :: .template :: outer) cs
  | .pattern :: outer, '/' :: cs => ' ' :: stripped outer cs
  | .line :: outer, '\n' :: cs => '\n' :: stripped outer cs
  | .block :: outer, '*' :: '/' :: cs => ' ' :: stripped outer cs
  | .quoted :: outer, '\\' :: _ :: cs => stripped (.quoted :: outer) cs
  | .template :: outer, '\\' :: _ :: cs => stripped (.template :: outer) cs
  | .pattern :: outer, '\\' :: _ :: cs => stripped (.pattern :: outer) cs
  | .code :: outer, '\'' :: cs => stripped (.quoted :: .code :: outer) cs
  | .code :: outer, '`' :: cs => stripped (.template :: .code :: outer) cs
  | .code :: outer, '/' :: '/' :: cs => stripped (.line :: .code :: outer) cs
  | .code :: outer, '/' :: '*' :: cs => stripped (.block :: .code :: outer) cs
  | .code :: outer, '/' :: ' ' :: cs => '/' :: stripped (.code :: outer) cs
  | .code :: outer, '/' :: cs => stripped (.pattern :: .code :: outer) cs
  | .code :: outer, '\x7b' :: cs => '\x7b' :: stripped (.code :: .code :: outer) cs
  | .code :: outer, '\x7d' :: cs => '\x7d' :: stripped outer cs
  | .code :: outer, c :: cs => c :: stripped (.code :: outer) cs
  | regions, _ :: cs => stripped regions cs

/-- A word of the code, or another character. -/
inductive Token where
  | word (s : String)
  | mark (c : Char)
  deriving DecidableEq

/-- Tokens with a word in front, unless it is empty. Its last character comes first. -/
def withWord (word : List Char) (ts : List Token) : List Token :=
  if word.isEmpty then ts else .word (String.ofList word.reverse) :: ts

/-- The tokens of code without white space, behind the beginning of a word. -/
def tokensFrom : List Char → List Char → List Token
  | word, [] => withWord word []
  | word, c :: cs =>
    if isIdentifierPart c then tokensFrom (c :: word) cs
    else if c == ' ' || c == '\n' then withWord word (tokensFrom [] cs)
    else withWord word (.mark c :: tokensFrom [] cs)

/-! ## Decorators and errors -/

/-- What code does with a name: it decorates with it, or it makes an error by it that it throws. -/
inductive Use where
  | decorator (name : String)
  | thrown (name : String)
  deriving DecidableEq

/-- The uses of names in code, in order. -/
def uses : List Token → List Use
  | .mark '@' :: .word n :: ts => .decorator n :: uses ts
  | .word "throw" :: .word "new" :: .word n :: ts => .thrown n :: uses ts
  | _ :: ts => uses ts
  | [] => []

/-- The uses of names in a text that begins in some regions. -/
def usesIn (regions : List Region) (cs : List Char) : List Use :=
  uses (tokensFrom [] (stripped regions cs))

/-- A token that uses do not go on behind. -/
def Token.Closes (t : Token) : Prop := t ≠ .mark '@' ∧ t ≠ .word "throw" ∧ t ≠ .word "new"

instance (t : Token) : Decidable t.Closes := inferInstanceAs (Decidable (_ ∧ _))

section
variable {c : Char} {cs ds : List Char} {ts us : List Token} {regions regions' outer : List Region}

theorem withWord_append (word : List Char) (ts us : List Token) :
    withWord word (ts ++ us) = withWord word ts ++ us := by
  rw [withWord, withWord]
  split <;> rfl

/-- Tokens are read anew behind a character that is no part of a word. -/
theorem tokensFrom_append (hc : isIdentifierPart c = false) (word : List Char) :
    tokensFrom word (cs ++ c :: ds) = tokensFrom word (cs ++ [c]) ++ tokensFrom [] ds := by
  induction cs generalizing word with
  | nil =>
    have hend : tokensFrom [] [] = [] := rfl
    rw [List.nil_append, List.nil_append, tokensFrom, tokensFrom, hc, if_neg Bool.false_ne_true,
      if_neg Bool.false_ne_true, hend]
    split
    · exact withWord_append word [] _
    · exact withWord_append word [.mark c] _
  | cons d cs ih =>
    rw [List.cons_append, List.cons_append, tokensFrom, tokensFrom, ih, ih]
    split
    · rfl
    · split
      · exact withWord_append word _ _
      · exact withWord_append word (.mark d :: _) _

/-- A word is read up to its end. -/
theorem tokensFrom_word (hne : cs ≠ []) (hcs : ∀ d ∈ cs, isIdentifierPart d = true)
    (hc : isIdentifierPart c = false) :
    tokensFrom [] (cs ++ c :: ds) = .word (String.ofList cs) :: tokensFrom [] (c :: ds) := by
  have hread (word : List Char) : tokensFrom word (cs ++ c :: ds) =
      tokensFrom (cs.reverse ++ word) (c :: ds) := by
    clear hne
    induction cs generalizing word with
    | nil => rfl
    | cons d cs ih =>
      obtain ⟨hd, hcs⟩ := List.forall_mem_cons.1 hcs
      rw [List.cons_append, tokensFrom, if_pos hd, ih hcs, List.reverse_cons, List.append_assoc,
        List.singleton_append]
  have hword (ts : List Token) : withWord cs.reverse ts = .word (String.ofList cs) :: ts := by
    rw [withWord, if_neg (by simpa using hne), List.reverse_reverse]
  rw [hread, List.append_nil, tokensFrom, tokensFrom, hc, if_neg Bool.false_ne_true,
    if_neg Bool.false_ne_true, hword, hword]
  split <;> rfl

/-- Uses are found anew behind a token that they do not go on behind. -/
theorem uses_append (h : ∀ t ∈ ts.getLast?, t.Closes) : uses (ts ++ us) = uses ts ++ uses us := by
  have htail {t : Token} {ts : List Token} (h : ∀ u ∈ (t :: ts).getLast?, u.Closes) :
      ∀ u ∈ ts.getLast?, u.Closes := fun u hu => h u (by grind)
  fun_induction uses ts with
  | case1 n ts ih =>
    rw [List.cons_append, List.cons_append, uses, ih (htail (htail h)), List.cons_append]
  | case2 n ts ih =>
    rw [List.cons_append, List.cons_append, List.cons_append, uses, ih (htail (htail (htail h))),
      List.cons_append]
  | case3 t ts hdecorator hthrown ih =>
    -- a use that begins with the token would have begun in front of `us` already, or the token
    -- does not close it
    rw [List.cons_append, uses, ih (htail h)]
    · rintro n rest rfl hts
      match ts, hts with
      | [], _ => exact (h _ rfl).1 rfl
      | _ :: ts, hts => exact hdecorator n ts rfl (by cases hts; rfl)
    · rintro n rest rfl hts
      match ts, hts with
      | [], _ => exact (h _ rfl).2.1 rfl
      | [_], hts => exact (h _ rfl).2.2 (by cases hts; rfl)
      | _ :: _ :: ts, hts => exact hthrown n ts rfl (by cases hts; rfl)
  | case4 => rfl

/-! ## Regions -/

/-- The regions behind code without literals, comments and slashes. -/
def regionsBehind? : List Region → List Char → Option (List Region)
  | regions, [] => some regions
  | .code :: outer, '\x7b' :: cs => regionsBehind? (.code :: .code :: outer) cs
  | .code :: outer, '\x7d' :: cs => regionsBehind? outer cs
  | .code :: outer, c :: cs =>
    if c ∈ ['\'', '`', '/'] then none else regionsBehind? (.code :: outer) cs
  | _, _ => none

/-- Nothing is left out of such code. -/
theorem stripped_append (h : regionsBehind? regions cs = some regions') (rest : List Char) :
    stripped regions (cs ++ rest) = cs ++ stripped regions' rest := by
  fun_induction regionsBehind? regions cs with
  | case1 => cases h; rfl
  | case2 outer cs ih => rw [List.cons_append, stripped, ih h]; rfl
  | case3 outer cs ih => rw [List.cons_append, stripped, ih h]; rfl
  | case4 => cases h
  | case5 outer c cs hopen hclose hc ih =>
    simp only [List.mem_cons, not_or] at hc
    rw [List.cons_append, stripped, ih h]
    all_goals grind
  | case6 => cases h

/-- A word leads to no other region. -/
theorem regionsBehind?_word (hcs : ∀ d ∈ cs, isIdentifierPart d = true) :
    regionsBehind? (.code :: outer) cs = some (.code :: outer) := by
  induction cs with
  | nil => rfl
  | cons d cs ih =>
    obtain ⟨hd, hcs⟩ := List.forall_mem_cons.1 hcs
    have hne {e : Char} (he : isIdentifierPart e = false) : d ≠ e := fun h => by simp [h, he] at hd
    have hmarks : d ∉ ['\'', '`', '/'] := by
      simp only [List.mem_cons, List.not_mem_nil, or_false, not_or]
      exact ⟨hne (by decide), hne (by decide), hne (by decide)⟩
    rw [regionsBehind?, if_neg hmarks, ih hcs]
    · exact hne (by decide)
    · exact hne (by decide)

/-- A literal is left out with both its quotes, -/
theorem stripped_quote (s : String) (rest : List Char) :
    stripped (.code :: outer) ((quote s).toList ++ rest) =
      ' ' :: stripped (.code :: outer) rest := by
  have hescaped (cs : List Char) :
      stripped (.quoted :: .code :: outer) (cs.flatMap escapeChar ++ '\'' :: rest) =
      ' ' :: stripped (.code :: outer) rest := by
    induction cs with
    | nil => rfl
    | cons c cs ih =>
      rw [List.flatMap_cons, List.append_assoc]
      fun_cases escapeChar c
      case case5 => rw [List.singleton_append, stripped, ih] <;> grind
      all_goals exact ih
  rw [quote, String.toList_ofList, quoteChars, List.cons_append, List.append_assoc]
  exact hescaped s.toList

/-- and so is a comment. -/
theorem stripped_blockComment {text rest : List Char} (h : readComment? cs = some (text, rest)) :
    stripped (.code :: outer) cs = ' ' :: stripped (.code :: outer) rest := by
  have hclose {cs text : List Char} (h : closeComment? cs = some (text, rest)) :
      stripped (.block :: .code :: outer) cs = ' ' :: stripped (.code :: outer) rest := by
    induction cs generalizing text with
    | nil => cases h
    | cons c cs ih =>
      unfold closeComment? at h
      split at h
      next heq => cases heq; cases h; rfl
      next hend heq =>
        cases heq
        obtain ⟨⟨text, rest⟩, hcs, heq⟩ := Option.map_eq_some_iff.1 h
        cases heq
        rw [stripped, ih hcs]
        all_goals grind
      next heq => cases heq
  unfold readComment? at h
  split at h
  · exact hclose h
  · cases h

/-- A comment at the end of a line is left out up to the break of the line. -/
theorem stripped_lineComment (hcs : '\n' ∉ cs) :
    stripped (.code :: outer) ('/' :: '/' :: (cs ++ '\n' :: ds)) =
      '\n' :: stripped (.code :: outer) ds := by
  have hskip : stripped (.line :: .code :: outer) (cs ++ '\n' :: ds) =
      '\n' :: stripped (.code :: outer) ds := by
    induction cs with
    | nil => rfl
    | cons c cs ih =>
      rw [List.mem_cons, not_or] at hcs
      rw [List.cons_append, stripped, ih hcs.2]
      all_goals grind
  exact hskip

end

/-! ## Texts that are read by themselves -/

/-- A text makes its uses of names and leads from regions to regions, whatever stands behind it. -/
def Reads (regions : List Region) (s : String) (us : List Use) (regions' : List Region) : Prop :=
  ∀ rest, usesIn regions (s.toList ++ rest) = us ++ usesIn regions' rest

/-- Code without literals, comments and slashes that ends between two tokens. -/
def IsCode (regions : List Region) (cs : List Char) (us : List Use) (regions' : List Region) :
    Prop :=
  regionsBehind? regions cs = some regions' ∧ cs.getLast?.any (!isIdentifierPart ·) = true ∧
    (∀ t ∈ (tokensFrom [] cs).getLast?, t.Closes) ∧ uses (tokensFrom [] cs) = us

instance (regions : List Region) (cs : List Char) (us : List Use) (regions' : List Region) :
    Decidable (IsCode regions cs us regions') := inferInstanceAs (Decidable (_ ∧ _))

section
variable {regions regions' regions'' outer : List Region} {s t l : String} {ls ms : List String}
  {us vs ws : List Use}

theorem Reads.empty : Reads regions "" [] regions := fun _ => rfl

/-- Texts that are read by themselves are read one after the other, -/
theorem Reads.append (hs : Reads regions s us regions') (ht : Reads regions' t vs regions'') :
    Reads regions (s ++ t) (us ++ vs) regions'' := by
  intro rest
  rw [String.toList_append, List.append_assoc, hs, ht, List.append_assoc]

/-- of which the first may use nothing, -/
theorem Reads.before (hs : Reads regions s [] regions') (ht : Reads regions' t us regions'') :
    Reads regions (s ++ t) us regions'' := hs.append ht

/-- and so are lines that stand one below the other. -/
theorem Reads.line (hl : Reads (.code :: outer) l us regions)
    (hls : Reads regions (Text.stacked ls) vs regions') :
    Reads (.code :: outer) (Text.stacked (l :: ls)) (us ++ vs) regions' := by
  have hbreak : Reads (.code :: outer) "\n" [] (.code :: outer) := fun _ => rfl
  rw [Text.stacked_cons]
  exact (hbreak.before hl).append hls

theorem Reads.lastLine (hl : Reads (.code :: outer) l us regions) :
    Reads (.code :: outer) (Text.stacked [l]) us regions := by
  have hlines : Reads (.code :: outer) (Text.stacked [l]) (us ++ []) regions := hl.line .empty
  rwa [List.append_nil] at hlines

theorem Reads.lines (hls : Reads regions (Text.stacked ls) us regions')
    (hms : Reads regions' (Text.stacked ms) vs regions'') :
    Reads regions (Text.stacked (ls ++ ms)) (us ++ vs) regions'' := by
  rw [Text.stacked_append]
  exact hls.append hms

/-- Nothing is used in a comment up to the end of its line. -/
theorem Reads.lineComment (ht : Text.IsLine t)
    (hls : Reads (.code :: outer) (Text.stacked (l :: ls)) us regions) :
    Reads (.code :: outer) ("//" ++ t ++ Text.stacked (l :: ls)) us regions := by
  have hcut (cs : List Char) : usesIn (.code :: outer) ("//".toList ++ (t.toList ++ '\n' :: cs)) =
      usesIn (.code :: outer) ('\n' :: cs) := by
    rw [usesIn]
    exact congrArg (fun code => uses (tokensFrom [] code)) (stripped_lineComment ht)
  intro rest
  rw [← hls rest, Text.stacked_cons]
  simp only [String.toList_append, List.append_assoc]
  exact hcut _

/-- Code is read by itself. -/
theorem Reads.code {cs : List Char} (h : IsCode regions cs us regions') :
    Reads regions (String.ofList cs) us regions' := by
  intro rest
  obtain ⟨hregions, hlast, hclosed, huses⟩ := h
  obtain ⟨c, hc, hpart⟩ := (Option.any_eq_true _ _).1 hlast
  obtain ⟨ds, rfl⟩ := List.getLast?_eq_some_iff.1 hc
  rw [usesIn, String.toList_ofList, stripped_append hregions, List.append_assoc,
    List.singleton_append, tokensFrom_append (by simpa using hpart), uses_append hclosed,
    huses, usesIn]

/-- So is a literal, -/
theorem Reads.quote (text : String) : Reads (.code :: outer) (quote text) [] (.code :: outer) := by
  intro rest
  rw [usesIn, stripped_quote]
  rfl

/-- a comment, -/
theorem Reads.blockComment (text : String) :
    Reads (.code :: outer) ("/** " ++ commentText text ++ " */") [] (.code :: outer) := by
  intro rest
  rw [usesIn, stripped_blockComment (readComment?_commentText text rest)]
  rfl

/-- and a name, with code behind it that is no part of it. -/
theorem Reads.name {name : String} {c : Char} {cs : List Char}
    (hname : name.toList ≠ [] ∧ ∀ d ∈ name.toList, isIdentifierPart d = true)
    (hthrow : name ≠ "throw") (hc : isIdentifierPart c = false)
    (hcs : IsCode (.code :: outer) (c :: cs) us regions) :
    Reads (.code :: outer) (name ++ String.ofList (c :: cs)) us regions := by
  intro rest
  rw [← Reads.code hcs rest, usesIn, usesIn, String.toList_append, String.toList_ofList,
    List.append_assoc, stripped_append (regionsBehind?_word hname.2), stripped_append hcs.1,
    List.cons_append, tokensFrom_word hname.1 hname.2 hc, String.ofList_toList, uses]
  · rintro _ _ h
    cases h
  · rintro _ _ h
    exact absurd (Token.word.inj h) hthrow

example : usesIn [.code] "@Get('@Put') /* @Delete */ x; // @Post\nthrow new Oops(y);".toList =
    [.decorator "Get", .thrown "Oops"] := by decide

end

end Scaffold.TypeScript
