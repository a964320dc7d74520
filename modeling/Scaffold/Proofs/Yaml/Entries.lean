import Scaffold.Proofs.Yaml.Written

/-!
# The tokens of a written YAML mapping

The scanner goes over a written mapping entry by entry (`run_entry`): a name becomes a key when its
colon comes, and behind that stands a scalar, which is read as the text that it is written for
(`run_value`). Between entries the scanner is at the start of a line, or in front of the break
before it (`AtLine`).
-/

namespace Scaffold.Yaml

variable {c d : Char} {cs rest : List Char} {name : String} {index row column fuel : Nat}

namespace Scanner

variable {s t u : Scanner} {lexemes : Array Lexeme} {blocks : List Nat}

/-! ## One step -/

/-- The scanner in front of its next token. -/
def advance (s : Scanner) : Option Scanner :=
  ((s.toNextToken (s.cursor.rest.length + 1)).dropStale).map closeBlocks

/-- The scanner reads the next token. -/
theorem run_token (h : s.advance = some t) (hrest : t.cursor.rest = d :: rest)
    (hread : t.readToken d rest = some u) : run (fuel + 1) s = run fuel u := by
  rw [advance, Option.map_eq_some_iff] at h
  obtain ⟨t', ht', rfl⟩ := h
  rw [run, ht']
  simp only [Option.bind_eq_bind, Option.bind_some, hrest, hread]

/-- The scanner stops at the end of the text. -/
theorem run_end (h : s.advance = some t) (hrest : t.cursor.rest = []) :
    run (fuel + 1) s = t.closeAll.dropStart.map (·.push .streamEnd) := by
  rw [advance, Option.map_eq_some_iff] at h
  obtain ⟨t', ht', rfl⟩ := h
  rw [run, ht']
  simp only [Option.bind_eq_bind, Option.bind_some, hrest]
  cases t'.closeBlocks.closeAll.dropStart <;> rfl

/-- Spaces are passed over in front of a token. -/
theorem toNextToken_spaces {n : Nat} (fuel : Nat)
    (hs : s.cursor.rest = List.replicate n ' ' ++ rest) (h : GoesOn rest)
    (hnumber : rest.head? ≠ some '#') (hmark : s.cursor.rest.head? ≠ some '\ufeff') :
    s.toNextToken (fuel + 1) = { s with cursor := s.cursor.skip n } := by
  have hmark : (s.cursor.column == 0 && s.cursor.next? == some '\ufeff') = false := by
    rw [Cursor.next?, Bool.and_eq_false_iff]
    exact .inr (by simpa using hmark)
  have hblank (c : Char) (hc : rest.head? = some c) : isBlank c = false ∧ isBreak c = false :=
    Bool.or_eq_false_iff.1 (h c hc)
  have htake : (s.cursor.rest.takeWhile fun d =>
      d == ' ' || d == '\t' && (s.inFlow || !s.keyAllowed)) = List.replicate n ' ' := by
    rw [hs, List.takeWhile_append_of_pos fun c hc => by simp [List.eq_of_mem_replicate hc]]
    cases rest with
    | nil => exact List.append_nil _
    | cons c rest =>
      have hc := (hblank c rfl).1
      rw [isBlank, Bool.or_eq_false_iff] at hc
      rw [List.takeWhile_cons_of_neg (by simp [hc.1, hc.2]), List.append_nil]
  have hskip : (s.cursor.skip n).rest = rest := by
    rw [Cursor.skip, hs]
    exact List.drop_left' (List.length_replicate)
  have hcomment : (s.cursor.skip n).skipComment = s.cursor.skip n := by
    rw [Cursor.skipComment, Cursor.next?, hskip, if_neg (by simpa using hnumber)]
  have hbreak : (s.cursor.skip n).atBreak = false := by
    rw [Cursor.atBreak, hskip]
    exact noBreak_of_head fun c hc => (hblank c hc).2
  rw [toNextToken]
  simp only [hmark, Bool.false_eq_true, if_false, htake, List.length_replicate, hcomment, hbreak]

/-- The end of a line is passed over in front of a name. -/
theorem toNextToken_lineEnd (hs : s.cursor = ⟨'\n' :: cs, index, row, column⟩) (h : AtName cs) :
    s.toNextToken (fuel + 1 + 1) = { s with
      cursor := ⟨cs, index + 1, row + 1, 0⟩, keyAllowed := s.keyAllowed || !s.inFlow } := by
  have hnext := toNextToken_spaces (n := 0)
    (s := { s with cursor := ⟨cs, index + 1, row + 1, 0⟩, keyAllowed := s.keyAllowed || !s.inFlow })
    fuel rfl h.goesOn (fun hc => by cases h _ hc) (fun hc => by cases h _ hc)
  have hmark : (column == 0 && some '\n' == some '\ufeff') = false := by simp
  rw [toNextToken, hs]
  simp only [Cursor.next?, List.head?_cons, hmark, Bool.false_eq_true, if_false]
  exact hnext

/-- The scanner is in front of a line of a mapping at the margin, or of the break that ends the one
before. -/
def AtLine (s : Scanner) (lexemes : Array Lexeme) (blocks : List Nat) (cs : List Char) : Prop :=
  ∃ index row, s.advance = some { cursor := ⟨cs, index, row, 0⟩, lexemes, blocks }

/-- The blocks that are open around a line: none in front of the first one, one at the
margin later. -/
def AtMargin (blocks : List Nat) : Prop := blocks = [] ∨ blocks = [0]

/-- At the margin no block is closed. -/
theorem AtMargin.closed (h : AtMargin blocks) (column : Nat) :
    closed column blocks = (blocks, 0) := by
  rcases h with rfl | rfl <;> rfl

/-- No block is closed on a line at the margin. -/
theorem closeBlocks_of_atMargin (h : AtMargin s.blocks) : s.closeBlocks = s := by
  have hclose : s.close s.blocks 0 = s := by simp [close]
  rw [closeBlocks, h.closed]
  split
  · rfl
  · exact hclose

/-- Nothing changes in front of a token, but that the scanner gets there. -/
theorem advance_of_toNextToken (h : s.toNextToken (s.cursor.rest.length + 1) = t)
    (houter : t.outer = []) (hstart : ∀ k, t.start = some k → isStale t.cursor k = false)
    (hblocks : AtMargin t.blocks) : s.advance = some t := by
  have hrefresh : refresh t.cursor t.start = some t.start := by
    cases hk : t.start with
    | none => rfl
    | some k => rw [refresh, hstart k hk, if_neg Bool.false_ne_true]
  have hdrop : t.dropStale = some t := by
    rw [dropStale, hrefresh, houter]
    change some { t with outer := [] } = some t
    rw [← houter]
  rw [advance, h, hdrop, Option.map_some, closeBlocks_of_atMargin hblocks]

/-- The scanner is at the start of a line. -/
theorem atLine_of_start (hblocks : AtMargin blocks) (h : AtName cs) :
    AtLine { cursor := ⟨cs, index, row, 0⟩, lexemes, blocks } lexemes blocks cs :=
  ⟨index, row, advance_of_toNextToken (toNextToken_spaces (n := 0) _ rfl h.goesOn
    (fun hc => by cases h _ hc) fun hc => by cases h _ hc) rfl (fun _ hk => by cases hk) hblocks⟩

/-- The scanner is at the end of a line. -/
theorem atLine_of_end (hblocks : AtMargin blocks) (h : AtName cs) :
    AtLine { cursor := ⟨'\n' :: cs, index, row, column⟩, lexemes, blocks, keyAllowed := false }
      lexemes blocks cs :=
  ⟨index + 1, row + 1, advance_of_toNextToken (toNextToken_lineEnd rfl h) rfl
    (fun _ hk => by cases hk) hblocks⟩

/-! ## Plain scalars -/

/-- Whether a plain scalar begins with a character, and nothing else does. -/
structure StartsPlain (c : Char) (cs : List Char) : Prop where
  noIndicator : "#,[]\x7b\x7d&*!|>'\"%@\x60".toList.contains c = false
  goesOn : isSeparator c = false
  noMark : c = '?' ∨ c = ':' ∨ c = '-' → endsHere cs = false

/-- Such a character is none of the indicators. -/
theorem StartsPlain.ne (h : StartsPlain c cs)
    (hd : "#,[]\x7b\x7d&*!|>'\"%@\x60".toList.contains d = true) : c ≠ d := by
  rintro rfl
  cases h.noIndicator.symm.trans hd

/-- A scalar that begins plain is taken to be plain. -/
theorem startsPlain_eq_true (h : StartsPlain c rest) (hflow : s.inFlow = false) :
    s.startsPlain c rest = true := by
  by_cases hmark : c = '?' ∨ c = ':' ∨ c = '-'
  · have hends := h.noMark hmark
    have hblank : rest.head?.any isBlank = false := by
      cases rest with
      | nil => rfl
      | cons d rest => exact (Bool.or_eq_false_iff.1 hends).1
    rcases hmark with rfl | rfl | rfl <;> simp [startsPlain, hflow, hends, hblank]
  · have hindicator : isIndicator c = false := by
      have hlist := h.noIndicator
      simp only [not_or] at hmark
      simp at hlist
      simp [isIndicator, hmark, hlist]
    simp [startsPlain, h.goesOn, hindicator]

/-- A plain scalar begins. -/
theorem readToken_plain (h : StartsPlain c rest) (hcolumn : s.cursor.column ≠ 0 ∨ isLetter c = true)
    (hrest : s.cursor.rest = c :: rest) (houter : s.outer = []) :
    s.readToken c rest = s.plainScalar := by
  have hflow : s.inFlow = false := by rw [inFlow, houter]; rfl
  have hmark (d : Char) (hd : isLetter d = false) : s.cursor.atMark [d, d, d] = false := by
    rw [Cursor.atMark, hrest]
    rcases hcolumn with hcolumn | hletter
    · simp [hcolumn]
    · simp [(ne_of_isLetter hletter hd).symm]
  have hends (d : Char) (hd : d = '?' ∨ d = ':' ∨ d = '-') : (c == d && endsHere rest) = false := by
    refine Bool.and_eq_false_imp.2 fun hc => h.noMark ?_
    rwa [eq_of_beq hc]
  have hne (d : Char) (hd : "#,[]\x7b\x7d&*!|>'\"%@\x60".toList.contains d = true) :
      (c == d) = false :=
    beq_eq_false_iff_ne.2 (h.ne hd)
  unfold readToken
  simp only [hmark '-' rfl, hmark '.' rfl, hflow, startsPlain_eq_true h hflow, hends '?' (.inl rfl),
    hends ':' (.inr (.inl rfl)), hends '-' (.inr (.inr rfl)), hne '%' (by decide),
    hne '[' (by decide), hne ']' (by decide), hne '\x7b' (by decide), hne '\x7d' (by decide),
    hne ',' (by decide), hne '*' (by decide), hne '&' (by decide), hne '!' (by decide),
    hne '|' (by decide), hne '>' (by decide), hne '\'' (by decide), hne '"' (by decide),
    Bool.false_or, Bool.and_false, Bool.false_and, Bool.false_eq_true, if_false, if_true]

/-- A letter begins a plain scalar. -/
theorem startsPlain_of_isLetter (h : isLetter c = true) (cs : List Char) : StartsPlain c cs := by
  refine ⟨?_, isSeparator_of_isLetter h, ?_⟩
  · refine Bool.eq_false_iff.2 fun hc => ?_
    have hall : "#,[]\x7b\x7d&*!|>'\"%@\x60".toList.all (fun d => !isLetter d) = true := by decide
    have := List.all_eq_true.1 hall c (by simpa using hc)
    simp [h] at this
  · rintro (rfl | rfl | rfl) <;> cases h

/-- A text that can be written plain begins a plain scalar. -/
theorem startsPlain_of_canBePlain (h : canBePlain (c :: cs) = true) (rest : List Char) :
    StartsPlain c (cs ++ '\n' :: rest) := by
  have hgoes := (PlainText.of_canBePlain (List.cons_ne_nil c cs) h).goesOn c rfl
  have hends : endsHere (cs ++ '\n' :: rest) = endsHere cs := by cases cs <;> rfl
  simp only [canBePlain, Bool.not_eq_eq_eq_not, Bool.not_true, Bool.or_eq_false_iff] at h
  have hstart := h.1.1.2
  simp only [startsWithIndicator, Bool.or_eq_false_iff] at hstart
  refine ⟨hstart.2.1, hgoes, fun hmark => ?_⟩
  have := hstart.2.2
  rw [Bool.and_eq_false_iff] at this
  rw [hends]
  refine this.resolve_left fun hc => ?_
  simp only [Bool.or_eq_false_iff, beq_eq_false_iff_ne] at hc
  rcases hmark with hmark | hmark | hmark
  · exact hc.1.1 hmark
  · exact hc.1.2 hmark
  · exact hc.2 hmark

/-! ## Entries -/

/-- Where a key may have begun at the start of a line. -/
def keyStart (index row : Nat) (lexemes : Array Lexeme) (blocks : List Nat) : KeyStart where
  lexeme := lexemes.size
  index := index
  line := row
  column := 0
  required := blocks.head? == some 0

/-- A name is a word in front of a colon. -/
theorem plainWord_name (h : ∀ c ∈ cs, isLetter c = true) (rest : List Char) :
    plainWord false (cs ++ ':' :: ' ' :: rest) = some cs := by
  induction cs with
  | nil => rfl
  | cons c cs ih =>
    have hc := h c List.mem_cons_self
    have hcolon : (c == ':') = false := beq_eq_false_iff_ne.2 (ne_of_isLetter hc rfl)
    rw [List.cons_append, plainWord, if_neg (by simp [isSeparator_of_isLetter hc]), hcolon,
      ih fun d hd => h d (List.mem_cons_of_mem c hd)]
    rfl

/-- What a plain scalar does to the scanner. -/
theorem plainScalar_eq {indent : Nat} {text : List Char} {broken : Bool} {after : Cursor}
    (hsave : s.saveStart = some t)
    (hindent : (match t.blocks with
      | [] => 0
      | b :: _ => b + 1) = indent)
    (hread : readPlain t.inFlow indent (t.cursor.rest.length + 1) [] {} t.cursor =
      some (text, broken, after)) :
    s.plainScalar =
      some { t.push (.scalar .plain text) with cursor := after, keyAllowed := broken } := by
  subst hindent
  rw [plainScalar, hsave]
  exact (congrArg (fun r => Option.bind r _) hread).trans rfl

/-- A name is read as a plain scalar, with which a key may begin. -/
theorem plainScalar_name (h : IsName name) :
    plainScalar { cursor := ⟨name.toList ++ ':' :: ' ' :: rest, index, row, 0⟩, lexemes, blocks } =
      some {
        cursor := ⟨':' :: ' ' :: rest, index + name.toList.length, row, name.toList.length⟩
        lexemes := lexemes.push { token := .scalar .plain name.toList }
        blocks
        start := some (keyStart index row lexemes blocks)
        keyAllowed := false } := by
  obtain ⟨c, cs, hname⟩ := List.exists_cons_of_ne_nil h.nonempty
  have hc : isLetter c = true := h.letters c (hname ▸ List.mem_cons_self)
  have hstart : name.toList.head? ≠ some '#' := by
    rw [hname]
    exact fun h => ne_of_isLetter hc rfl (Option.some.inj h)
  have hmark : Cursor.atDocumentMark ⟨name.toList ++ ':' :: ' ' :: rest, index, row, 0⟩ =
      false := by
    rw [hname]
    simp [Cursor.atDocumentMark, Cursor.atMark, (ne_of_isLetter hc (d := '-') rfl).symm,
      (ne_of_isLetter hc (d := '.') rfl).symm]
  have hread (indent : Nat) :
      readPlain false indent ((name.toList ++ ':' :: ' ' :: rest).length + 1) [] {}
      ⟨name.toList ++ ':' :: ' ' :: rest, index, row, 0⟩ = some (name.toList, false,
        ⟨':' :: ' ' :: rest, index + name.toList.length, row, name.toList.length⟩) := by
    rw [readPlain_word h.nonempty hstart (plainWord_name h.letters rest) hmark,
      if_neg (by exact Bool.false_ne_true), Nat.zero_add]
    rfl
  have hsave :
      saveStart { cursor := ⟨name.toList ++ ':' :: ' ' :: rest, index, row, 0⟩, lexemes, blocks } =
      some {
        cursor := ⟨name.toList ++ ':' :: ' ' :: rest, index, row, 0⟩
        lexemes
        blocks
        start := some (keyStart index row lexemes blocks) } := rfl
  exact plainScalar_eq hsave rfl (hread _)

/-- The lexeme of a key. -/
def keyLexeme (name : String) (blocks : List Nat) : Lexeme where
  token := .scalar .plain name.toList
  key := true
  mapping := blocks.isEmpty

/-- The lexemes up to the colon of a key. -/
def withKey (name : String) (lexemes : Array Lexeme) (blocks : List Nat) : Array Lexeme :=
  (lexemes.push (keyLexeme name blocks)).push { token := .value }

/-- The scanner behind the colon of a key. -/
def behindColon (lexemes : Array Lexeme) (c : Cursor) : Scanner where
  cursor := c
  lexemes := lexemes
  blocks := [0]
  keyAllowed := false

/-- The last lexeme is changed in its place. -/
theorem modify_push (lexemes : Array Lexeme) (l : Lexeme) (f : Lexeme → Lexeme) :
    (lexemes.push l).modify lexemes.size f = lexemes.push (f l) := by
  apply Array.ext'
  simp [Array.toList_modify, List.modify_eq_take_drop]

/-- The colon marks the name as a key, with which a mapping begins if none is open. -/
theorem valueIndicator_name (hblocks : AtMargin blocks) :
    valueIndicator {
        cursor := ⟨':' :: ' ' :: rest, index, row, column⟩
        lexemes := lexemes.push { token := .scalar .plain name.toList }
        blocks
        start := some (keyStart index row lexemes blocks)
        keyAllowed := false } =
      some (behindColon (withKey name lexemes blocks) ⟨' ' :: rest, index + 1, row,
        column + 1⟩) := by
  have hmodify := modify_push lexemes { token := .scalar .plain name.toList }
    fun l => { l with key := true, mapping := blocks.isEmpty }
  rcases hblocks with rfl | rfl
  all_goals
    refine congrArg some ?_
    simp only [withKey, keyLexeme, ← hmodify]
    rfl

/-- A colon in front of a blank stands behind a key. -/
theorem readToken_colon (hcolumn : s.cursor.column ≠ 0) :
    s.readToken ':' (' ' :: rest) = s.valueIndicator := by
  simp [readToken, Cursor.atMark, hcolumn, endsHere, isSeparator, isBlank]

/-- The scanner reads a name and its colon. -/
theorem run_key (fuel : Nat) (h : AtLine s lexemes blocks (name.toList ++ ':' :: ' ' :: rest))
    (hname : IsName name) (hblocks : AtMargin blocks) :
    ∃ index row column, 0 < column ∧
      run (fuel + 1 + 1) s =
        run fuel (behindColon (withKey name lexemes blocks) ⟨' ' :: rest, index, row, column⟩) := by
  obtain ⟨index, row, hadvance⟩ := h
  obtain ⟨c, cs, hcons⟩ := List.exists_cons_of_ne_nil hname.nonempty
  have hc : isLetter c = true := hname.letters c (hcons ▸ List.mem_cons_self)
  have hpos : 0 < name.toList.length := List.length_pos_iff.2 hname.nonempty
  have hrest : name.toList ++ ':' :: ' ' :: rest = c :: (cs ++ ':' :: ' ' :: rest) := by
    rw [hcons, List.cons_append]
  have hplain := readToken_plain
    (s := { cursor := ⟨name.toList ++ ':' :: ' ' :: rest, index, row, 0⟩, lexemes, blocks })
    (startsPlain_of_isLetter hc (cs ++ ':' :: ' ' :: rest)) (.inr hc) hrest rfl
  rw [run_token hadvance hrest (hplain.trans (plainScalar_name hname))]
  have hfresh : isStale ⟨':' :: ' ' :: rest, index + name.toList.length, row, name.toList.length⟩
      (keyStart index row lexemes blocks) = false := by
    have := hname.short
    simp [isStale, keyStart]
    omega
  have hadvance' := advance_of_toNextToken
    (s := {
        cursor := ⟨':' :: ' ' :: rest, index + name.toList.length, row, name.toList.length⟩
        lexemes := lexemes.push { token := .scalar .plain name.toList }
        blocks
        start := some (keyStart index row lexemes blocks)
        keyAllowed := false })
    (toNextToken_spaces (n := 0) _ rfl (by rintro c hc; cases hc; rfl) (by simp) (by simp)) rfl
    (fun k hk => by cases hk; exact hfresh) hblocks
  rw [run_token hadvance' rfl
    ((readToken_colon (Nat.ne_of_gt hpos)).trans (valueIndicator_name hblocks))]
  exact ⟨_, _, _, Nat.succ_pos _, rfl⟩

/-- The scanner goes to the value of an entry. -/
theorem advance_behindColon (lexemes : Array Lexeme) (index row column : Nat) (h : GoesOn rest)
    (hnumber : rest.head? ≠ some '#') :
    (behindColon lexemes ⟨' ' :: rest, index, row, column⟩).advance =
      some (behindColon lexemes ⟨rest, index + 1, row, column + 1⟩) :=
  advance_of_toNextToken (toNextToken_spaces (n := 1) _ rfl h hnumber (by simp [behindColon])) rfl
    (fun _ hk => by cases hk) (.inr rfl)

/-- The scanner reads a plain value. -/
theorem run_plain (hne : cs ≠ []) (hplain : canBePlain cs = true) (hrest : AtName rest) :
    ∃ u, run (fuel + 1) (behindColon lexemes ⟨' ' :: (cs ++ '\n' :: rest), index, row, column⟩) =
        run fuel u ∧
      AtLine u (lexemes.push { token := .scalar .plain cs }) [0] rest := by
  have htext := PlainText.of_canBePlain hne hplain
  have hfuel : cs.length < (cs ++ '\n' :: rest).length + 1 := by
    rw [List.length_append]
    omega
  obtain ⟨index', row', hread⟩ : ∃ index' row',
      readPlain false 1 ((cs ++ '\n' :: rest).length + 1) [] {}
        ⟨cs ++ '\n' :: rest, index + 1, row, column + 1⟩ =
          some (cs, true, ⟨rest, index', row', 0⟩) :=
    readPlain_append htext hfuel (Nat.succ_pos column) hrest.goesOn
  obtain ⟨c, cs, rfl⟩ := List.exists_cons_of_ne_nil hne
  have hadvance := advance_behindColon lexemes index row column
    (htext.goesOn.append hne ('\n' :: rest)) htext.start
  have htoken := readToken_plain
    (s := behindColon lexemes ⟨c :: cs ++ '\n' :: rest, index + 1, row, column + 1⟩)
    (startsPlain_of_canBePlain hplain rest) (.inl (Nat.succ_ne_zero column)) rfl rfl
  rw [run_token hadvance rfl (htoken.trans (plainScalar_eq rfl rfl hread))]
  exact ⟨_, rfl, atLine_of_start (.inr rfl) hrest⟩

/-- What a quoted scalar does to the scanner behind the colon of a key. -/
theorem quotedScalar_eq {quote : Char} {text : List Char} {after : Cursor}
    (hread : readQuoted quote (rest.length + 1 + 1) [] ⟨rest, index + 1, row, column + 1⟩ =
      some (text, after)) :
    quotedScalar (behindColon lexemes ⟨quote :: rest, index, row, column⟩) quote =
      some (behindColon (lexemes.push { token := .scalar .quoted text }) after) := by
  have hsave (c : Cursor) : saveStart (behindColon lexemes c) = some (behindColon lexemes c) := rfl
  rw [quotedScalar, keyable, hsave]
  simp only [Option.bind_eq_bind, Option.bind_some, takeWith, behindColon, List.length_cons,
    Cursor.skip_cons, hread, Option.map_some]
  rfl

/-- The scanner reads a value in quotes. -/
theorem run_quoted {quote : Char} {text : List Char} (hquote : quote = '\'' ∨ quote = '"')
    (hread : ∃ index' row' column',
      readQuoted quote (cs.length + 1 + 1) [] ⟨cs, index + 2, row, column + 2⟩ =
        some (text, ⟨'\n' :: rest, index', row', column'⟩))
    (hrest : AtName rest) :
    ∃ u, run (fuel + 1) (behindColon lexemes ⟨' ' :: quote :: cs, index, row, column⟩) =
        run fuel u ∧
      AtLine u (lexemes.push { token := .scalar .quoted text }) [0] rest := by
  obtain ⟨index', row', column', hread⟩ := hread
  have hgoes : GoesOn (quote :: cs) := by
    rcases hquote with rfl | rfl <;> exact goesOn_cons rfl _
  have hadvance := advance_behindColon lexemes index row column hgoes
    (by rcases hquote with rfl | rfl <;> simp)
  have htoken : readToken (behindColon lexemes ⟨quote :: cs, index + 1, row, column + 1⟩) quote cs =
      quotedScalar (behindColon lexemes ⟨quote :: cs, index + 1, row, column + 1⟩) quote := by
    rcases hquote with rfl | rfl <;> simp [readToken, behindColon, Cursor.atMark]
  rw [run_token hadvance rfl (htoken.trans (quotedScalar_eq hread))]
  exact ⟨_, rfl, atLine_of_end (.inr rfl) hrest⟩

/-- The scanner reads a value in single quotes. -/
theorem run_single (h : SingleText cs) (hrest : AtName rest) :
    ∃ u, run (fuel + 1) (behindColon lexemes
          ⟨' ' :: '\'' :: (writeSingle false cs ++ '\'' :: '\n' :: rest), index, row, column⟩) =
        run fuel u ∧
      AtLine u (lexemes.push { token := .scalar .quoted cs }) [0] rest := by
  have hfuel : cs.length < (writeSingle false cs ++ '\'' :: '\n' :: rest).length + 1 + 1 := by
    have := length_le_writeSingle false cs
    rw [List.length_append]
    omega
  have hread := readQuoted_writeSingle [] (index + 2) row h hfuel (Nat.succ_pos (column + 1)) rest
  exact run_quoted (.inl rfl) hread hrest

/-- The scanner reads a value in double quotes. -/
theorem run_double (cs : List Char) (hrest : AtName rest) :
    ∃ u, run (fuel + 1) (behindColon lexemes
          ⟨' ' :: '"' :: (cs.flatMap writeEscaped ++ '"' :: '\n' :: rest), index, row, column⟩) =
        run fuel u ∧
      AtLine u (lexemes.push { token := .scalar .quoted cs }) [0] rest := by
  have hfuel : cs.length < (cs.flatMap writeEscaped ++ '"' :: '\n' :: rest).length + 1 + 1 := by
    have := length_le_writeEscaped cs
    rw [List.length_append]
    omega
  have hread := readQuoted_writeEscaped [] (index + 2) row hfuel (Nat.succ_pos (column + 1)) rest
  exact run_quoted (.inr rfl) hread hrest

/-- What a literal block does to the scanner behind the colon of a key. -/
theorem blockScalar_eq {text : List Char} {after : Cursor}
    (hread : readBlock true (some 0) ⟨rest, index + 1, row, column + 1⟩ = some (text, after)) :
    blockScalar (behindColon lexemes ⟨'|' :: rest, index, row, column⟩) .literal =
      some {
        cursor := after
        lexemes := lexemes.push { token := .scalar .literal text }
        blocks := [0] } := by
  have hdrop (c : Cursor) : dropStart (behindColon lexemes c) = some (behindColon lexemes c) := rfl
  rw [blockScalar, hdrop]
  simp only [Option.bind_eq_bind, Option.bind_some, behindColon, List.head?_cons, Cursor.skip_cons,
    beq_self_eq_true, hread]
  rfl

/-- The scanner reads a literal block. -/
theorem run_literal (hprint : ∀ c ∈ cs, isPrintable c = true) (hne : cs ≠ [])
    (hrest : AtName rest) :
    ∃ u, run (fuel + 1) (behindColon lexemes
          ⟨' ' :: '|' :: (writeHeader cs ++ '\n' :: (writeLines true cs ++ rest)),
            index, row, column⟩) =
        run fuel u ∧
      AtLine u (lexemes.push { token := .scalar .literal cs }) [0] rest := by
  obtain ⟨index', row', hread⟩ :=
    readBlock_writeLines (index + 2) row (column + 2) hprint hne hrest.goesOn
  have hgoes : GoesOn ('|' :: (writeHeader cs ++ '\n' :: (writeLines true cs ++ rest))) :=
    goesOn_cons rfl _
  have hadvance := advance_behindColon lexemes index row column hgoes (by simp)
  have htoken (cs : List Char) (c : Cursor) (hc : c.column ≠ 0) :
      readToken (behindColon lexemes c) '|' cs = blockScalar (behindColon lexemes c) .literal := by
    simp [readToken, behindColon, Cursor.atMark, hc, inFlow]
  rw [run_token hadvance rfl ((htoken _ _ (Nat.succ_ne_zero column)).trans (blockScalar_eq hread))]
  exact ⟨_, rfl, atLine_of_start (.inr rfl) hrest⟩

/-! ## Mappings -/

/-- The scanner reads a value. -/
theorem run_value (fuel : Nat) (lexemes : Array Lexeme) (index row column : Nat)
    (value : Option String) (hrest : AtName rest) :
    ∃ u, run (fuel + 1)
      (behindColon lexemes ⟨' ' :: (writeValue value ++ rest), index, row, column⟩) =
        run fuel u ∧
      AtLine u (lexemes.push { token := .scalar (scalarOf value).1 (scalarOf value).2 })
        [0] rest := by
  cases value with
  | none =>
    have hnull : writeValue none = "null".toList ++ ['\n'] := rfl
    rw [hnull, List.append_assoc, List.singleton_append]
    exact run_plain (by decide) (by decide) hrest
  | some s =>
    rw [writeValue, writeText, scalarOf]
    cases hof : Form.of s.toList with
    | plain =>
      obtain ⟨hambiguous, hplain⟩ := Form.of_eq_plain hof
      have hne : s.toList ≠ [] := by
        intro h
        rw [h] at hambiguous
        cases hambiguous
      simp only [List.append_assoc, List.singleton_append]
      exact run_plain hne hplain hrest
    | single =>
      obtain ⟨hfeed, hsingle⟩ := Form.of_eq_single hof
      simp only [List.append_assoc, List.cons_append, List.nil_append]
      exact run_single (.of_canBeSingle hsingle hfeed) hrest
    | double =>
      simp only [List.append_assoc, List.cons_append, List.nil_append]
      exact run_double s.toList hrest
    | literal =>
      have hliteral := Form.of_eq_literal hof
      simp only [canBeLiteral, needsEscape, Bool.not_eq_eq_eq_not, Bool.not_true,
        Bool.or_eq_false_iff, List.any_eq_false, List.isEmpty_eq_false_iff] at hliteral
      simp only [List.append_assoc, List.cons_append, List.nil_append]
      exact run_literal (fun c hc => by simpa using hliteral.1.2.1 c hc) hliteral.1.1 hrest

/-- The tokens of lexemes. -/
def tokens (lexemes : Array Lexeme) : List Token := lexemes.toList.flatMap Lexeme.tokens

/-- The scanner reads an entry. -/
theorem run_entry {entry : String × Option String} (fuel : Nat)
    (h : AtLine s lexemes blocks (writeEntry entry.1 entry.2 ++ rest)) (hname : IsName entry.1)
    (hblocks : AtMargin blocks) (hrest : AtName rest) :
    ∃ u more, run (fuel + 3) s = run fuel u ∧ AtLine u more [0] rest ∧
      tokens more = tokens lexemes ++
        ((if blocks.isEmpty then [.blockMappingStart] else []) ++ entryTokens entry) := by
  rw [writeEntry_eq, List.append_assoc, List.cons_append, List.cons_append] at h
  obtain ⟨index, row, column, _, hkey⟩ := run_key (fuel + 1) h hname hblocks
  obtain ⟨u, hvalue, hu⟩ :=
    run_value fuel (withKey entry.1 lexemes blocks) index row column entry.2 hrest
  refine ⟨u, _, hkey.trans hvalue, hu, ?_⟩
  cases blocks <;> simp [tokens, withKey, keyLexeme, Lexeme.tokens, entryTokens]

/-- The scanner reads the entries behind the first one, and the end. -/
theorem run_entries {entries : List (String × Option String)}
    (h : AtLine s lexemes [0] (entries.flatMap fun e => writeEntry e.1 e.2))
    (hnames : ∀ e ∈ entries, IsName e.1) (hfuel : 3 * entries.length < fuel) :
    ∃ u, run fuel s = some u ∧
      tokens u.lexemes =
        tokens lexemes ++ (entries.flatMap entryTokens ++ [.blockEnd, .streamEnd]) := by
  induction entries generalizing s lexemes fuel with
  | nil =>
    obtain ⟨index, row, hadvance⟩ := h
    obtain ⟨fuel, rfl⟩ := Nat.exists_eq_succ_of_ne_zero (Nat.ne_of_gt hfuel)
    refine ⟨{
      cursor := ⟨[], index, row, 0⟩
      lexemes := (lexemes ++ [({ token := .blockEnd } : Lexeme)].toArray).push
        { token := .streamEnd } },
      (run_end hadvance rfl).trans rfl, ?_⟩
    simp [tokens, Lexeme.tokens]
  | cons e entries ih =>
    have hnames' := fun e he => hnames e (List.mem_cons_of_mem _ he)
    -- an entry takes three rounds: the name, the colon and the value
    obtain ⟨fuel, rfl⟩ : ∃ n, fuel = n + 3 := ⟨fuel - 3, by rw [List.length_cons] at hfuel; omega⟩
    rw [List.flatMap_cons] at h
    obtain ⟨t, more, hrun, ht, htokens⟩ := run_entry fuel h (hnames e List.mem_cons_self)
      (.inr rfl) (atName_entries hnames')
    have hfuel' : 3 * entries.length < fuel := by rw [List.length_cons] at hfuel; omega
    obtain ⟨u, hend, hu⟩ := ih ht hnames' hfuel'
    refine ⟨u, hrun.trans hend, ?_⟩
    rw [hu, htokens]
    simp

end Scanner

/-- The tokens of a written mapping are those of its entries. -/
theorem tokens?_write {entries : List (String × Option String)} (hne : entries ≠ [])
    (hnames : ∀ e ∈ entries, IsName e.1) :
    tokens? (write entries).toList =
      some (.blockMappingStart :: (entries.flatMap entryTokens ++ [.blockEnd, .streamEnd])) := by
  have hallowed : (write entries).toList.all isAllowed = true := by
    rw [toList_write, List.all_eq_true]
    intro c hc
    obtain ⟨e, he, hc⟩ := List.mem_flatMap.1 hc
    rw [writeEntry_eq] at hc
    simp only [List.mem_append, List.mem_cons] at hc
    rcases hc with hc | rfl | rfl | hc
    · exact isAllowed_of_isLetter ((hnames e he).letters c hc)
    · decide
    · decide
    · exact isAllowed_writeValue e.2 c hc
  obtain ⟨e, entries, rfl⟩ := List.exists_cons_of_ne_nil hne
  have hlength := length_entries hnames
  have hstart : Scanner.AtLine { cursor := ⟨_, 0, 0, 0⟩ } #[] [] _ :=
    Scanner.atLine_of_start (.inl rfl) (atName_entries hnames)
  obtain ⟨fuel, hfuel, hmore⟩ : ∃ n, (write (e :: entries)).toList.length + 2 = n + 3 ∧
      3 * entries.length < n := by
    rw [List.length_cons] at hlength
    rw [toList_write]
    exact ⟨(List.flatMap (fun e => writeEntry e.1 e.2) (e :: entries)).length - 1, by omega,
      by omega⟩
  rw [tokens?, if_pos hallowed, hfuel, toList_write]
  rw [List.flatMap_cons] at hstart
  have hnames' : ∀ e ∈ entries, IsName e.1 := fun e he => hnames e (List.mem_cons_of_mem _ he)
  obtain ⟨t, more, hentry, ht, htokens⟩ := Scanner.run_entry fuel hstart
    (hnames e List.mem_cons_self) (.inl rfl) (atName_entries hnames')
  obtain ⟨u, hentries, hu⟩ := Scanner.run_entries ht hnames' hmore
  rw [List.flatMap_cons, hentry, hentries, Option.map_some]
  refine congrArg some (hu.trans ?_)
  rw [htokens]
  simp [Scanner.tokens]

end Scaffold.Yaml
