import Scaffold.Proofs.Yaml.Block
import Scaffold.Proofs.Yaml.Quoted

/-!
# Written YAML mappings

What a written mapping consists of: names of letters (`IsName`), and values in one of the forms of
scalars, each with what is known of a text that gets the form. A mapping has no character that may
not stand in a YAML text (`isAllowed_writeValue`, `isAllowed_of_isLetter`).
-/

namespace Scaffold.Yaml

/-- The characters of names. -/
def isLetter (c : Char) : Bool := c.isLower || c == '_'

/-- Whether a text can be a name in a written mapping. -/
structure IsName (name : String) : Prop where
  nonempty : name.toList ≠ []
  letters : ∀ c ∈ name.toList, isLetter c = true
  short : name.toList.length ≤ 1024

/-- Whether a text is empty or begins with a name. -/
def AtName (cs : List Char) : Prop := ∀ c, cs.head? = some c → isLetter c = true

/-- How the value of an entry is written, and what stands there. -/
def scalarOf : Option String → Style × List Char
  | none => (.plain, "null".toList)
  | some s =>
    match Form.of s.toList with
    | .plain => (.plain, s.toList)
    | .single | .double => (.quoted, s.toList)
    | .literal => (.literal, s.toList)

/-- The tokens of an entry. -/
def entryTokens (e : String × Option String) : List Token :=
  [.key, .scalar .plain e.1.toList, .value, .scalar (scalarOf e.2).1 (scalarOf e.2).2]

variable {c d : Char} {cs : List Char}

/-! ## Letters -/

/-- Letters are not the characters that mean something in front of a token. -/
theorem ne_of_isLetter (h : isLetter c = true) (hd : isLetter d = false) : c ≠ d := by
  rintro rfl
  cases h.symm.trans hd

/-- A letter is neither blank nor break. -/
theorem isSeparator_of_isLetter (h : isLetter c = true) : isSeparator c = false := by
  simp [isSeparator, isBlank, isBreak, ne_of_isLetter h (d := ' ') rfl,
    ne_of_isLetter h (d := '\t') rfl, ne_of_isLetter h (d := '\n') rfl,
    ne_of_isLetter h (d := '\r') rfl, ne_of_isLetter h (d := '\u0085') rfl,
    ne_of_isLetter h (d := '\u2028') rfl, ne_of_isLetter h (d := '\u2029') rfl]

/-- A letter may stand in a YAML text. -/
theorem isAllowed_of_isLetter (h : isLetter c = true) : isAllowed c = true := by
  rw [isLetter, Bool.or_eq_true, beq_iff_eq] at h
  rcases h with h | rfl
  · have hrange : (decide ('a'.val ≤ c.val) && decide (c.val ≤ 'z'.val)) = true := h
    simp only [Bool.and_eq_true, decide_eq_true_eq, UInt32.le_iff_toNat_le] at hrange
    have hlow : 'a'.val.toNat = 0x61 := rfl
    have hhigh : 'z'.val.toNat = 0x7A := rfl
    have hprint : 0x20 ≤ c.toNat ∧ c.toNat ≤ 0x7E := by
      rw [Char.toNat]
      omega
    simp [isAllowed, hprint]
  · decide

/-- The text goes on with a name. -/
theorem AtName.goesOn (h : AtName cs) : GoesOn cs := fun c hc => isSeparator_of_isLetter (h c hc)

/-! ## Values -/

/-- The text of a value. -/
def writeValue : Option String → List Char
  | none => "null\n".toList
  | some s => writeText s.toList

/-- An entry is a name, a colon and a value. -/
theorem writeEntry_eq (name : String) (value : Option String) :
    writeEntry name value = name.toList ++ ':' :: ' ' :: writeValue value := by
  cases value <;> simp [writeEntry, writeValue]

/-- What a text is like that is written plain. -/
theorem Form.of_eq_plain (h : Form.of cs = .plain) :
    isAmbiguous cs = false ∧ canBePlain cs = true := by
  unfold Form.of at h
  split_ifs at h with _ _ hcond
  simpa using hcond

/-- What a text is like that is written in single quotes. -/
theorem Form.of_eq_single (h : Form.of cs = .single) : '\n' ∉ cs ∧ canBeSingle cs = true := by
  unfold Form.of at h
  split_ifs at h with hfeed _ _ hcond
  exact ⟨by simpa using hfeed, hcond⟩

/-- What a text is like that is written as a literal block. -/
theorem Form.of_eq_literal (h : Form.of cs = .literal) : canBeLiteral cs = true := by
  unfold Form.of at h
  split_ifs at h with _ hcond
  exact hcond

/-- The text of a mapping, entry by entry. -/
theorem toList_write (entries : List (String × Option String)) :
    (write entries).toList = entries.flatMap fun e => writeEntry e.1 e.2 := String.toList_ofList

/-- The text of entries begins with a name, if there is one. -/
theorem atName_entries {entries : List (String × Option String)}
    (hnames : ∀ e ∈ entries, IsName e.1) :
    AtName (entries.flatMap fun e => writeEntry e.1 e.2) := by
  cases entries with
  | nil => exact fun c hc => by cases hc
  | cons e entries =>
    have hname := hnames e List.mem_cons_self
    obtain ⟨c, cs, hcons⟩ := List.exists_cons_of_ne_nil hname.nonempty
    intro d hd
    rw [List.flatMap_cons, writeEntry_eq, hcons] at hd
    cases hd
    exact hname.letters c (hcons ▸ List.mem_cons_self)

/-! ## Characters -/

/-- The characters of a text without escapes may stand in a YAML text. -/
theorem isAllowed_of_needsEscape (h : needsEscape cs = false) (c : Char) (hc : c ∈ cs) :
    isAllowed c = true := by
  rw [needsEscape, Bool.or_eq_false_iff, List.any_eq_false] at h
  exact isAllowed_of_isPrintable (by simpa using h.1 c hc)

/-- The characters of the header of a literal block may stand in a YAML text. -/
theorem isAllowed_writeHeader (cs : List Char) : ∀ c ∈ writeHeader cs, isAllowed c = true := by
  unfold writeHeader
  cases cs.head?.any fun c => c == ' ' || isBreak c <;> cases endsOpen cs <;>
    cases cs.getLast?.any isBreak <;> exact List.all_eq_true.1 rfl

/-- Single quotes add characters that may stand in a YAML text. -/
theorem isAllowed_writeSingle (h : needsEscape cs = false) :
    ∀ c ∈ writeSingle false cs, isAllowed c = true := by
  intro c hc
  rcases mem_of_mem_writeSingle hc with hc | rfl | rfl
  · exact isAllowed_of_needsEscape h c hc
  · decide
  · decide

/-- So does the indentation of a literal block. -/
theorem isAllowed_writeLines (h : needsEscape cs = false) :
    ∀ c ∈ writeLines true cs, isAllowed c = true := by
  intro c hc
  rcases mem_of_mem_writeLines hc with hc | rfl | rfl
  · exact isAllowed_of_needsEscape h c hc
  · decide
  · decide

/-- The characters of a value may stand in a YAML text. -/
theorem isAllowed_writeValue (value : Option String) :
    ∀ c ∈ writeValue value, isAllowed c = true := by
  cases value with
  | none => exact List.all_eq_true.1 (by decide)
  | some s =>
    rw [writeValue, writeText]
    cases hof : Form.of s.toList with
    | plain =>
      have hplain := (Form.of_eq_plain hof).2
      simp only [canBePlain, Bool.not_eq_eq_eq_not, Bool.not_true, Bool.or_eq_false_iff] at hplain
      exact List.forall_mem_append.2
        ⟨isAllowed_of_needsEscape hplain.2, List.all_eq_true.1 (by decide)⟩
    | single =>
      have hsingle := (Form.of_eq_single hof).2
      simp only [canBeSingle, Bool.not_eq_eq_eq_not, Bool.not_true, Bool.or_eq_false_iff] at hsingle
      refine List.forall_mem_append.2 ⟨?_, List.all_eq_true.1 (by decide)⟩
      exact List.forall_mem_cons.2 ⟨by decide, isAllowed_writeSingle hsingle.1⟩
    | double =>
      have hescaped (c : Char) (hc : c ∈ s.toList.flatMap writeEscaped) : isAllowed c = true := by
        obtain ⟨d, -, hc⟩ := List.mem_flatMap.1 hc
        exact (escaped_writeEscaped d).isAllowed c hc
      refine List.forall_mem_append.2 ⟨?_, List.all_eq_true.1 (by decide)⟩
      exact List.forall_mem_cons.2 ⟨by decide, hescaped⟩
    | literal =>
      have hliteral := Form.of_eq_literal hof
      simp only [canBeLiteral, Bool.not_eq_eq_eq_not, Bool.not_true,
        Bool.or_eq_false_iff] at hliteral
      refine List.forall_mem_append.2 ⟨?_, isAllowed_writeLines hliteral.1.2⟩
      refine List.forall_mem_append.2 ⟨?_, List.all_eq_true.1 (by decide)⟩
      exact List.forall_mem_cons.2 ⟨by decide, isAllowed_writeHeader s.toList⟩

/-- Every entry takes three characters at least. -/
theorem length_entries {entries : List (String × Option String)}
    (hnames : ∀ e ∈ entries, IsName e.1) :
    3 * entries.length ≤ (entries.flatMap fun e => writeEntry e.1 e.2).length := by
  induction entries with
  | nil => exact Nat.zero_le _
  | cons e entries ih =>
    have ih := ih fun e he => hnames e (List.mem_cons_of_mem _ he)
    have hname := List.length_pos_iff.2 (hnames e List.mem_cons_self).nonempty
    simp only [List.flatMap_cons, writeEntry_eq, List.length_append, List.length_cons] at ih ⊢
    omega

end Scaffold.Yaml
