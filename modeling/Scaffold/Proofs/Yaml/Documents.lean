import Scaffold.Proofs.Yaml.Entries

/-!
# Reading back YAML documents

A mapping that is written from names and texts is the document with these entries (`ofText?_write`),
which has no anchor. A value that may be absent is read as what it was written for
(`optional_scalarOf`): the word for an absent value stands plain, and a text that reads like it does
not.
-/

namespace Scaffold.Yaml

/-- The node of an entry. -/
def entryNode {ref : Type} (e : String × Option String) : Node ref × Node ref :=
  (.scalar {} .plain e.1.toList, .scalar {} (scalarOf e.2).1 (scalarOf e.2).2)

variable {entries : List (String × Option String)} {rest : List Token} {fuel : Nat}

namespace Node

/-- An entry is read up to the next one. -/
theorem readBlockEntries_entry (e : String × Option String) (ts : List Token) :
    readBlockEntries [] (fuel + 3) (entryTokens e ++ ts) =
      (readBlockEntries [] (fuel + 2) ts).bind fun p => some (entryNode e :: p.1, p.2) := rfl

/-- The entries of a mapping are read up to its end. -/
theorem readBlockEntries_entries (hfuel : entries.length + 2 ≤ fuel) :
    readBlockEntries [] fuel (entries.flatMap entryTokens ++ .blockEnd :: rest) =
      some (entries.map entryNode, rest) := by
  induction entries generalizing fuel with
  | nil =>
    obtain ⟨fuel, rfl⟩ := Nat.exists_eq_succ_of_ne_zero (Nat.ne_of_gt (Nat.zero_lt_of_lt hfuel))
    rfl
  | cons e entries ih =>
    obtain ⟨fuel, rfl⟩ : ∃ n, fuel = n + 3 := ⟨fuel - 3, by rw [List.length_cons] at hfuel; omega⟩
    have hfuel : entries.length + 2 ≤ fuel + 2 := by rw [List.length_cons] at hfuel; omega
    rw [List.flatMap_cons, List.append_assoc, readBlockEntries_entry, ih hfuel, Option.bind_some,
      List.map_cons]

/-- The tokens of a mapping are a document. -/
theorem ofTokens?_entries :
    ofTokens? (.blockMappingStart :: (entries.flatMap entryTokens ++ [.blockEnd, .streamEnd])) =
      some (.mapping {} (entries.map entryNode)) := by
  have hlength :
      entries.length ≤ (entries.flatMap entryTokens ++ [Token.blockEnd, .streamEnd]).length := by
    have : (entries.flatMap entryTokens).length = entries.length * 4 := by
      simp [List.length_flatMap, entryTokens]
    rw [List.length_append]
    omega
  have hread (fuel : Nat) (hfuel : entries.length + 2 ≤ fuel) : readDocument (fuel + 1)
      (.blockMappingStart :: (entries.flatMap entryTokens ++ [.blockEnd, .streamEnd])) =
      some (.mapping {} (entries.map entryNode), [.streamEnd]) :=
    (congrArg (Option.map _) (readBlockEntries_entries hfuel)).trans rfl
  rw [ofTokens?, hread _ (by rw [List.length_cons]; omega)]
  rfl

end Node

/-! ## Numbers of aliases -/

namespace Node

/-- Nothing in the entries needs a number. -/
theorem numberEntries_entries (entries : List (String × Option String)) :
    numberEntries (entries.map entryNode) [] = some (entries.map entryNode, [], []) := by
  induction entries with
  | nil => rfl
  | cons e entries ih =>
    rw [List.map_cons, List.map_cons, entryNode, numberEntries]
    simp only [number, numberAnchor, ih]
    rfl

end Node

/-- A mapping that is written from names and texts is the document of its entries. -/
theorem ofText?_write (hne : entries ≠ []) (hnames : ∀ e ∈ entries, IsName e.1) :
    Document.ofText? (write entries) = some ⟨.mapping {} (entries.map entryNode), []⟩ := by
  rw [Document.ofText?, Node.ofText?, tokens?_write hne hnames, Option.bind_some,
    Node.ofTokens?_entries, Option.bind_some, Document.ofNode?, Node.number]
  simp only [Node.numberAnchor, Node.numberEntries_entries]
  rfl

/-! ## Texts that may be absent -/

namespace Decoder

variable {α : Type}

/-- A value is read as what it was written for. -/
theorem optional_scalarOf (value : Option String) (budget : Nat) :
    optional [] (text []) (.scalar {} (scalarOf value).1 (scalarOf value).2) budget =
      some (value, budget) := by
  cases value with
  | none => rfl
  | some s =>
    rw [scalarOf]
    cases hof : Form.of s.toList with
    | plain =>
      have hambiguous := (Form.of_eq_plain hof).1
      simp only [isAmbiguous, Bool.or_eq_false_iff] at hambiguous
      simp only [optional, ofContent, text, hambiguous.1.1.1.1, Bool.or_self, Bool.false_eq_true,
        if_false, Option.map_some, String.ofList_toList]
    | single | double | literal =>
      simp only [optional, ofContent, text, Option.map_some, String.ofList_toList]

/-- The entry of a field that may be absent is put into the record. -/
theorem readFields_entry {fields : Fields α} {set : α → Option String → α}
    {seen : List String} {a : α} {name : String} {value : Option String}
    (hfield : fields.lookup name = some (put (optional [] (text [])) set)) (hseen : name ∉ seen)
    (budget : Nat) :
    readFields [] fields seen a (((name, value) :: entries).map entryNode) budget =
      readFields [] fields (name :: seen) (set a value) (entries.map entryNode) budget := by
  have hname : text [] (.scalar {} .plain name.toList) budget = some (name, budget) := by
    simp only [text, ofContent, String.ofList_toList]
  rw [List.map_cons, entryNode, readFields, hname]
  simp only [hfield, List.contains_eq_mem, hseen, decide_false, Bool.false_eq_true, if_false, put,
    optional_scalarOf, Option.map_some]

end Decoder

end Scaffold.Yaml
