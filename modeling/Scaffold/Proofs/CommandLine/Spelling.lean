import Mathlib.Data.List.Basic
import Scaffold.CommandLine.Invocation
import Scaffold.Proofs.Table

/-!
# Spelling arguments

What is asked for can be spelled as arguments again: an option with its value behind an equals sign
is read as the option with this value, whatever the value is (`scan_spelled`), unless it is an empty
path; and no path that arguments give is empty (`PathsNamed`, kept by `scan`).
-/

namespace Scaffold.Arguments

variable {known : List (String × OptionForm)} {room : Option Nat} {a b : Arguments}
  {form : OptionForm} {name value : String} {args rest : List String}

/-! ## Options with their values attached -/

/-- An option with its value behind an equals sign. -/
def attached (name value : String) : String := "--" ++ name ++ "=" ++ value

/-- An attached value is read as such. -/
theorem role_attached (hname : '=' ∉ name.toList) (value : String) :
    Role.of (attached name value) = .named name (some value) := by
  have hne : ∀ c ∈ name.toList, (c != '=') = true := fun c hc => by
    simpa using fun heq : c = '=' => hname (heq ▸ hc)
  have htext : (attached name value).toList =
      '-' :: '-' :: (name.toList ++ '=' :: value.toList) := by
    simp [attached]
  have htake : (name.toList ++ '=' :: value.toList).takeWhile (· != '=') = name.toList := by
    rw [List.takeWhile_append_of_pos hne]
    simp
  have hdrop : (name.toList ++ '=' :: value.toList).dropWhile (· != '=') = '=' :: value.toList := by
    rw [List.dropWhile_append_of_pos hne]
    simp
  -- behind the two hyphens there is at least the equals sign
  have hequals : name.toList ++ '=' :: value.toList ≠ [] := by simp
  obtain ⟨c, cs, hcs⟩ := List.exists_cons_of_ne_nil hequals
  rw [hcs] at htext htake hdrop
  rw [Role.of, htext]
  simp only [htake, hdrop, String.ofList_toList]

/-- What value an option may be given: any, or one that is not empty. -/
def Takes (known : List (String × OptionForm)) (name value : String) : Prop :=
  known.lookup name = some .text ∨ known.lookup name = some .path ∧ value ≠ ""

/-- An attached value is added to the others. -/
theorem scan_attached (hname : '=' ∉ name.toList) (htakes : Takes known name value)
    (hnew : a.value? name = none) (rest : List String) :
    scan known room a (attached name value :: rest) =
      scan known room { a with values := a.values ++ [(name, value)] } rest := by
  rw [scan.eq_def]
  simp only [role_attached hname]
  rcases htakes with hform | ⟨hform, hvalue⟩
  · simp [hform, addValue?, hnew]
  · simp [hform, addValue?, hnew, hvalue]

/-- Values that are spelled are read. -/
theorem scan_spelled {l : List (String × String)} (room : Option Nat)
    (hnodup : (l.map Prod.fst).Nodup) (hl : ∀ p ∈ l, '=' ∉ p.1.toList ∧ Takes known p.1 p.2 ∧
      a.value? p.1 = none) (rest : List String) :
    scan known room a ((l.map fun p => attached p.1 p.2) ++ rest) =
      scan known room { a with values := a.values ++ l } rest := by
  induction l generalizing a with
  | nil => simp
  | cons p l ih =>
    obtain ⟨⟨hname, htakes, hnew⟩, hl⟩ := List.forall_mem_cons.1 hl
    rw [List.map_cons, List.nodup_cons] at hnodup
    rw [List.map_cons, List.cons_append, scan_attached hname htakes hnew, ih hnodup.2]
    · rw [List.append_assoc, List.singleton_append]
    · intro q hq
      obtain ⟨hname', htakes', hnew'⟩ := hl q hq
      have hne : q.1 ≠ p.1 := fun heq => hnodup.1 (heq ▸ List.mem_map_of_mem hq)
      refine ⟨hname', htakes', ?_⟩
      rw [value?] at hnew' ⊢
      rw [List.lookup_append, hnew', Option.none_or, List.lookup_cons, beq_false_of_ne hne]
      rfl

/-! ## Options that may be left out -/

section
variable {l : List (String × Option String)}

/-- The values that are given for options. -/
def given (l : List (String × Option String)) : List (String × String) :=
  l.filterMap fun p => p.2.map fun value => (p.1, value)

/-- A value is given for an option that has it. -/
theorem mem_given_iff {p : String × String} : p ∈ given l ↔ (p.1, some p.2) ∈ l := by
  obtain ⟨name, value⟩ := p
  simp only [given, List.mem_filterMap, Option.map_eq_some_iff, Prod.mk.injEq, Prod.exists]
  exact ⟨fun ⟨_, _, hmem, _, rfl, rfl, rfl⟩ => hmem,
    fun hmem => ⟨name, _, hmem, value, rfl, rfl, rfl⟩⟩

/-- Distinct options have their values under distinct names. -/
theorem nodup_given (h : (l.map Prod.fst).Nodup) : ((given l).map Prod.fst).Nodup := by
  have hnames : (given l).map Prod.fst = (l.filter fun p => p.2.isSome).map Prod.fst := by
    clear h
    induction l with
    | nil => rfl
    | cons p l ih =>
      obtain ⟨name, value⟩ := p
      cases value with
      | none => exact ih
      | some value => exact congrArg (name :: ·) ih
  rw [hnames]
  exact h.sublist (List.filter_sublist.map _)

/-- The value of an option is found under its name. -/
theorem lookup_given (h : (l.map Prod.fst).Nodup) :
    (given l).lookup name = (l.lookup name).join := by
  have hvalue (value : String) : (given l).lookup name = some value ↔
      (l.lookup name).join = some value := by
    rw [Table.lookup_eq_some_iff (nodup_given h), mem_given_iff, Option.join_eq_some_iff,
      Table.lookup_eq_some_iff h]
  exact Option.ext hvalue

end

/-! ## Paths -/

/-- No path is empty that is given for an option. -/
def PathsNamed (known : List (String × OptionForm)) (a : Arguments) : Prop :=
  ∀ p ∈ a.values, known.lookup p.1 = some .path → p.2 ≠ ""

/-- A value that is added is no empty path. -/
theorem PathsNamed.addValue? (h : PathsNamed known a) (hform : known.lookup name = some form)
    (hadd : a.addValue? form name value = some b) : PathsNamed known b := by
  rw [Arguments.addValue?] at hadd
  split at hadd
  · cases hadd
  · rename_i hvalue
    cases hadd
    intro p hp hpath
    rw [List.mem_append, List.mem_singleton] at hp
    rcases hp with hp | rfl
    · exact h p hp hpath
    · rw [hform] at hpath
      cases hpath
      rintro hempty
      simp_all

/-- Sorted arguments have no empty paths. -/
theorem PathsNamed.scan (h : PathsNamed known a) (hscan : scan known room a args = .sorted b rest) :
    PathsNamed known b := by
  fun_induction Arguments.scan known room a args
  case case3 hroom _ _ ih =>
    subst hroom
    exact ih h hscan
  case case6 =>
    rw [addBare] at hscan
    split at hscan <;> cases hscan
    exact h
  case case10 hadd _ ih =>
    rw [addFlag?] at hadd
    split at hadd <;> cases hadd
    exact ih h hscan
  case case15 hform _ hadd _ ih => exact ih (h.addValue? hform hadd) hscan
  case case19 hform _ _ _ _ hadd _ ih => exact ih (h.addValue? hform hadd) hscan
  -- elsewhere the arguments are sorted as they are, or the scan ends without any
  all_goals first | (cases hscan; exact h) | cases hscan

/-- A path that is looked up is not empty. -/
theorem PathsNamed.value?_ne (h : PathsNamed known a) (hform : known.lookup name = some .path) :
    a.value? name ≠ some "" := by
  intro hvalue
  have hmem : (name, "") ∈ a.values := by
    obtain ⟨before, behind, hsplit, -⟩ := List.lookup_eq_some_iff.1 hvalue
    rw [hsplit]
    exact List.mem_append_right before (.head behind)
  exact h _ hmem hform rfl

end Scaffold.Arguments
