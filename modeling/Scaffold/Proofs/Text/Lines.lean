import Mathlib.Data.List.Basic

/-!
# Lines

A text is put together from lines, with a line break between two of them, and taken apart into its
lines again. The main statement is `lines_intercalate`: lines without line breaks of their own come
back as they are.
-/

namespace Scaffold.Text

/-- A text without line breaks. -/
def IsLine (s : String) : Prop := '\n' ∉ s.toList

/-- The lines of a text. -/
def lines (s : String) : List String := (s.toList.splitOn '\n').map String.ofList

/-- Lines with a line break in front of each. -/
def stacked (ls : List String) : String := String.join (ls.map ("\n" ++ ·))

section
variable {s t l m : String} {ls ms : List String}

/-! ## Texts without line breaks -/

theorem isLine_append_iff : IsLine (s ++ t) ↔ IsLine s ∧ IsLine t := by
  simp only [IsLine, String.toList_append, List.mem_append, not_or]

theorem IsLine.append (hs : IsLine s) (ht : IsLine t) : IsLine (s ++ t) :=
  isLine_append_iff.2 ⟨hs, ht⟩

theorem isLine_empty : IsLine "" := by simp [IsLine]

theorem isLine_ofList {cs : List Char} (h : ∀ c ∈ cs, c ≠ '\n') : IsLine (String.ofList cs) := by
  rw [IsLine, String.toList_ofList]
  exact fun hmem => h _ hmem rfl

/-- A text that is written out is checked character by character. -/
theorem isLine_literal {cs : List Char} (h : cs.contains '\n' = false) :
    IsLine (String.ofList cs) :=
  isLine_ofList fun c hc heq => by
    rw [← heq, List.contains_iff_mem.2 hc] at h
    cases h

/-- A line joined from lines. -/
theorem IsLine.intercalate (hs : IsLine s) (h : ∀ l ∈ ls, IsLine l) :
    IsLine (s.intercalate ls) := by
  induction ls with
  | nil => exact isLine_empty
  | cons l ls ih =>
    cases ls with
    | nil =>
      rw [String.intercalate_singleton]
      exact h l (.head _)
    | cons m ms =>
      rw [String.intercalate_cons_cons]
      exact ((h l (.head _)).append hs).append (ih fun l hl => h l (.tail _ hl))

/-! ## Beginnings -/

section
variable {ps cs : List Char}

theorem not_isPrefix (h : ps.isPrefixOf cs = false) :
    ¬ (String.ofList ps).toList <+: (String.ofList cs).toList := by
  rw [String.toList_ofList, String.toList_ofList, ← List.isPrefixOf_iff_prefix, h]
  exact Bool.false_ne_true

/-- Neither of two texts begins with the other. -/
def Apart (s t : String) : Prop := ¬ s.toList <+: t.toList ∧ ¬ t.toList <+: s.toList

theorem apart_ofList (h : ps.isPrefixOf cs = false) (h' : cs.isPrefixOf ps = false) :
    Apart (String.ofList ps) (String.ofList cs) := ⟨not_isPrefix h, not_isPrefix h'⟩

/-- Texts that are apart stay so, whatever stands behind one of them. -/
theorem Apart.append (h : Apart s t) : Apart s (t ++ l) := by
  rw [Apart, String.toList_append]
  refine ⟨fun hprefix => ?_, fun hprefix => h.2 ((List.prefix_append _ _).trans hprefix)⟩
  exact (List.prefix_or_prefix_of_prefix hprefix (List.prefix_append _ _)).elim h.1 h.2

end

/-! ## Texts with a separator between them -/

/-- An element of joined lists is of one of them or of the separator. -/
theorem mem_of_mem_intercalate {α : Type} {a : α} {sep : List α} {ws : List (List α)}
    (h : a ∈ sep.intercalate ws) : a ∈ sep ∨ ∃ w ∈ ws, a ∈ w := by
  induction ws with
  | nil => simp at h
  | cons w ws ih =>
    cases ws with
    | nil => exact .inr ⟨w, .head _, by simpa using h⟩
    | cons v ws =>
      rw [List.intercalate_cons_cons, List.mem_append, List.mem_append] at h
      obtain (h | h) | h := h
      · exact .inr ⟨w, .head _, h⟩
      · exact .inl h
      · exact (ih h).imp_right fun ⟨u, hu, ha⟩ => ⟨u, .tail _ hu, ha⟩

section
variable {α : Type} (sep : String) (f : α → String) {l mid : List α}

/-- The first text has no separator in front. -/
theorem intercalate_map_cons (a : α) (l : List α) :
    sep.intercalate ((a :: l).map f) = f a ++ String.join (l.map fun a => sep ++ f a) := by
  induction l generalizing a with
  | nil =>
    rw [List.map_cons, List.map_nil, List.map_nil, String.intercalate_singleton, String.join_nil,
      String.append_empty]
  | cons b l ih =>
    rw [List.map_cons, List.map_cons, String.intercalate_cons_cons, ← List.map_cons, ih,
      List.map_cons, String.join_cons]
    simp only [String.append_assoc]

/-- Separators in front of texts, and one more behind them all, are separators behind the texts, and
one more in front of them all. -/
theorem join_shift (l : List α) : String.join (l.map fun a => sep ++ f a) ++ sep =
    sep ++ String.join (l.map fun a => f a ++ sep) := by
  induction l with
  | nil => rw [List.map_nil, List.map_nil, String.join_nil, String.empty_append,
    String.append_empty]
  | cons a l ih =>
    rw [List.map_cons, List.map_cons, String.join_cons, String.join_cons, String.append_assoc, ih]
    simp only [String.append_assoc]

/-- Texts that each have a separator in front. -/
theorem join_opened (h : l ≠ []) :
    String.join (l.map fun a => sep ++ f a) = sep ++ sep.intercalate (l.map f) := by
  obtain ⟨a, l, rfl⟩ := List.exists_cons_of_ne_nil h
  rw [intercalate_map_cons, List.map_cons, String.join_cons, String.append_assoc]

/-- Texts that each have a separator behind. -/
theorem join_closed (h : l ≠ []) :
    String.join (l.map fun a => f a ++ sep) = sep.intercalate (l.map f) ++ sep := by
  obtain ⟨a, l, rfl⟩ := List.exists_cons_of_ne_nil h
  rw [intercalate_map_cons, List.map_cons, String.join_cons, String.append_assoc,
    String.append_assoc, join_shift]

/-- Around a stretch of texts that is not empty, each text has its separator on the side of the
stretch. -/
theorem intercalate_stretch (before behind : List α) (h : mid ≠ []) :
    sep.intercalate ((before ++ mid ++ behind).map f) =
      String.join (before.map fun a => f a ++ sep) ++ sep.intercalate (mid.map f) ++
        String.join (behind.map fun a => sep ++ f a) := by
  have hbehind : sep.intercalate ((mid ++ behind).map f) =
      sep.intercalate (mid.map f) ++ String.join (behind.map fun a => sep ++ f a) := by
    by_cases hl : behind = []
    · rw [hl, List.append_nil, List.map_nil, String.join_nil, String.append_empty]
    · rw [List.map_append,
        String.intercalate_append_of_ne_nil (by simpa using h) (by simpa using hl),
        join_opened sep f hl, String.append_assoc]
  by_cases hl : before = []
  · rw [hl, List.nil_append, List.map_nil, String.join_nil, String.empty_append, hbehind]
  · rw [List.append_assoc, List.map_append,
      String.intercalate_append_of_ne_nil (by simpa using hl) (by simp [h]),
      join_closed sep f hl, hbehind]
    simp only [String.append_assoc]

end

/-! ## Lines one below the other -/

theorem stacked_nil : stacked [] = "" := rfl

theorem stacked_cons : stacked (l :: ls) = "\n" ++ l ++ stacked ls := by
  rw [stacked, List.map_cons, String.join_cons]
  rfl

theorem stacked_append : stacked (ls ++ ms) = stacked ls ++ stacked ms := by
  rw [stacked, List.map_append, String.join_append]
  rfl

theorem stacked_flatMap {α : Type} (f : α → List String) (l : List α) :
    stacked (l.flatMap f) = String.join (l.map fun a => stacked (f a)) := by
  induction l with
  | nil => rfl
  | cons a l ih => rw [List.flatMap_cons, stacked_append, ih, List.map_cons, String.join_cons]

/-- The first line has no line break in front. -/
theorem intercalate_cons : "\n".intercalate (l :: ls) = l ++ stacked ls := by
  have h := intercalate_map_cons "\n" id l ls
  rwa [List.map_id] at h

theorem stacked_of_ne_nil (h : ls ≠ []) : stacked ls = "\n" ++ "\n".intercalate ls := by
  cases ls with
  | nil => exact absurd rfl h
  | cons l ls => rw [stacked_cons, intercalate_cons, String.append_assoc]

/-- A blank line is an empty one between two line breaks. -/
theorem intercalate_blank :
    "\n".intercalate (l :: "" :: m :: ls) = l ++ "\n\n" ++ "\n".intercalate (m :: ls) := by
  have hblank : "\n\n" = "\n" ++ "\n" := rfl
  rw [String.intercalate_cons_cons, String.intercalate_cons_cons, String.empty_append, hblank]
  simp only [String.append_assoc]

/-- The lines of a text that is put together from lines. -/
theorem lines_intercalate (hne : ls ≠ []) (h : ∀ l ∈ ls, IsLine l) :
    lines ("\n".intercalate ls) = ls := by
  have hsplit : ("\n".intercalate ls).toList.splitOn '\n' = ls.map String.toList := by
    rw [String.toList_intercalate]
    exact List.splitOn_intercalate '\n' (by simpa [IsLine] using h) (by simpa using hne)
  rw [lines, hsplit, List.map_map]
  exact List.map_id'' (fun l => String.ofList_toList) ls

end

end Scaffold.Text
