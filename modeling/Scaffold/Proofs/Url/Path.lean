import Mathlib.Data.List.TakeWhile
import Scaffold.Proofs.Url.Percent
import Scaffold.Url.Parse

/-!
# Paths

`FixedPath` says of a path that reading a URL changes nothing in it: its characters stand for
themselves, and no segment is a step up or down. Every path that is read is such a path
(`fixedPath_readPath`), and is read again as it is (`readPath_fixed`).
-/

namespace Scaffold.Url

/-! ## Segments -/

/-- A segment is no step up or down. -/
def Stays (s : List Char) : Prop := isSingleDot s = false ∧ isDoubleDot s = false

instance (s : List Char) : Decidable (Stays s) := inferInstanceAs (Decidable (_ ∧ _))

/-- The empty segment is none. -/
theorem stays_nil : Stays [] := ⟨by decide, by decide⟩

section
variable {cs rest s : List Char} {c : Char}

/-- There is a segment. -/
theorem segments_ne_nil (cs : List Char) : segments true cs ≠ [] := by
  cases cs with
  | nil => exact List.cons_ne_nil _ _
  | cons c cs =>
    rw [segments]
    split
    · exact List.cons_ne_nil _ _
    · split <;> exact List.cons_ne_nil _ _

/-- A slash begins a new segment. -/
theorem segments_append (cs rest : List Char) :
    segments true (cs ++ '/' :: rest) = segments true cs ++ segments true rest := by
  induction cs with
  | nil => rfl
  | cons c cs ih =>
    rw [List.cons_append, segments, segments, ih]
    split
    · rfl
    · cases hsegments : segments true cs with
      | nil => exact absurd hsegments (segments_ne_nil cs)
      | cons s more => rfl

/-- A segment has no slash, and only characters of the path. -/
theorem spec_of_mem_segments (h : s ∈ segments true cs) : '/' ∉ s ∧ '\\' ∉ s ∧ s ⊆ cs := by
  induction cs generalizing s with
  | nil => rw [List.mem_singleton.1 h]; simp
  | cons c cs ih =>
    rw [segments] at h
    split at h
    · rcases List.mem_cons.1 h with rfl | h
      · simp
      · obtain ⟨hslash, hback, hsubset⟩ := ih h
        exact ⟨hslash, hback, List.subset_cons_of_subset _ hsubset⟩
    · next hc =>
      simp only [isSlash, Bool.true_and, Bool.or_eq_true, beq_iff_eq, not_or] at hc
      split at h
      · next hnil => exact absurd hnil (segments_ne_nil cs)
      · next first more hsegments =>
        rw [hsegments] at ih
        rcases List.mem_cons.1 h with rfl | h
        · obtain ⟨hslash, hback, hsubset⟩ := ih (.head _)
          refine ⟨?_, ?_, List.cons_subset_cons c hsubset⟩
          · simpa [hslash] using Ne.symm hc.1
          · simpa [hback] using Ne.symm hc.2
        · obtain ⟨hslash, hback, hsubset⟩ := ih (.tail _ h)
          exact ⟨hslash, hback, List.subset_cons_of_subset _ hsubset⟩

/-- A text without slashes is a segment. -/
theorem segments_eq_singleton (h : '/' ∉ s) (hback : '\\' ∉ s) : segments true s = [s] := by
  induction s with
  | nil => rfl
  | cons c s ih =>
    rw [List.mem_cons, not_or] at h hback
    have hc : ¬isSlash true c = true := by
      simp only [isSlash, Bool.true_and, Bool.or_eq_true, beq_iff_eq, not_or]
      exact ⟨Ne.symm h.1, Ne.symm hback.1⟩
    rw [segments, if_neg hc, ih h.2 hback.2]

/-- A path is its segments with slashes between them. -/
theorem intercalate_segments (h : '\\' ∉ cs) : ['/'].intercalate (segments true cs) = cs := by
  induction cs with
  | nil => rfl
  | cons c cs ih =>
    rw [List.mem_cons, not_or] at h
    have hrest := ih h.2
    rw [segments]
    split
    · next hc =>
      simp only [isSlash, Bool.true_and, Bool.or_eq_true, beq_iff_eq] at hc
      obtain rfl : c = '/' := hc.resolve_right (Ne.symm h.1)
      rw [List.intercalate_cons_of_ne_nil (segments_ne_nil cs), hrest]
      rfl
    · cases hsegments : segments true cs with
      | nil => exact absurd hsegments (segments_ne_nil cs)
      | cons s more =>
        rw [hsegments] at hrest
        simp only
        cases more with
        | nil => rw [← hrest, List.intercalate_singleton, List.intercalate_singleton]
        | cons t more => rw [← hrest, List.intercalate_cons_cons, List.intercalate_cons_cons]; rfl

/-! ## Steps -/

/-- Segments that are no steps are taken as they are. -/
theorem walk_stays {done ss : List (List Char)} (h : ∀ s ∈ ss, Stays s) :
    walk false done ss = ss.reverse ++ done := by
  induction ss generalizing done with
  | nil => rfl
  | cons s ss ih =>
    obtain ⟨⟨hsingle, hdouble⟩, h⟩ := List.forall_mem_cons.1 h
    have hstep (last : Bool) : step false done s last = s :: done := by
      rw [step, hdouble, hsingle]
      rfl
    cases ss with
    | nil => exact hstep true
    | cons t ss =>
      have hwalk : walk false done (s :: t :: ss) =
          walk false (step false done s false) (t :: ss) := rfl
      rw [hwalk, hstep, ih h, List.reverse_cons (a := s), List.append_assoc]
      rfl

section
variable {p : List Char → Prop} {done ss : List (List Char)} {file : Bool}

/-- What holds of the segments of a path holds a step up. -/
theorem forall_mem_goUp (hdone : ∀ s ∈ done, p s) : ∀ s ∈ goUp done, p s := by
  cases done with
  | nil => exact hdone
  | cons s done =>
    rw [goUp]
    split
    · exact hdone
    · exact (List.forall_mem_cons.1 hdone).2

/-- What holds of a segment that is no step, of the empty one, and of the name of a drive where
there are some, holds behind every step, -/
theorem forall_mem_step (hempty : p []) (hdrive : file = true → ∀ s, p s → p (s.take 1 ++ [':']))
    (hdone : ∀ s ∈ done, p s) (h : Stays s → p s) (last : Bool) :
    ∀ t ∈ step file done s last, p t := by
  by_cases hdouble : isDoubleDot s = true
  · rw [step, if_pos hdouble]
    cases last with
    | true => exact List.forall_mem_cons.2 ⟨hempty, forall_mem_goUp hdone⟩
    | false => exact forall_mem_goUp hdone
  · by_cases hsingle : isSingleDot s = true
    · rw [step, if_neg hdouble, if_pos hsingle]
      cases last with
      | true => exact List.forall_mem_cons.2 ⟨hempty, hdone⟩
      | false => exact hdone
    · have hs : p s := h ⟨Bool.eq_false_iff.2 hsingle, Bool.eq_false_iff.2 hdouble⟩
      rw [step, if_neg hdouble, if_neg hsingle]
      split
      · next hfile =>
        rw [Bool.and_eq_true, Bool.and_eq_true] at hfile
        exact List.forall_mem_singleton.2 (hdrive hfile.1.1 s hs)
      · exact List.forall_mem_cons.2 ⟨hs, hdone⟩

/-- and so behind all steps of a path. -/
theorem forall_mem_walk (hempty : p []) (hdrive : file = true → ∀ s, p s → p (s.take 1 ++ [':']))
    (hdone : ∀ s ∈ done, p s) (h : ∀ s ∈ ss, Stays s → p s) : ∀ s ∈ walk file done ss, p s := by
  induction ss generalizing done with
  | nil => exact hdone
  | cons s ss ih =>
    obtain ⟨hs, h⟩ := List.forall_mem_cons.1 h
    cases ss with
    | nil => exact forall_mem_step hempty hdrive hdone hs true
    | cons t ss => exact ih (forall_mem_step hempty hdrive hdone hs false) h

end

/-! ## Paths that are read as they are -/

/-- A path in which reading changes nothing. -/
structure FixedPath (cs : List Char) : Prop where
  stands : ∀ c ∈ cs, Stands pathSet c ∧ c ≠ '\\'
  stays : ∀ s ∈ segments true cs, Stays s

instance (cs : List Char) : Decidable (FixedPath cs) :=
  decidable_of_iff ((cs.all fun c => Stands pathSet c ∧ c ≠ '\\') ∧
    (segments true cs).all fun s => Stays s)
    ⟨fun ⟨hstands, hstays⟩ => ⟨List.all_iff_forall_prop.1 hstands,
      List.all_iff_forall_prop.1 hstays⟩,
      fun h => ⟨List.all_iff_forall_prop.2 h.stands, List.all_iff_forall_prop.2 h.stays⟩⟩

/-- A path is put together at a slash. -/
theorem fixedPath_append_iff :
    FixedPath (cs ++ '/' :: rest) ↔ FixedPath cs ∧ FixedPath ('/' :: rest) := by
  have hsegments : segments true ('/' :: rest) = [] :: segments true rest := rfl
  constructor
  · rintro ⟨hstands, hstays⟩
    rw [segments_append] at hstays
    obtain ⟨hcs, hrest⟩ := List.forall_mem_append.1 hstays
    obtain ⟨hfront, hbehind⟩ := List.forall_mem_append.1 hstands
    exact ⟨⟨hfront, hcs⟩, hbehind, hsegments ▸ List.forall_mem_cons.2 ⟨stays_nil, hrest⟩⟩
  · rintro ⟨⟨hfront, hcs⟩, hbehind, hstays⟩
    rw [hsegments] at hstays
    exact ⟨List.forall_mem_append.2 ⟨hfront, hbehind⟩,
      segments_append cs rest ▸ List.forall_mem_append.2 ⟨hcs, (List.forall_mem_cons.1 hstays).2⟩⟩

/-- A segment behind a slash. -/
theorem fixedPath_segment (hstands : ∀ c ∈ s, Stands pathSet c ∧ c ≠ '/' ∧ c ≠ '\\')
    (hstays : Stays s) : FixedPath ('/' :: s) := by
  have hslash : '/' ∉ s := fun h => (hstands _ h).2.1 rfl
  have hback : '\\' ∉ s := fun h => (hstands _ h).2.2 rfl
  refine ⟨List.forall_mem_cons.2 ⟨⟨⟨by decide, by decide, by decide⟩, by decide⟩, fun c hc => ?_⟩,
    ?_⟩
  · exact ⟨(hstands c hc).1, (hstands c hc).2.2⟩
  · have hsegments : segments true ('/' :: s) = [[], s] := by
      rw [← List.nil_append ('/' :: s), segments_append, segments_eq_singleton hslash hback]
      rfl
    rw [hsegments]
    exact List.forall_mem_cons.2 ⟨stays_nil, List.forall_mem_singleton.2 hstays⟩

/-- Segments that are no steps make such a path. -/
theorem fixedPath_intercalate {ss : List (List Char)}
    (h : ∀ s ∈ ss, (∀ c ∈ s, Stands pathSet c ∧ c ≠ '/' ∧ c ≠ '\\') ∧ Stays s) :
    FixedPath ('/' :: ['/'].intercalate ss) := by
  induction ss with
  | nil => exact fixedPath_segment nofun stays_nil
  | cons s ss ih =>
    obtain ⟨⟨hstands, hstays⟩, h⟩ := List.forall_mem_cons.1 h
    by_cases hss : ss = []
    · subst hss
      rw [List.intercalate_singleton]
      exact fixedPath_segment hstands hstays
    · rw [List.intercalate_cons_of_ne_nil hss, List.append_assoc, ← List.cons_append]
      exact fixedPath_append_iff.2 ⟨fixedPath_segment hstands hstays, ih h⟩

/-- The path that is written of a URL with a host changes no more, -/
theorem fixedPath_writePath (cs : List Char) : FixedPath (writePath .special cs) := by
  refine fixedPath_intercalate fun s hs => ?_
  have hwalk : s ∈ walk false [] ((segments true cs).map (encode pathSet)) := List.mem_reverse.1 hs
  refine forall_mem_walk (p := fun s => (∀ c ∈ s, Stands pathSet c ∧ c ≠ '/' ∧ c ≠ '\\') ∧ Stays s)
    ⟨List.forall_mem_nil _, stays_nil⟩ (fun hfile => absurd hfile Bool.false_ne_true)
      (List.forall_mem_nil _)
    (fun s hs hstays => ⟨fun c hc => ?_, hstays⟩) s hwalk
  obtain ⟨t, ht, rfl⟩ := List.mem_map.1 hs
  obtain ⟨hslash, hback, -⟩ := spec_of_mem_segments ht
  refine ⟨stands_of_mem_encode (List.all_iff_forall_prop.1 (by decide)) hc, ?_, ?_⟩
  · rintro rfl
    exact (mem_of_mem_encode hc).elim hslash (by decide)
  · rintro rfl
    exact (mem_of_mem_encode hc).elim hback (by decide)

/-- and is written as it is. -/
theorem writePath_fixed (h : FixedPath ('/' :: cs)) : writePath .special cs = '/' :: cs := by
  obtain ⟨hstands, hstays⟩ := h
  have hcs := (List.forall_mem_cons.1 hstands).2
  have hencode : (segments true cs).map (encode pathSet) = segments true cs := by
    rw [List.map_congr_left (g := id), List.map_id]
    exact fun s hs => encode_of_stands fun c hc => (hcs c ((spec_of_mem_segments hs).2.2 hc)).1
  have hwalk : walk false [] (segments true cs) = (segments true cs).reverse := by
    rw [walk_stays (List.forall_mem_cons.1 hstays).2, List.append_nil]
  have hwrite : writePath .special cs =
      '/' :: ['/'].intercalate (walk false [] ((segments true cs).map (encode pathSet))).reverse :=
        rfl
  rw [hwrite, hencode, hwalk, List.reverse_reverse,
    intercalate_segments fun hback => (hcs _ hback).2 rfl]

/-- What may stand behind a path. -/
def EndsPath (rest : List Char) : Prop := ∀ c ∈ rest.head?, c = '?' ∨ c = '#'

/-- A query or a fragment may stand there. -/
theorem endsPath_cons_iff : EndsPath (c :: rest) ↔ c = '?' ∨ c = '#' := by
  simp [EndsPath]

instance (rest : List Char) : Decidable (EndsPath rest) :=
  match rest with
  | [] => isTrue nofun
  | _ :: _ => decidable_of_iff _ endsPath_cons_iff.symm

/-- Every path that is read of a URL with a host is fixed, -/
theorem fixedPath_readPath (cs : List Char) : FixedPath (readPath .special cs).1 := by
  unfold readPath
  simp only
  split
  · exact fixedPath_writePath []
  · split <;> exact fixedPath_writePath _

/-- and such a path is read as it is. -/
theorem readPath_fixed (h : FixedPath ('/' :: cs)) (hrest : EndsPath rest) :
    readPath .special ('/' :: (cs ++ rest)) = ('/' :: cs, rest) := by
  have hgo : ∀ c ∈ '/' :: cs, (!(c == '?' || c == '#')) = true := fun c hc => by
    have hnot := (h.stands c hc).1.not_mem
    have hquery : c ≠ '?' := fun heq => hnot (heq ▸ by decide)
    have hfragment : c ≠ '#' := fun heq => hnot (heq ▸ by decide)
    simp [hquery, hfragment]
  have hspan : ('/' :: cs ++ rest).takeWhile (fun c => !(c == '?' || c == '#')) = '/' :: cs := by
    rw [List.takeWhile_append_of_pos hgo]
    cases rest with
    | nil => simp
    | cons c rest =>
      have hc : c = '?' ∨ c = '#' := hrest c rfl
      rw [List.takeWhile_cons_of_neg (by rcases hc with rfl | rfl <;> decide), List.append_nil]
  have hdrop : ('/' :: cs ++ rest).drop ('/' :: cs).length = rest := List.drop_left
  rw [← List.cons_append, readPath]
  simp only [hspan, hdrop, isSlash, beq_self_eq_true, Bool.true_or, if_true, writePath_fixed h]

/-! ## Without slashes at the end -/

/-- A path without the slashes at its end. -/
def trimSlashes (cs : List Char) : List Char := (cs.reverse.dropWhile (· == '/')).reverse

/-- Only slashes are left out. -/
theorem exists_trimSlashes (cs : List Char) : ∃ n, cs = trimSlashes cs ++ List.replicate n '/' := by
  have hslashes : cs.reverse.takeWhile (· == '/') =
      List.replicate (cs.reverse.takeWhile (· == '/')).length '/' :=
    List.eq_replicate_iff.2 ⟨rfl,
      fun c hc => beq_iff_eq.1 (List.mem_takeWhile_imp (p := (· == '/')) hc)⟩
  have hcs := congrArg List.reverse
    (List.takeWhile_append_dropWhile (p := (· == '/')) (l := cs.reverse))
  rw [List.reverse_append, List.reverse_reverse, hslashes, List.reverse_replicate] at hcs
  exact ⟨_, hcs.symm⟩

/-- A path stays fixed without the slashes at its end. -/
theorem FixedPath.trimSlashes (h : FixedPath cs) : FixedPath (trimSlashes cs) := by
  obtain ⟨n, hcs⟩ := exists_trimSlashes cs
  cases n with
  | zero => rwa [hcs, List.replicate_zero, List.append_nil] at h
  | succ n =>
    rw [hcs, List.replicate_succ] at h
    exact (fixedPath_append_iff.1 h).1

/-- Slashes are left out behind a text that does not end in one. -/
theorem trimSlashes_append (h : cs.getLast? ≠ some '/') (rest : List Char) :
    Url.trimSlashes (cs ++ rest) = cs ++ Url.trimSlashes rest := by
  have hreverse : cs.reverse.dropWhile (· == '/') = cs.reverse := by
    cases hcs : cs.reverse with
    | nil => rfl
    | cons c front =>
      refine List.dropWhile_cons_of_neg fun hc => h ?_
      rw [← List.head?_reverse, hcs, beq_iff_eq.1 hc]
      rfl
  rw [Url.trimSlashes, Url.trimSlashes, List.reverse_append, List.dropWhile_append, hreverse]
  split
  · next hempty => rw [List.isEmpty_iff.1 hempty, List.reverse_reverse, List.reverse_nil,
      List.append_nil]
  · rw [List.reverse_append, List.reverse_reverse]

/-- No slash is left at the end. -/
theorem getLast?_trimSlashes (cs : List Char) : (Url.trimSlashes cs).getLast? ≠ some '/' := by
  rw [Url.trimSlashes, List.getLast?_reverse]
  intro h
  have hhead := List.head?_dropWhile_not (· == '/') cs.reverse
  rw [h] at hhead
  cases hhead

/-- A path without the slashes at its end begins with a slash, unless nothing is left. -/
theorem head?_trimSlashes_append (hcs : cs.head? = some '/') (hrest : rest.head? = some '/') :
    (Url.trimSlashes cs ++ rest).head? = some '/' := by
  obtain ⟨n, hn⟩ := exists_trimSlashes cs
  cases htrim : Url.trimSlashes cs with
  | nil => exact hrest
  | cons c front =>
    rw [hn, htrim] at hcs
    exact hcs

end

end Scaffold.Url
