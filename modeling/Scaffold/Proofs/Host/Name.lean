import Mathlib.Data.Bool.AllAny
import Mathlib.Data.List.Basic
import Scaffold.Host.Name
import Scaffold.Proofs.Host.Punycode
import Scaffold.Proofs.Text.Lines

/-!
# Host names

`ofText?_of_ofText?`: the ASCII form of a name is its own ASCII form. Its characters are replaced
by nothing else, and each of its labels is shown as before, which for an encoded label is
`Punycode.decode_encode`.
-/

namespace Scaffold.Host

/-! ## Characters in ASCII -/

/-- A character that stands in the ASCII form of a name. -/
structure Name.IsPlain (c : Char) : Prop where
  ascii : c.toNat < 0x80
  valid : isValid c = true

/-- What holds of the first code points holds of the characters in ASCII. -/
theorem forall_ascii {p : Char → Prop} (h : ∀ n < 0x80, p (Char.ofNat n)) {c : Char}
    (hc : c.toNat < 0x80) : p c := by
  rw [← Char.ofNat_toNat c]
  exact h _ hc

namespace Name

section
variable {c : Char} {cs : List Char}

/-- A plain character is no capital letter. -/
theorem IsPlain.replaceChar (h : IsPlain c) : replaceChar c = [c] := by
  have hlower : c.toLower = c := by
    refine forall_ascii (p := fun c => isValid c = true → c.toLower = c) (by decide) h.ascii h.valid
  rw [Name.replaceChar, if_pos h.ascii, hlower]

/-- No mark is in ASCII. -/
theorem mergeFrom_ascii (done : List Char) (h : ∀ c ∈ cs, c.toNat < 0x80) :
    mergeFrom done cs = done.reverse ++ cs := by
  induction cs generalizing done with
  | nil => cases done <;> simp [mergeFrom]
  | cons c cs ih =>
    obtain ⟨hc, hcs⟩ := List.forall_mem_cons.1 h
    cases done with
    | nil => rw [mergeFrom, ih _ hcs]; rfl
    | cons a done =>
      rw [mergeFrom, if_pos hc, ih _ hcs]
      simp

/-- A text of plain characters is normalized. -/
theorem normalize_plain (h : ∀ c ∈ cs, IsPlain c) : normalize cs = cs := by
  have hreplace : cs.flatMap replaceChar = cs := by
    rw [List.flatMap_congr (g := fun c => [c]) fun c hc => (h c hc).replaceChar,
      List.flatMap_singleton']
  rw [normalize, hreplace, mergeFrom_ascii [] fun c hc => (h c hc).ascii]
  rfl

/-- A text of plain characters is not wide. -/
theorem isWide_plain (h : ∀ c ∈ cs, IsPlain c) : isWide cs = false :=
  List.any_eq_false.2 fun c hc => by simpa using (h c hc).ascii

/-- A label without other characters has plain ones. -/
theorem isPlain_of_valid (hwide : isWide cs = false) (hvalid : cs.all isValid = true) :
    ∀ c ∈ cs, IsPlain c :=
  fun c hc => ⟨by simpa using List.any_eq_false.1 hwide c hc, List.all_eq_true.1 hvalid c hc⟩

/-- A digit of an encoded label is plain, and no dot. -/
theorem isPlain_digit (h : Punycode.IsDigit c) : IsPlain c ∧ c ≠ '.' := by
  obtain ⟨d, hd, rfl⟩ := h
  have hall : ∀ d < 36, (Punycode.digitChar d).toNat < 0x80 ∧
      isValid (Punycode.digitChar d) = true ∧
      Punycode.digitChar d ≠ '.' := by decide
  obtain ⟨hascii, hvalid, hdot⟩ := hall d hd
  exact ⟨⟨hascii, hvalid⟩, hdot⟩

end

/-! ## Labels -/

section
variable {cs shown out : List Char}

/-- A label as it is written, in ASCII: it is a label that is shown and written like that. -/
structure Settled (shown out : List Char) : Prop where
  plain : ∀ c ∈ out, IsPlain c
  dot : '.' ∉ out
  again : label? out = some (shown, out)

/-- The code points of a text are valid, and read as the text. -/
theorem codes_spec (cs : List Char) :
    (∀ n ∈ cs.map Char.toNat, n.isValidChar ∧ n < 0x110000) ∧
    (cs.map Char.toNat).map Char.ofNat = cs := by
  refine ⟨fun n hn => ?_, ?_⟩
  · obtain ⟨c, -, rfl⟩ := List.mem_map.1 hn
    refine ⟨c.valid, c.valid.elim (fun hlt => ?_) And.right⟩
    exact Nat.lt_trans hlt (by decide)
  · rw [List.map_map, List.map_congr_left (g := id), List.map_id]
    exact fun c _ => Char.ofNat_toNat c

/-- An encoded label has plain characters, and no dot. -/
theorem isPlain_encode (hvalid : ∀ c ∈ cs, isValid c = true) (hdot : '.' ∉ cs) :
    ∀ c ∈ "xn--".toList ++ Punycode.encode (cs.map Char.toNat), IsPlain c ∧ c ≠ '.' := by
  obtain ⟨digits, hencode, hdigits, -⟩ :=
    Punycode.exists_encode fun n hn => ((codes_spec cs).1 n hn).2
  intro c hc
  rw [hencode, List.mem_append, List.mem_append] at hc
  rcases hc with hc | hc | hc
  · have hxn : ∀ c ∈ "xn--".toList, c.toNat < 0x80 ∧ isValid c = true ∧ c ≠ '.' :=
      List.all_iff_forall_prop.1 (by decide)
    obtain ⟨hascii, hvalid, hdot⟩ := hxn c hc
    exact ⟨⟨hascii, hvalid⟩, hdot⟩
  · rcases Punycode.mem_frontChars hc with rfl | ⟨n, hn, hlt, rfl⟩
    · exact ⟨⟨by decide, by decide⟩, by decide⟩
    · obtain ⟨c, hmem, rfl⟩ := List.mem_map.1 hn
      rw [Char.ofNat_toNat]
      exact ⟨⟨hlt, hvalid c hmem⟩, fun hc => hdot (hc ▸ hmem)⟩
  · exact isPlain_digit (hdigits c hc)

/-- A wide label is encoded in plain characters, and decoded to itself. -/
theorem settled_encode (hwide : isWide cs = true) (hvalid : isValidLabel cs = true)
    (hdot : '.' ∉ cs) : Settled cs ("xn--".toList ++ Punycode.encode (cs.map Char.toNat)) := by
  obtain ⟨hcodes, hchars⟩ := codes_spec cs
  have hbound : ∀ n ∈ cs.map Char.toNat, n < 0x110000 := fun n hn => (hcodes n hn).2
  have hall : (cs.map Char.toNat).all Nat.isValidChar = true :=
    List.all_eq_true.2 fun n hn => decide_eq_true (hcodes n hn).1
  have hchar : ∀ c ∈ cs, isValid c = true := by
    simp only [isValidLabel, Bool.and_eq_true] at hvalid
    exact List.all_eq_true.1 hvalid.1.2
  have hplain := isPlain_encode hchar hdot
  have hplain' := fun c hc => (hplain c hc).1
  refine ⟨hplain', fun h => (hplain _ h).2 rfl, ?_⟩
  have hprefix : ['x', 'n', '-', '-'].isPrefixOf
      ("xn--".toList ++ Punycode.encode (cs.map Char.toNat)) = true := by
    rw [List.isPrefixOf_iff_prefix]
    exact List.prefix_append _ _
  have hdrop : ("xn--".toList ++ Punycode.encode (cs.map Char.toNat)).drop 4 =
      Punycode.encode (cs.map Char.toNat) := rfl
  have hnarrow := isWide_plain hplain'
  have hvalid' : ("xn--".toList ++ Punycode.encode (cs.map Char.toNat)).all isValid = true :=
    List.all_eq_true.2 fun c hc => (hplain' c hc).valid
  rw [label?, if_pos hprefix, hdrop, Punycode.decode_encode hbound]
  simp only [hchars, hall, hwide, hvalid, hnarrow, hvalid', Bool.not_false, Bool.and_true, if_true]

/-- A label is written in plain characters, and its ASCII form is its own. -/
theorem settled_of_label? (h : label? cs = some (shown, out)) (hdot : '.' ∉ cs) :
    Settled shown out := by
  unfold label? at h
  split at h
  · next hprefix =>
    split at h
    · cases h
    · next codes hdecode =>
      simp only at h
      split at h
      · next hcond =>
        have hlabel := hcond
        simp only [Bool.and_eq_true, Bool.not_eq_true'] at hcond
        obtain ⟨⟨_, hnarrow⟩, hvalid⟩ := hcond
        obtain ⟨rfl, rfl⟩ := Prod.mk.inj (Option.some.inj h)
        refine ⟨isPlain_of_valid hnarrow hvalid, hdot, ?_⟩
        rw [label?, if_pos hprefix, hdecode]
        exact if_pos hlabel
      · cases h
  · next hprefix =>
    split at h
    · next hwide =>
      split at h
      · next hvalid =>
        obtain ⟨rfl, rfl⟩ := Prod.mk.inj (Option.some.inj h)
        exact settled_encode hwide hvalid hdot
      · cases h
    · next hnarrow =>
      split at h
      · next hvalid =>
        obtain ⟨rfl, rfl⟩ := Prod.mk.inj (Option.some.inj h)
        rw [Bool.not_eq_true] at hnarrow
        refine ⟨isPlain_of_valid hnarrow hvalid, hdot, ?_⟩
        rw [label?, if_neg hprefix, hnarrow, hvalid]
        rfl
      · cases h

end

/-! ## Names -/

section
variable {cs name label : List Char}

/-- A label has no dot, and only characters of the name. -/
theorem spec_of_mem_labels (h : label ∈ labels cs) : '.' ∉ label ∧ label ⊆ cs := by
  rw [labels] at h
  induction cs generalizing label with
  | nil => simp_all
  | cons c cs ih =>
    rw [List.splitOn_cons_eq_if_modifyHead] at h
    split at h
    · rcases List.mem_cons.1 h with rfl | h
      · exact ⟨List.not_mem_nil, List.nil_subset _⟩
      · exact ⟨(ih h).1, List.subset_cons_of_subset _ (ih h).2⟩
    · next hc =>
      cases hlabels : cs.splitOn '.' with
      | nil => exact absurd hlabels (List.splitOn_ne_nil _ _)
      | cons first rest =>
        rw [hlabels] at h ih
        rcases List.mem_cons.1 h with rfl | h
        · obtain ⟨hdot, hsubset⟩ := ih (.head _)
          refine ⟨fun hmem => ?_, List.cons_subset_cons c hsubset⟩
          rcases List.mem_cons.1 hmem with rfl | hmem
          · exact hc rfl
          · exact hdot hmem
        · obtain ⟨hdot, hsubset⟩ := ih (.tail _ h)
          exact ⟨hdot, List.subset_cons_of_subset _ hsubset⟩

/-- The labels of a name are settled one by one. -/
theorem settled_of_mapM {ls : List (List Char)} {pairs : List (List Char × List Char)}
    (hdots : ∀ l ∈ ls, '.' ∉ l) (h : ls.mapM label? = some pairs) :
    pairs.length = ls.length ∧ ∀ p ∈ pairs, Settled p.1 p.2 := by
  induction ls generalizing pairs with
  | nil =>
    obtain rfl : [] = pairs := Option.some.inj h
    exact ⟨rfl, by simp⟩
  | cons l ls ih =>
    obtain ⟨hdot, hdots⟩ := List.forall_mem_cons.1 hdots
    simp only [List.mapM_cons, Option.bind_eq_bind, Option.bind_eq_some_iff, Option.pure_def,
      Option.some.injEq] at h
    obtain ⟨p, hp, rest, hrest, rfl⟩ := h
    obtain ⟨hlength, hsettled⟩ := ih hdots hrest
    exact ⟨congrArg (· + 1) hlength, List.forall_mem_cons.2 ⟨settled_of_label? hp hdot, hsettled⟩⟩

/-- Labels that are written as they are are shown as before. -/
theorem mapM_label? {pairs : List (List Char × List Char)} (h : ∀ p ∈ pairs, label? p.2 = some p) :
    (pairs.map Prod.snd).mapM label? = some pairs := by
  induction pairs with
  | nil => rfl
  | cons p pairs ih =>
    obtain ⟨hp, hpairs⟩ := List.forall_mem_cons.1 h
    rw [List.map_cons, List.mapM_cons, hp, ih hpairs]
    rfl

/-- The ASCII form of a name has plain characters, and is its own. -/
theorem ofText?_of_ofText? (h : ofText? cs = some name) :
    (∀ c ∈ name, IsPlain c) ∧ ofText? name = some name := by
  rw [ofText?] at h
  simp only [Option.bind_eq_bind, Option.bind_eq_some_iff, Option.pure_def] at h
  obtain ⟨pairs, hpairs, h⟩ := h
  split at h
  · next huniform =>
    obtain ⟨hlength, hsettled⟩ := settled_of_mapM (fun l hl => (spec_of_mem_labels hl).1) hpairs
    have hplain : ∀ c ∈ name, IsPlain c := fun c hc => by
      rw [← Option.some.inj h] at hc
      rcases Text.mem_of_mem_intercalate hc with hc | ⟨l, hl, hc⟩
      · rw [List.mem_singleton.1 hc]
        exact ⟨by decide, by decide⟩
      · obtain ⟨p, hp, rfl⟩ := List.mem_map.1 hl
        exact (hsettled p hp).plain c hc
    have hlabels : labels name = pairs.map Prod.snd := by
      rw [← Option.some.inj h]
      refine List.splitOn_intercalate '.' ?_ ?_
      · intro l hl
        obtain ⟨p, hp, rfl⟩ := List.mem_map.1 hl
        exact (hsettled p hp).dot
      · intro hnil
        rw [List.map_eq_nil_iff.1 hnil] at hlength
        exact List.splitOn_ne_nil _ _ (List.length_eq_zero_iff.1 hlength.symm)
    have hmap := mapM_label? fun p hp => (hsettled p hp).again
    refine ⟨hplain, ?_⟩
    rw [ofText?, normalize_plain hplain, hlabels, hmap]
    simp only [Option.bind_eq_bind, Option.bind_some, Option.pure_def]
    rw [if_pos huniform, h]
  · cases h

/-- No character in ASCII belongs to a script that is written from right to left. -/
theorem areUniform_ascii {ls : List (List Char)} (h : ∀ l ∈ ls, ∀ c ∈ l, c.toNat < 0x80) :
    Direction.areUniform ls = true := by
  have hright : ∀ d ∈ ls.map fun l => l.map Direction.of,
      ¬(d.contains .right || d.contains .arabicDigit) := by
    intro d hd
    obtain ⟨l, hl, rfl⟩ := List.mem_map.1 hd
    have hne : ∀ c ∈ l, Direction.of c ≠ .right ∧ Direction.of c ≠ .arabicDigit := fun c hc => by
      rw [Direction.of, if_pos (h l hl c hc)]
      split
      · exact ⟨nofun, nofun⟩
      · split <;> exact ⟨nofun, nofun⟩
    simp only [Bool.or_eq_true, List.contains_iff_mem, List.mem_map, not_or, not_exists, not_and]
    exact ⟨fun c hc => (hne c hc).1, fun c hc => (hne c hc).2⟩
  rw [Direction.areUniform, List.any_eq_false.2 hright]
  rfl

/-- A name of plain characters is its own ASCII form if its labels are. -/
theorem ofText?_plain (hplain : ∀ c ∈ cs, IsPlain c)
    (hlabels : ∀ l ∈ labels cs, label? l = some (l, l)) : ofText? cs = some cs := by
  let pairs := (labels cs).map fun l => (l, l)
  have hfst : pairs.map Prod.fst = labels cs := by rw [List.map_map]; exact List.map_id _
  have hsnd : pairs.map Prod.snd = labels cs := by rw [List.map_map]; exact List.map_id _
  have hmap : (labels cs).mapM label? = some pairs := by
    rw [← hsnd]
    refine mapM_label? fun p hp => ?_
    obtain ⟨l, hl, rfl⟩ := List.mem_map.1 hp
    exact hlabels l hl
  have huniform : Direction.areUniform (labels cs) = true :=
    areUniform_ascii fun l hl c hc => (hplain c ((spec_of_mem_labels hl).2 hc)).ascii
  rw [ofText?, normalize_plain hplain, hmap]
  simp only [Option.bind_eq_bind, Option.bind_some, hfst, hsnd, huniform, if_true, Option.pure_def]
  rw [labels, List.intercalate_splitOn]

end

end Name

end Scaffold.Host
