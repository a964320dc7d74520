import Mathlib
import Scaffold.Proofs.Registry

/-!
# Names in any letter case

Methods are read after upper-casing in full Unicode, environments and frameworks after lower-casing.
Some characters outside of ASCII have their other case in ASCII, so more may be read than the
letters of a name in two cases. The main statement is `names_are_read_in_any_case`: environments and
frameworks are read in the letters of their names alone, since no name has a k, but a method may
have a long s in it, by itself or tied to a t (`long_s_is_read`).
-/

namespace Scaffold

namespace Text

/-! ## The case of letters -/

section
variable {c : Char} {cs ds : List Char} {s t : String}

/-- Letters come out as capitals exactly if they are the same in lower case. -/
theorem map_toUpper_eq_iff (hds : ∀ d ∈ ds, d.toUpper = d) :
    cs.map Char.toUpper = ds ↔ cs.map Char.toLower = ds.map Char.toLower := by
  constructor
  · rintro rfl
    simp
  · intro h
    calc cs.map Char.toUpper
      _ = (cs.map Char.toLower).map Char.toUpper := by simp
      _ = (ds.map Char.toLower).map Char.toUpper := by rw [h]
      _ = ds.map Char.toUpper := by simp
      _ = ds := (List.map_congr_left hds).trans (List.map_id' ds)

/-- Two mappings make a text of the same characters if they differ only where neither makes a
part of it. -/
theorem flatMap_eq_iff {f g : Char → List Char} (h : ∀ c, f c <:+: ds ∨ g c <:+: ds → f c = g c) :
    cs.flatMap f = ds ↔ cs.flatMap g = ds := by
  have hpart (f : Char → List Char) {c : Char} (hc : c ∈ cs) : f c <:+: cs.flatMap f :=
    List.infix_of_mem_flatten (List.mem_map_of_mem hc)
  constructor
  · rintro rfl
    exact List.flatMap_congr fun c hc => (h c (.inl (hpart f hc))).symm
  · rintro rfl
    exact List.flatMap_congr fun c hc => h c (.inr (hpart g hc))

theorem sameLetters_iff :
    sameLetters s t = true ↔ s.toList.map Char.toLower = t.toList.map Char.toLower := by
  rw [sameLetters, beq_iff_eq, lowerAscii, lowerAscii, String.ofList_inj]

/-- Lower-casing leads neither into ASCII nor out of it. -/
theorem toNat_toLower_lt_iff : c.toLower.toNat < 0x80 ↔ c.toNat < 0x80 := by
  by_cases h : c.isUpper = true
  · have hcode : c.toNat ≤ 'Z'.toNat := UInt32.le_iff_toNat_le.1 (of_decide_eq_true h).2
    have hall : ∀ n ≤ 'Z'.toNat, (Char.ofNat n).toLower.toNat < 0x80 ∧
        (Char.ofNat n).toNat < 0x80 := by decide
    have hc := hall _ hcode
    rw [Char.ofNat_toNat] at hc
    exact iff_of_true hc.1 hc.2
  · rw [Char.toLower_eq_of_not_isUpper h]

/-- Nor does upper-casing. -/
theorem toNat_toUpper_lt_iff : c.toUpper.toNat < 0x80 ↔ c.toNat < 0x80 := by
  rw [← toNat_toLower_lt_iff, Char.toLower_toUpper_eq_toLower, toNat_toLower_lt_iff]

/-- Only a text in ASCII has the letters of one. -/
theorem ascii_of_sameLetters (ht : ∀ d ∈ t.toList, d.toNat < 0x80) (h : sameLetters s t = true) :
    ∀ c ∈ s.toList, c.toNat < 0x80 := by
  intro c hc
  obtain ⟨d, hd, hlower⟩ := List.mem_map.1 (sameLetters_iff.1 h ▸ List.mem_map_of_mem hc)
  rw [← toNat_toLower_lt_iff, ← hlower, toNat_toLower_lt_iff]
  exact ht d hd

end

/-! ## Letters outside of ASCII -/

/-- The letters of a character, with a round s for a long one. -/
def roundLetters (c : Char) : List Char :=
  match c.toNat with
  | 0x17F => ['s']
  | 0xFB05 => ['s', 't']
  | 0xFB06 => ['s', 't']
  | _ => [c]

/-- A text with a round s for every long one. -/
def rounded (s : String) : String := String.ofList (s.toList.flatMap roundLetters)

/-- The characters that a long s is written as: by itself, and tied to a t in two ways. -/
def longLetters : List Char := ['\u017f', '\ufb05', '\ufb06']

/-- What the other characters outside of ASCII have in upper case, as far as that is in ASCII. -/
def otherCapitals : List (List Char) :=
  [['S', 'S'], ['I'], ['F', 'F'], ['F', 'I'], ['F', 'L'], ['F', 'F', 'I'], ['F', 'F', 'L']]

section
variable {s t : String}

/-- A character has its letters in upper case, or it is outside of ASCII and no long s. -/
theorem upperChar_cases (c : Char) : upperChar c = (roundLetters c).map Char.toUpper ∨
    roundLetters c = [c] ∧ 0x80 ≤ c.toNat ∧ upperChar c ∈ otherCapitals := by
  unfold upperChar
  split <;> simp_all [roundLetters, otherCapitals]

/-- A character is its only letter, or it has a long s. -/
theorem roundLetters_cases (c : Char) :
    roundLetters c = [c] ∨ c ∈ longLetters ∧ 's' ∈ roundLetters c := by
  have hlong {n : Nat} (h : c.toNat = n) : c = Char.ofNat n := h ▸ (Char.ofNat_toNat c).symm
  unfold roundLetters
  split
  next h => exact .inr ⟨hlong h ▸ by decide, .head _⟩
  next h => exact .inr ⟨hlong h ▸ by decide, .head _⟩
  next h => exact .inr ⟨hlong h ▸ by decide, .head _⟩
  next => exact .inl rfl

/-- A text is some capitals in upper case if it has their letters, unless other characters are among
the capitals. -/
theorem upper_eq_iff (ht : ∀ d ∈ t.toList, d.toNat < 0x80 ∧ d.toUpper = d)
    (hother : ∀ w ∈ otherCapitals, ¬ w <:+: t.toList) :
    upper s = t ↔ sameLetters (rounded s) t = true := by
  have hagree (c : Char) : upperChar c <:+: t.toList ∨
      (roundLetters c).map Char.toUpper <:+: t.toList →
      upperChar c = (roundLetters c).map Char.toUpper := by
    obtain h | ⟨hround, hc, hcapitals⟩ := upperChar_cases c
    · exact fun _ => h
    · rintro (hpart | hpart)
      · exact absurd hpart (hother _ hcapitals)
      · rw [hround] at hpart
        have hupper : c.toUpper.toNat < 0x80 := (ht _ (hpart.subset (.head _))).1
        exact absurd (toNat_toUpper_lt_iff.1 hupper) (Nat.not_lt.2 hc)
  rw [upper, sameLetters_iff, rounded, String.toList_ofList,
    ← map_toUpper_eq_iff fun d hd => (ht d hd).2, List.map_flatMap, ← flatMap_eq_iff hagree,
    ← String.toList_inj, String.toList_ofList]

/-- A text is some small letters in lower case if it has them, unless a k is among them. -/
theorem lower_eq_iff (ht : ∀ d ∈ t.toList, d.toNat < 0x80 ∧ d.toLower = d ∧ d ≠ 'k') :
    lower s = t ↔ sameLetters s t = true := by
  have hagree (c : Char) : [lowerChar c] <:+: t.toList ∨ [c.toLower] <:+: t.toList →
      [lowerChar c] = [c.toLower] := by
    rw [lowerChar]
    split
    next hkelvin =>
      rintro (hpart | hpart)
      · exact absurd rfl (ht _ (hpart.subset (.head _))).2.2
      · have hc : c.toNat < 0x80 := toNat_toLower_lt_iff.1 (ht _ (hpart.subset (.head _))).1
        omega
    next => exact fun _ => rfl
  have hsmall : t.toList.map Char.toLower = t.toList :=
    (List.map_congr_left fun d hd => (ht d hd).2.1).trans (List.map_id' _)
  rw [lower, sameLetters_iff, hsmall, List.map_eq_flatMap, List.map_eq_flatMap,
    ← flatMap_eq_iff hagree, ← String.toList_inj, String.toList_ofList]

end

end Text

/-! ## Names -/

open Text (ascii_of_sameLetters longLetters rounded roundLetters roundLetters_cases sameLetters
  sameLetters_iff)

/-- The names of environments are small letters without a k, -/
theorem Environment.mem_name (e : Environment) :
    ∀ d ∈ (Registry.name e).toList, d.toNat < 0x80 ∧ d.toLower = d ∧ d ≠ 'k' := by
  cases e <;> exact List.all_iff_forall_prop.1 (by decide)

/-- so are those of frameworks, -/
theorem Framework.mem_name (f : Framework) :
    ∀ d ∈ (Registry.name f).toList, d.toNat < 0x80 ∧ d.toLower = d ∧ d ≠ 'k' := by
  cases f <;> exact List.all_iff_forall_prop.1 (by decide)

/-- and those of methods are capitals, -/
theorem HttpMethod.mem_name (m : HttpMethod) :
    ∀ d ∈ (Registry.name m).toList, d.toNat < 0x80 ∧ d.toUpper = d := by
  cases m <;> exact List.all_iff_forall_prop.1 (by decide)

/-- among which no character but a long s has its upper case. -/
theorem HttpMethod.not_infix_name (m : HttpMethod) :
    ∀ w ∈ Text.otherCapitals, ¬ w <:+: (Registry.name m).toList := by
  cases m <;> decide

section
variable {s : String}

/-- An environment is read in the letters of its name. -/
theorem Environment.read?_eq_some_iff {e : Environment} :
    Environment.read? s = some e ↔ sameLetters s (Registry.name e) = true := by
  rw [read?, Registry.find?_eq_some_iff, eq_comm, Text.lower_eq_iff e.mem_name]

/-- So is a framework, -/
theorem Framework.read?_eq_some_iff {f : Framework} :
    Framework.read? s = some f ↔ sameLetters s (Registry.name f) = true := by
  rw [read?, Registry.find?_eq_some_iff, eq_comm, Text.lower_eq_iff f.mem_name]

/-- and so is a method, but for a long s. -/
theorem HttpMethod.read?_eq_some_iff {m : HttpMethod} :
    HttpMethod.read? s = some m ↔ sameLetters (rounded s) (Registry.name m) = true := by
  rw [read?, Registry.find?_eq_some_iff, eq_comm, Text.upper_eq_iff m.mem_name m.not_infix_name]

/-- A method is read from ASCII, and from a long s where there is an s in its name. -/
theorem HttpMethod.ascii_of_read? {m : HttpMethod} (h : HttpMethod.read? s = some m) :
    ∀ c ∈ s.toList, c.toNat < 0x80 ∨ c ∈ longLetters ∧ m = .post := by
  intro c hc
  have hletters := HttpMethod.read?_eq_some_iff.1 h
  have hround {d : Char} (hd : d ∈ roundLetters c) : d ∈ (rounded s).toList := by
    rw [rounded, String.toList_ofList]
    exact List.mem_flatMap_of_mem hc hd
  obtain hsame | ⟨hlong, hs⟩ := roundLetters_cases c
  · have hascii := ascii_of_sameLetters (fun d hd => (m.mem_name d hd).1) hletters
    exact .inl (hascii c (hround (hsame ▸ .head _)))
  · have hlower : 's' ∈ (Registry.name m).toList.map Char.toLower :=
      sameLetters_iff.1 hletters ▸ List.mem_map_of_mem (f := Char.toLower) (hround hs)
    refine .inr ⟨hlong, ?_⟩
    revert hlower
    cases m <;> decide

end

/-- Environments and frameworks are read in the letters of their names, in either case, and in
nothing else, so not outside of ASCII. Methods are read likewise once every long s is a round one;
that is all they are read from outside of ASCII. -/
theorem names_are_read_in_any_case :
    (∀ s (e : Environment), Environment.read? s = some e ↔ sameLetters s (Registry.name e) = true) ∧
    (∀ s (f : Framework), Framework.read? s = some f ↔ sameLetters s (Registry.name f) = true) ∧
    (∀ s (m : HttpMethod), HttpMethod.read? s = some m ↔
      sameLetters (rounded s) (Registry.name m) = true) ∧
    (∀ s, (Environment.read? s).isSome ∨ (Framework.read? s).isSome →
      ∀ c ∈ s.toList, c.toNat < 0x80) ∧
    ∀ s (m : HttpMethod), HttpMethod.read? s = some m →
      ∀ c ∈ s.toList, c.toNat < 0x80 ∨ c ∈ longLetters ∧ m = .post := by
  refine ⟨fun s e => Environment.read?_eq_some_iff, fun s f => Framework.read?_eq_some_iff,
    fun s m => HttpMethod.read?_eq_some_iff, fun s => ?_, fun s m => HttpMethod.ascii_of_read?⟩
  rintro (h | h)
  · obtain ⟨e, he⟩ := Option.isSome_iff_exists.1 h
    exact ascii_of_sameLetters (fun d hd => (e.mem_name d hd).1)
      (Environment.read?_eq_some_iff.1 he)
  · obtain ⟨f, hf⟩ := Option.isSome_iff_exists.1 h
    exact ascii_of_sameLetters (fun d hd => (f.mem_name d hd).1) (Framework.read?_eq_some_iff.1 hf)

/-- A long s that is tied to a t is read, and nothing else outside of ASCII. -/
theorem tied_letters_are_read : HttpMethod.read? "po\ufb06" = some .post ∧
    (Environment.read? "STAGING").isSome = true ∧ (∀ c ∈ "STAGING".toList, c.toNat < 0x80) ∧
    ∀ c ∈ "po\ufb06".toList, c.toNat < 0x80 ∨ c ∈ longLetters ∧ HttpMethod.post = .post := by
  obtain ⟨henvironments, -, hmethods, hascii, hlong⟩ := names_are_read_in_any_case
  have hpost : HttpMethod.read? "po\ufb06" = some .post := (hmethods _ _).2 (by decide)
  have hstaging : (Environment.read? "STAGING").isSome = true :=
    Option.isSome_iff_exists.2 ⟨.staging, (henvironments _ _).2 (by decide)⟩
  exact ⟨hpost, hstaging, hascii _ (.inl hstaging), hlong _ _ hpost⟩

/-- A long s is read as a letter of a method, though the text has the letters of no method. -/
theorem long_s_is_read : HttpMethod.read? "po\u017ft" = some .post ∧
    ¬ (∃ m : HttpMethod, sameLetters "po\u017ft" (Registry.name m) = true) ∧
    ¬ ∀ c ∈ "po\u017ft".toList, c.toNat < 0x80 := by
  refine ⟨by decide, ?_,
    fun hascii => absurd (hascii '\u017f' (.tail _ (.tail _ (.head _)))) (by decide)⟩
  rintro ⟨m, hm⟩
  revert hm
  cases m <;> decide

end Scaffold
