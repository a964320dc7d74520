import Scaffold.Proofs.Url.Extension

/-!
# Signs of a query and a fragment

A question mark or a number sign stands in the text of a URL only where its query or its fragment
begins, or behind it: what is read in front of them never has one (`unmarkedParts_of_parse`). So the
text tells whether there is a query or a fragment (`not_mem_baseText_iff`), whatever the scheme.
-/

namespace Scaffold.Url

/-! ## Texts without such signs -/

/-- A text without signs of a query or a fragment. -/
def Unmarked (cs : List Char) : Prop := ∀ c ∈ cs, c ≠ '?' ∧ c ≠ '#'

instance (cs : List Char) : Decidable (Unmarked cs) :=
  decidable_of_iff (cs.all fun c => c ≠ '?' ∧ c ≠ '#') List.all_iff_forall_prop

section
variable {set cs rest : List Char} {c : Char}

/-- Two texts have no such sign if neither has one. -/
theorem unmarked_append (hcs : Unmarked cs) (hrest : Unmarked rest) : Unmarked (cs ++ rest) :=
  List.forall_mem_append.2 ⟨hcs, hrest⟩

/-- What stands for itself is no such sign where these are encoded. -/
theorem Stands.unmarked (h : Stands set c) (hset : '?' ∈ set ∧ '#' ∈ set) : c ≠ '?' ∧ c ≠ '#' :=
  ⟨fun heq => h.not_mem (heq ▸ hset.1), fun heq => h.not_mem (heq ▸ hset.2)⟩

/-- Encoding makes no such sign. -/
theorem unmarked_encode (h : Unmarked cs) : Unmarked (encode set cs) := fun c hc => by
  have hchars : Unmarked encodingChars := by decide
  exact (mem_of_mem_encode hc).elim (h c) (hchars c)

/-- What does not end an authority is no such sign. -/
theorem unmarked_of_endsAuthority (h : endsAuthority true c = false) : c ≠ '?' ∧ c ≠ '#' := by
  refine ⟨?_, ?_⟩ <;> rintro rfl <;> exact absurd h (by decide)

/-- The text up to such a sign has none. -/
theorem unmarked_takeWhile (cs : List Char) :
    Unmarked (cs.takeWhile fun c => !(c == '?' || c == '#')) :=
  fun c hc => by
    have hgo := List.mem_takeWhile_imp hc
    simpa using hgo

end

/-! ## The scheme and the authority -/

section
variable {scheme cs rest : List Char} {c : Char} {a : Authority} {host : Host}

/-- The characters of a scheme are in ASCII. -/
theorem ascii_of_isSchemeChar (h : isSchemeChar c = true) : c.toNat < 0x80 := by
  have hbound {top : Char} (htop : top.toNat < 0x80) (hle : c.val ≤ top.val) : c.toNat < 0x80 :=
    Nat.lt_of_le_of_lt (UInt32.le_iff_toNat_le.1 hle) htop
  simp only [isSchemeChar, Char.isAlphanum, Bool.or_eq_true, beq_iff_eq] at h
  rcases h with (((halpha | hdigit) | rfl) | rfl) | rfl
  · rcases (Bool.or_eq_true _ _).mp halpha with hupper | hlower
    · exact hbound (by decide) (of_decide_eq_true hupper).2
    · exact hbound (by decide) (of_decide_eq_true ((Bool.and_eq_true _ _).mp hlower).2)
  · exact (Host.Name.isPlain_of_isDigit hdigit).1.ascii
  · decide
  · decide
  · decide

/-- A scheme has no such sign. -/
theorem unmarked_of_readScheme? (h : readScheme? cs = some (scheme, rest)) : Unmarked scheme := by
  unfold readScheme? at h
  dsimp only at h
  split at h
  · split at h
    · cases h
      intro c hc
      obtain ⟨d, hd, rfl⟩ := List.mem_map.1 hc
      have hscheme : isSchemeChar d = true := List.mem_takeWhile_imp hd
      exact Host.forall_ascii (p := fun d => isSchemeChar d = true → d.toLower ≠ '?' ∧
        d.toLower ≠ '#')
        (by decide) (ascii_of_isSchemeChar hscheme) hscheme
    · cases h
  · cases h

/-- The text of a canonical host has none, -/
theorem unmarked_of_canonical (h : host.Canonical) : Unmarked host.text.toList := fun c hc =>
  unmarked_of_endsAuthority ((hostText_of_canonical h).within c hc).2

/-- and neither has that of a host of another scheme. -/
theorem unmarked_of_readOpaqueHost (h : readOpaqueHost cs = .ok host) :
    Unmarked host.text.toList := by
  unfold readOpaqueHost at h
  split at h
  · next rest =>
    have hread : readHost ('[' :: rest) = .ok host := h
    exact unmarked_of_canonical (canonical_of_readHost hread)
  · split at h
    · cases h
    · next hany =>
      obtain rfl := Except.ok.inj h
      rw [Host.text, String.toList_ofList]
      refine unmarked_encode fun c hc => ?_
      have hallowed : isForbiddenOpaque c = false := by
        simpa using List.any_eq_false.1 (Bool.eq_false_iff.2 hany) c hc
      refine ⟨?_, ?_⟩ <;> rintro rfl <;> exact absurd hallowed (by decide)

/-- A user has none. -/
theorem unmarked_of_readUserinfo {special : Bool} {userinfo : List Char}
    (h : readUserinfo special cs = .ok (userinfo, rest)) : Unmarked userinfo := by
  rcases userinfo_of_readUserinfo h with rfl | ⟨info, hinfo, rfl⟩
  · exact nofun
  · refine unmarked_append (fun c hc => ?_) (by decide)
    rcases hinfo.stands c hc with rfl | hstands
    · decide
    · exact hstands.unmarked (by decide)

/-- Around a host without such signs, an authority has none. -/
theorem unmarked_authority (huser : Unmarked a.userinfo)
    (hhost : ∀ host, a.host = some host → Unmarked host.text.toList) : Unmarked a.text.toList := by
  have hport : Unmarked (portText a.port) := fun c hc =>
    unmarked_of_endsAuthority ((portText_spec a.port).1 c hc).2.2
  rw [Authority.toList_text]
  refine unmarked_append huser (unmarked_append ?_ hport)
  cases hnone : a.host with
  | none => exact nofun
  | some host => exact hhost host hnone

/-- An authority that is read has none. -/
theorem unmarked_of_readAuthority (h : readAuthority scheme cs = .ok (a, rest)) :
    Unmarked a.text.toList := by
  obtain ⟨⟨behind, huser⟩, -, hhost⟩ := parts_of_readAuthority h
  refine unmarked_authority (unmarked_of_readUserinfo huser) fun host heq => ?_
  rw [heq] at hhost
  obtain ⟨span, hhost⟩ := hhost
  split at hhost
  · exact unmarked_of_canonical (canonical_of_readHost hhost)
  · exact unmarked_of_readOpaqueHost hhost

end

/-! ## The path -/

/-- A path that is written has no such sign, -/
theorem unmarked_writePath (kind : SchemeKind) (cs : List Char) : Unmarked (writePath kind cs) := by
  have hsegment :
      ∀ s ∈ walk (kind == .file) [] ((segments kind.isSpecial cs).map (encode pathSet)),
        Unmarked s := by
    refine forall_mem_walk (p := Unmarked) nofun (fun _ s hs => ?_) nofun fun s hs _ => ?_
    · exact unmarked_append (fun c hc => hs c (List.mem_of_mem_take hc)) (by decide)
    · obtain ⟨t, -, rfl⟩ := List.mem_map.1 hs
      exact fun c hc =>
        (stands_of_mem_encode (List.all_iff_forall_prop.1 (by decide)) hc).unmarked (by decide)
  have hpath : Unmarked ('/' :: ['/'].intercalate
      (walk (kind == .file) [] ((segments kind.isSpecial cs).map (encode pathSet))).reverse) := by
    refine List.forall_mem_cons.2 ⟨by decide, fun c hc => ?_⟩
    rcases Text.mem_of_mem_intercalate hc with hc | ⟨s, hs, hc⟩
    · rw [List.mem_singleton.1 hc]
      decide
    · exact hsegment s (List.mem_reverse.1 hs) c hc
  rw [writePath]
  split
  · exact List.forall_mem_cons.2 ⟨by decide,
      fun c hc => hpath c ((List.dropWhile_suffix _).subset hc)⟩
  · exact hpath

/-- and neither has one that is read. -/
theorem unmarked_readPath (kind : SchemeKind) (cs : List Char) : Unmarked (readPath kind cs).1 := by
  unfold readPath
  dsimp only
  split
  · split
    · exact unmarked_writePath _ _
    · exact List.forall_mem_nil _
  · split <;> exact unmarked_writePath _ _

/-! ## The whole -/

/-- The parts of a URL in front of its query and its fragment have no such signs. -/
structure UnmarkedParts (u : Url) : Prop where
  scheme : Unmarked u.scheme
  authority : ∀ a, u.authority = some a → Unmarked a.text.toList
  path : Unmarked u.path

section
variable {u : Url} {s : String} {scheme cs : List Char} {authority : Option Authority}

/-- Neither has the text in front of them. -/
theorem UnmarkedParts.headText (h : u.UnmarkedParts) : Unmarked (headText u) := by
  refine unmarked_append h.scheme (List.forall_mem_cons.2 ⟨by decide, unmarked_append ?_ h.path⟩)
  split
  · next a ha =>
    exact List.forall_mem_cons.2 ⟨by decide, List.forall_mem_cons.2 ⟨by decide, h.authority a ha⟩⟩
  · split
    · decide
    · exact nofun

/-- A URL has none if its path is read behind a scheme and an authority without. -/
theorem unmarkedParts_finish (hscheme : Unmarked scheme)
    (hauthority : ∀ a, authority = some a → Unmarked a.text.toList) (cs : List Char) :
    (finish scheme authority cs).UnmarkedParts :=
  { scheme := hscheme
    authority := hauthority
    path := unmarked_readPath _ cs }

/-- So has a URL whose authority is read. -/
theorem unmarkedParts_of_readAuthority (hscheme : Unmarked scheme)
    (h : (do
      let (authority, rest) ← readAuthority scheme cs
      return finish scheme (some authority) rest) = .ok u) : u.UnmarkedParts := by
  obtain ⟨⟨a, rest⟩, ha, h⟩ := bind_eq_ok_iff.1 h
  obtain rfl := Except.ok.inj h
  refine unmarkedParts_finish hscheme (fun b hb => ?_) rest
  obtain rfl := Option.some.inj hb
  exact unmarked_of_readAuthority ha

/-- The URL of a file has none. -/
theorem unmarkedParts_of_parseFile (h : parseFile cs = .ok u) : u.UnmarkedParts := by
  obtain ⟨host, rest, hcanonical, rfl⟩ := exists_of_parseFile h
  refine unmarkedParts_finish (by decide) (fun a ha => ?_) rest
  obtain rfl := Option.some.inj ha
  exact unmarked_authority nofun fun name hname => unmarked_of_canonical (hcanonical name hname)

/-- A URL of another scheme has none. -/
theorem unmarkedParts_of_parseOther (hscheme : Unmarked scheme) (h : parseOther scheme cs = .ok u) :
    u.UnmarkedParts := by
  unfold parseOther at h
  split at h
  · exact unmarkedParts_of_readAuthority hscheme h
  · obtain rfl := Except.ok.inj h
    exact unmarkedParts_finish hscheme (fun _ hnone => by cases hnone) _
  · obtain rfl := Except.ok.inj h
    exact
      { scheme := hscheme
        authority := fun _ hnone => by cases hnone
        path := unmarked_encode (unmarked_takeWhile _) }

/-- What is read in front of a query and a fragment has no sign of them. -/
theorem unmarkedParts_of_parse (h : parse s = .ok u) : u.UnmarkedParts := by
  unfold parse at h
  split at h
  · cases h
  · next scheme cs hread =>
    have hscheme := unmarked_of_readScheme? hread
    split at h
    · exact unmarkedParts_of_parseFile h
    · exact unmarkedParts_of_readAuthority hscheme h
    · exact unmarkedParts_of_parseOther hscheme h

/-- The text of a URL without slashes at its end has a sign of a query or a fragment exactly if
there is one. -/
theorem not_mem_baseText_iff (h : parse s = .ok u) :
    ('?' ∉ u.baseText.toList ∧ '#' ∉ u.baseText.toList) ↔ u.query = none ∧ u.fragment = none := by
  rcases toList_baseText_cases u with ⟨hnone, htext⟩ | ⟨hsome, c, cs, hc, htext⟩
  · obtain ⟨n, hn⟩ := exists_trimSlashes u.headText
    have hhead := (unmarkedParts_of_parse h).headText
    have hunmarked : Unmarked u.baseText.toList := fun c hc => by
      rw [htext] at hc
      exact hhead c (hn ▸ List.mem_append_left _ hc)
    exact iff_of_true ⟨fun hmem => (hunmarked _ hmem).1 rfl,
      fun hmem => (hunmarked _ hmem).2 rfl⟩ hnone
  · have hmem : c ∈ u.baseText.toList := htext ▸ List.mem_append_right _ (.head _)
    refine iff_of_false (fun ⟨hquery, hfragment⟩ => ?_) hsome
    rcases hc with rfl | rfl
    · exact hquery hmem
    · exact hfragment hmem

end

end Scaffold.Url
