import Scaffold.Proofs.Url.Authority
import Scaffold.Proofs.Url.Path

/-!
# URLs with more behind their path

A path is put behind a URL by its text, from which the slashes at the end are dropped first.
`extends_iff` says when that makes a URL on the same origin with the path behind its own: exactly if
the scheme wants a host, the URL has no query and no fragment, and reading changes nothing in the
path.
-/

namespace Scaffold.Url

/-! ## Texts that are cleaned -/

section
variable {front cs rest : List Char} {c : Char}

/-- A text without what is dropped at its end and within. -/
def cleanEnd (cs : List Char) : List Char :=
  (cs.reverse.dropWhile isControlOrBlank).reverse.filter fun c =>
    !(c == '\t' || c == '\n' || c == '\r')

/-- A character that shows is not dropped. -/
theorem not_dropped (h : 0x20 < c.toNat) :
    isControlOrBlank c = false ∧ (!(c == '\t' || c == '\n' || c == '\r')) = true := by
  refine ⟨decide_eq_false (Nat.not_le.2 h), ?_⟩
  simp only [Bool.not_eq_true', Bool.or_eq_false_iff, beq_eq_false_iff_ne]
  refine ⟨⟨?_, ?_⟩, ?_⟩ <;> rintro rfl <;> exact absurd h (by decide)

/-- Nothing is dropped at the start of a text that begins with such a character. -/
theorem dropWhile_visible (h : ∀ c ∈ cs, 0x20 < c.toNat) : cs.dropWhile isControlOrBlank = cs := by
  cases cs with
  | nil => rfl
  | cons c cs =>
    exact List.dropWhile_cons_of_neg (Bool.eq_false_iff.1 (not_dropped (h c (.head _))).1)

/-- Nothing is dropped of characters that show. -/
theorem cleanEnd_append (h : ∀ c ∈ front, 0x20 < c.toNat) (rest : List Char) :
    cleanEnd (front ++ rest) = front ++ cleanEnd rest := by
  have hreverse : front.reverse.dropWhile isControlOrBlank = front.reverse :=
    dropWhile_visible fun c hc => h c (List.mem_reverse.1 hc)
  have hend : ((front ++ rest).reverse.dropWhile isControlOrBlank).reverse =
      front ++ (rest.reverse.dropWhile isControlOrBlank).reverse := by
    rw [List.reverse_append, List.dropWhile_append, hreverse]
    split
    · next hempty => rw [List.isEmpty_iff.1 hempty, List.reverse_reverse, List.reverse_nil,
        List.append_nil]
    · rw [List.reverse_append, List.reverse_reverse]
  rw [cleanEnd, hend, List.filter_append,
    List.filter_eq_self.2 fun c hc => (not_dropped (h c hc)).2, cleanEnd]

/-- Nothing is dropped in front of them. -/
theorem clean_append (h : ∀ c ∈ front, 0x20 < c.toNat) (hne : front ≠ []) (rest : List Char) :
    clean (front ++ rest) = front ++ cleanEnd rest := by
  obtain ⟨c, front, rfl⟩ := List.exists_cons_of_ne_nil hne
  have hstart : (c :: front ++ rest).dropWhile isControlOrBlank = c :: front ++ rest :=
    List.dropWhile_cons_of_neg (Bool.eq_false_iff.1 (not_dropped (h c (.head _))).1)
  rw [← cleanEnd_append h, clean, hstart, cleanEnd]

end

/-! ## Schemes -/

section
variable {scheme rest : List Char}

/-- A scheme that wants a host is written in small letters. -/
structure SchemeText (scheme : List Char) : Prop where
  chars : ∀ c ∈ scheme, 0x20 < c.toNat ∧ isSchemeChar c = true
  head : scheme.head?.any Char.isAlpha = true
  lower : scheme.map Char.toLower = scheme

/-- The schemes that want a host. -/
theorem schemeText_of_special (h : schemeKind scheme = .special) : SchemeText scheme := by
  have hmem : scheme ∈ ["http", "https", "ws", "wss", "ftp"].map String.toList := by
    unfold schemeKind at h
    split at h
    · cases h
    · split at h
      · next hany =>
        obtain ⟨s, hs, heq⟩ := List.any_eq_true.1 hany
        exact List.mem_map.2 ⟨s, hs, (beq_iff_eq.1 heq).symm⟩
      · cases h
  have hall : ∀ scheme ∈ ["http", "https", "ws", "wss", "ftp"].map String.toList,
      (scheme.all fun c => 0x20 < c.toNat ∧ isSchemeChar c = true) ∧
        scheme.head?.any Char.isAlpha = true ∧
        scheme.map Char.toLower = scheme := by decide
  obtain ⟨hchars, hhead, hlower⟩ := hall scheme hmem
  exact ⟨List.all_iff_forall_prop.1 hchars, hhead, hlower⟩

/-- A scheme is read in front of its colon. -/
theorem readScheme?_text (h : SchemeText scheme) (rest : List Char) :
    readScheme? (scheme ++ ':' :: rest) = some (scheme, rest) := by
  have hspan : (scheme ++ ':' :: rest).takeWhile isSchemeChar = scheme := by
    rw [List.takeWhile_append_of_pos fun c hc => (h.chars c hc).2,
      List.takeWhile_cons_of_neg (by decide), List.append_nil]
  have hhead : (scheme ++ ':' :: rest).head?.any Char.isAlpha = true := by
    cases scheme with
    | nil => exact absurd h.head (by decide)
    | cons c scheme => exact h.head
  rw [readScheme?, hspan, List.drop_left]
  simp only [hhead, if_true, h.lower]

end

/-! ## URLs that are read -/

/-- A URL as it is read, where the scheme wants a host. -/
structure Canonical (u : Url) : Prop where
  scheme : schemeKind u.scheme = .special
  authority : ∃ a, u.authority = some a ∧ a.Canonical u.scheme
  path : FixedPath u.path
  slash : u.path.head? = some '/'

section
variable {u v : Url} {s : String} {scheme cs rest path : List Char} {a : Authority}

/-- The parts of a URL behind its authority. -/
theorem finish_eq (scheme : List Char) (authority : Option Authority) (cs : List Char) :
    finish scheme authority cs =
      { scheme
        authority
        path := (readPath (schemeKind scheme) cs).1
        query := (readEnd (schemeKind scheme).isSpecial (readPath (schemeKind scheme) cs).2).1
        fragment := (readEnd (schemeKind scheme).isSpecial
          (readPath (schemeKind scheme) cs).2).2 } := rfl

/-- A URL of a file has a canonical host, if it has one, and no more of an authority. -/
theorem exists_of_parseFile (h : parseFile cs = .ok u) :
    ∃ (host : Option Host) (rest : List Char), (∀ name, host = some name → name.Canonical) ∧
      u = finish "file".toList (some { host }) rest := by
  unfold parseFile at h
  simp only at h
  split at h
  · split at h
    · split at h
      · cases h
        exact ⟨none, _, nofun, rfl⟩
      · split at h
        · cases h
        · next host hhost =>
          have hcanonical (there : Bool) (name : Host) (h : (if there then none else some host) =
              some name) : name.Canonical := by
            cases there with
            | true => cases h
            | false => exact Option.some.inj h ▸ canonical_of_readHost hhost
          split at h
          · split at h
            · cases h
              exact ⟨none, _, nofun, rfl⟩
            · cases h
              exact ⟨_, _, hcanonical _, rfl⟩
          · cases h
            exact ⟨_, _, hcanonical _, rfl⟩
    · cases h
      exact ⟨none, _, nofun, rfl⟩
  · cases h
    exact ⟨none, _, nofun, rfl⟩

/-- The scheme of another URL. -/
theorem scheme_of_parseOther (h : parseOther scheme cs = .ok u) : u.scheme = scheme := by
  unfold parseOther at h
  split at h
  · obtain ⟨⟨a, rest⟩, -, h⟩ := bind_eq_ok_iff.1 h
    cases h
    rfl
  · cases h; rfl
  · cases h; rfl

/-- The path behind a host begins with a slash. -/
theorem head?_readPath (cs : List Char) : (readPath .special cs).1.head? = some '/' := by
  unfold readPath
  simp only
  split
  · rfl
  · split <;> rfl

/-- A URL that is read is canonical if its scheme wants a host. -/
theorem canonical_of_parse (h : parse s = .ok u) (hscheme : schemeKind u.scheme = .special) :
    u.Canonical := by
  unfold parse at h
  split at h
  · cases h
  · next scheme cs hread =>
    split at h
    · obtain ⟨host, rest, -, rfl⟩ := exists_of_parseFile h
      exact absurd hscheme (by decide : schemeKind "file".toList ≠ .special)
    · next hspecial =>
      obtain ⟨⟨a, rest⟩, hauthority, h⟩ := bind_eq_ok_iff.1 h
      obtain rfl := Except.ok.inj h
      rw [finish_eq, hspecial]
      exact
        { scheme := hspecial
          authority := ⟨a, rfl, canonical_of_readAuthority hspecial hauthority⟩
          path := fixedPath_readPath rest
          slash := head?_readPath rest }
    · next hother =>
      rw [scheme_of_parseOther h, hother] at hscheme
      cases hscheme

/-- The text of a URL up to its path. -/
def front (scheme : List Char) (a : Authority) : List Char :=
  scheme ++ ':' :: '/' :: '/' :: a.text.toList

/-- It shows, and does not end in a slash. -/
theorem front_spec (hscheme : schemeKind scheme = .special) (h : a.Canonical scheme) :
    (∀ c ∈ front scheme a, 0x20 < c.toNat) ∧ (front scheme a).getLast? ≠ some '/' := by
  obtain ⟨hne, htext⟩ := h.text_spec
  refine ⟨fun c hc => ?_, fun hlast => ?_⟩
  · rw [front, List.mem_append, List.mem_cons, List.mem_cons, List.mem_cons] at hc
    rcases hc with hc | rfl | rfl | rfl | hc
    · exact ((schemeText_of_special hscheme).chars c hc).1
    · decide
    · decide
    · decide
    · exact (htext c hc).1
  · have hfront : front scheme a = (scheme ++ [':', '/', '/']) ++ a.text.toList := by simp [front]
    rw [hfront, List.getLast?_append_of_ne_nil _ hne] at hlast
    exact absurd (htext '/' (List.mem_of_getLast? hlast)).2 (by decide)

/-- Behind a canonical authority, the path is read. -/
theorem parse_front (hscheme : schemeKind scheme = .special) (h : a.Canonical scheme)
    (hrest : EndsAuthority (cleanEnd rest)) :
    parse (String.ofList (front scheme a ++ rest)) =
      .ok (finish scheme (some a) (cleanEnd rest)) := by
  obtain ⟨hne, htext⟩ := h.text_spec
  have hslashes : ('/' :: '/' :: (a.text.toList ++ cleanEnd rest)).dropWhile (isSlash true) =
      a.text.toList ++ cleanEnd rest := by
    obtain ⟨c, cs, hcs⟩ := List.exists_cons_of_ne_nil hne
    have hc : ¬isSlash true c = true := fun hslash => by
      have hend := (htext c (hcs ▸ .head _)).2
      rw [endsAuthority, hslash] at hend
      cases hend
    rw [hcs]
    exact List.dropWhile_cons_of_neg hc
  rw [parse, String.toList_ofList, clean_append (front_spec hscheme h).1 (by simp [front]), front,
    List.append_assoc, List.cons_append, List.cons_append, List.cons_append,
    readScheme?_text (schemeText_of_special hscheme)]
  simp only [hscheme, hslashes, readAuthority_text hscheme h hrest]
  rfl

end

/-! ## More behind the path -/

/-- The scheme, the host and the port of a URL, where the scheme gives them a meaning of
their own. -/
def origin? (u : Url) : Option (List Char × Option Host × Option Nat) :=
  match schemeKind u.scheme with
  | .special => u.authority.map fun a => (u.scheme, a.host, a.port)
  | _ => none

/-- A URL on the same origin whose path is that of `u`, without slashes at its end, and `path`. -/
structure Extends (u : Url) (path : List Char) (v : Url) : Prop where
  origin : ∃ origin, u.origin? = some origin ∧ v.origin? = some origin
  path : v.path = trimSlashes u.path ++ path
  query : v.query = none
  fragment : v.fragment = none

/-- The text of a URL in front of its query and its fragment. -/
def headText (u : Url) : List Char :=
  let start :=
    match u.authority with
    | some a => '/' :: '/' :: a.text.toList
    | none => if ['/', '/'].isPrefixOf u.path then ['/', '.'] else []
  u.scheme ++ ':' :: (start ++ u.path)

/-- The text of its query and its fragment. -/
def endText (u : Url) : List Char :=
  (u.query.map fun q => '?' :: q).getD [] ++ (u.fragment.map fun f => '#' :: f).getD []

section
variable {u v : Url} {s p : String} {cs rest : List Char} {a : Authority}

/-- A URL has an origin if its scheme wants a host. -/
theorem special_of_origin? (h : u.origin?.isSome) : schemeKind u.scheme = .special := by
  unfold origin? at h
  split at h
  · assumption
  · cases h

/-- These are all of the text. -/
theorem toList_text (u : Url) : u.text.toList = headText u ++ endText u := by
  have hquery : ((u.query.map fun q => "?" ++ String.ofList q).getD "").toList =
      (u.query.map fun q => '?' :: q).getD [] := by
    cases u.query with
    | none => rfl
    | some q => simp
  have hfragment : ((u.fragment.map fun f => "#" ++ String.ofList f).getD "").toList =
      (u.fragment.map fun f => '#' :: f).getD [] := by
    cases u.fragment with
    | none => rfl
    | some f => simp
  rw [text, headText]
  simp only [String.toList_append, hquery, hfragment, String.toList_ofList, endText,
    List.append_assoc]
  cases u.authority with
  | none =>
    dsimp only
    split <;> rfl
  | some a => simp

/-- With an authority, the path stands behind it. -/
theorem headText_eq (ha : u.authority = some a) : headText u = front u.scheme a ++ u.path := by
  rw [headText, ha, front, List.append_assoc]
  rfl

/-- The text without slashes at its end. -/
theorem toList_baseText (u : Url) : u.baseText.toList = trimSlashes u.text.toList := by
  rw [baseText, String.toList_ofList, trimSlashes]

/-- Behind the path, a query or a fragment begins, or nothing follows. -/
theorem endText_cases (u : Url) :
    (u.query = none ∧ u.fragment = none) ∧ endText u = [] ∨
      ¬(u.query = none ∧ u.fragment = none) ∧ ∃ c cs, (c = '?' ∨ c = '#') ∧
        endText u = c :: cs := by
  unfold endText
  cases u.query with
  | some q => exact .inr ⟨nofun, '?', _, .inl rfl, rfl⟩
  | none =>
    cases u.fragment with
    | some f => exact .inr ⟨nofun, '#', _, .inr rfl, rfl⟩
    | none => exact .inl ⟨⟨rfl, rfl⟩, rfl⟩

/-- Where a query or a fragment begins, one is read. -/
theorem readEnd_cons {c : Char} (hc : c = '?' ∨ c = '#') (cs : List Char) :
    ¬((readEnd true (c :: cs)).1 = none ∧ (readEnd true (c :: cs)).2 = none) := by
  rcases hc with rfl | rfl
  · rintro ⟨hquery, -⟩
    cases hquery
  · rintro ⟨-, hfragment⟩
    cases hfragment

/-- Behind a canonical authority, a fixed path is read, and what stands behind it. -/
theorem Canonical.parse_path (h : u.Canonical) (ha : u.authority = some a) (hcs : FixedPath cs)
    (hslash : cs.head? = some '/') (hrest : EndsPath (cleanEnd rest)) :
    parse (String.ofList (front u.scheme a ++ (cs ++ rest))) =
      .ok { scheme := u.scheme
            authority := u.authority
            path := cs
            query := (readEnd true (cleanEnd rest)).1
            fragment := (readEnd true (cleanEnd rest)).2 } := by
  have hvisible : ∀ c ∈ cs, 0x20 < c.toNat := fun c hc => (hcs.stands c hc).1.visible (by decide)
  have hclean : cleanEnd (cs ++ rest) = cs ++ cleanEnd rest := cleanEnd_append hvisible rest
  obtain ⟨more, rfl⟩ : ∃ more, cs = '/' :: more := List.head?_eq_some_iff.1 hslash
  obtain ⟨b, hb, hcanonical⟩ := h.authority
  obtain rfl : b = a := Option.some.inj (hb.symm.trans ha)
  have hends : EndsAuthority (cleanEnd ('/' :: more ++ rest)) := by
    rw [hclean]
    rintro c hc
    obtain rfl : '/' = c := Option.some.inj hc
    decide
  rw [parse_front h.scheme hcanonical hends, hclean, finish_eq, h.scheme, ha]
  rw [List.cons_append, readPath_fixed hcs hrest]
  rfl

/-- A query or a fragment, which is not empty, stands in front of the slashes at the end. -/
theorem toList_baseText_cases (u : Url) :
    (u.query = none ∧ u.fragment = none) ∧ u.baseText.toList = trimSlashes (headText u) ∨
      ¬(u.query = none ∧ u.fragment = none) ∧ ∃ c cs, (c = '?' ∨ c = '#') ∧
        u.baseText.toList = headText u ++ c :: cs := by
  rw [toList_baseText, toList_text]
  rcases endText_cases u with ⟨hnone, hend⟩ | ⟨hsome, c, cs, hc, hend⟩
  · exact .inl ⟨hnone, by rw [hend, List.append_nil]⟩
  · have hlast : (headText u ++ [c]).getLast? ≠ some '/' := by
      rw [List.getLast?_concat]
      rcases hc with rfl | rfl <;> decide
    have htext (cs : List Char) : headText u ++ c :: cs = headText u ++ [c] ++ cs := by
      rw [List.append_assoc, List.singleton_append]
    exact .inr ⟨hsome, c, trimSlashes cs, hc, by
      rw [hend, htext cs, trimSlashes_append hlast, htext (trimSlashes cs)]⟩

/-- Where nothing stands behind the path, it is all that is read. -/
theorem Canonical.parse_end (h : u.Canonical) (ha : u.authority = some a) (hcs : FixedPath cs)
    (hslash : cs.head? = some '/') :
    parse (String.ofList (front u.scheme a ++ cs)) =
      .ok { scheme := u.scheme, authority := u.authority, path := cs } := by
  have hends : EndsPath (cleanEnd []) := nofun
  have hread := h.parse_path ha hcs hslash hends
  rw [List.append_nil] at hread
  exact hread

/-- What is put behind the text of a URL without slashes at its end stands behind its path, or
behind a query or a fragment. -/
theorem Canonical.baseText_append (h : u.Canonical) (ha : u.authority = some a) (p : String) :
    (u.query = none ∧ u.fragment = none) ∧
        u.baseText ++ p = String.ofList (front u.scheme a ++ (trimSlashes u.path ++ p.toList)) ∨
      ¬(u.query = none ∧ u.fragment = none) ∧ ∃ c cs, (c = '?' ∨ c = '#') ∧
        u.baseText ++ p = String.ofList (front u.scheme a ++ (u.path ++ c :: cs)) := by
  obtain ⟨b, hb, hcanonical⟩ := h.authority
  obtain rfl : b = a := Option.some.inj (hb.symm.trans ha)
  have happend : u.baseText ++ p = String.ofList (u.baseText.toList ++ p.toList) := by
    rw [← String.toList_append, String.ofList_toList]
  rw [happend]
  rcases toList_baseText_cases u with ⟨hnone, htext⟩ | ⟨hsome, c, cs, hc, htext⟩
  · rw [htext, headText_eq ha, trimSlashes_append (front_spec h.scheme hcanonical).2,
      List.append_assoc]
    exact .inl ⟨hnone, rfl⟩
  · rw [htext, headText_eq ha, List.append_assoc, List.append_assoc]
    exact .inr ⟨hsome, c, cs ++ p.toList, hc, rfl⟩

/-- A path is put behind a URL by its text exactly if the URL has an origin, but no query and no
fragment, and reading changes nothing in the path. -/
theorem extends_iff (hu : parse s = .ok u) (hp : p.toList.head? = some '/') :
    (∃ v, parse (u.baseText ++ p) = .ok v ∧ u.Extends p.toList v) ↔
      u.origin?.isSome ∧ u.query = none ∧ u.fragment = none ∧ FixedPath p.toList := by
  obtain ⟨path, hpath⟩ : ∃ path, p.toList = '/' :: path := List.head?_eq_some_iff.1 hp
  constructor
  · rintro ⟨v, hv, hextends⟩
    obtain ⟨origin, horigin, hsame⟩ := hextends.origin
    have hcanonical := canonical_of_parse hu (special_of_origin? (Option.isSome_of_mem horigin))
    obtain ⟨a, ha, -⟩ := hcanonical.authority
    rcases hcanonical.baseText_append ha p with ⟨hnone, htext⟩ | ⟨hsome, c, cs, hc, htext⟩
    · have hfixed := (canonical_of_parse hv (special_of_origin? (Option.isSome_of_mem hsame))).path
      rw [hextends.path, hpath] at hfixed
      exact ⟨Option.isSome_of_mem horigin, hnone.1, hnone.2,
        hpath ▸ (fixedPath_append_iff.1 hfixed).2⟩
    · have hvisible : ∀ d ∈ [c], 0x20 < d.toNat := List.forall_mem_singleton.2 (by
        rcases hc with rfl | rfl <;> decide)
      have hclean : cleanEnd (c :: cs) = c :: cleanEnd cs := cleanEnd_append hvisible cs
      have hends : EndsPath (cleanEnd (c :: cs)) := hclean ▸ endsPath_cons_iff.2 hc
      rw [htext, hcanonical.parse_path ha hcanonical.path hcanonical.slash hends, hclean] at hv
      cases hv
      exact absurd ⟨hextends.query, hextends.fragment⟩ (readEnd_cons hc _)
  · rintro ⟨horigin, hquery, hfragment, hfixed⟩
    have hcanonical := canonical_of_parse hu (special_of_origin? horigin)
    obtain ⟨a, ha, -⟩ := hcanonical.authority
    obtain ⟨-, htext⟩ :=
      (hcanonical.baseText_append ha p).resolve_right fun h => h.1 ⟨hquery, hfragment⟩
    have hlonger : FixedPath (trimSlashes u.path ++ p.toList) := by
      rw [hpath] at hfixed ⊢
      exact fixedPath_append_iff.2 ⟨hcanonical.path.trimSlashes, hfixed⟩
    have hslash := head?_trimSlashes_append hcanonical.slash hp
    have hread := hcanonical.parse_end ha hlonger hslash
    rw [← htext] at hread
    obtain ⟨origin, horigin⟩ := Option.isSome_iff_exists.1 horigin
    exact ⟨_, hread,
      { origin := ⟨origin, horigin, horigin⟩, path := rfl, query := rfl, fragment := rfl }⟩

end

end Scaffold.Url
