import Mathlib.Data.List.TakeWhile
import Scaffold.Proofs.Host.Address
import Scaffold.Proofs.Traversal
import Scaffold.Proofs.Url.Percent
import Scaffold.Url.Parse

/-!
# Authorities

`readAuthority_text`: an authority that is read for a scheme that wants a host is read again from
its text, up to the path behind it. What is read is canonical (`canonical_of_readAuthority`): a user
name and a password are encoded, the host is its own ASCII form or an address, and the port is not
the one of the scheme.
-/

namespace Scaffold

/-! ## Hosts -/

/-- A host as it is read: a name is its own ASCII form and no address. -/
inductive Host.Canonical : Host → Prop
  | name {cs : List Char} (h : Name.ofText? cs = some cs) (hne : cs ≠ [])
    (hend : endsInNumber cs = false) :
    Canonical (.name cs)
  | ipv4 {n : Nat} (h : n < 2 ^ 32) : Canonical (.ipv4 n)
  | ipv6 {pieces : List Nat} (hlength : pieces.length = 8) (h : ∀ n ∈ pieces, n < 65536) :
    Canonical (.ipv6 pieces)

namespace Url

section
variable {cs rest : List Char} {c : Char} {host : Host}

/-- The characters that have a meaning in an authority. -/
def delimiters : List Char := "%/\\?#:@[]".toList

/-- A character of a name is none of them, and no blank. -/
theorem plain_spec (h : Host.Name.IsPlain c) : 0x20 < c.toNat ∧ c ∉ delimiters :=
  Host.forall_ascii (p := fun c => Host.Name.isValid c = true → 0x20 < c.toNat ∧
    c ∉ delimiters) (by decide)
    h.ascii h.valid

/-- The host that is read is canonical. -/
theorem canonical_of_readHost (h : readHost cs = .ok host) : host.Canonical := by
  have hbrackets {cs : List Char} (h : readBrackets cs = .ok host) : host.Canonical := by
    unfold readBrackets at h
    split at h
    · cases h
    · split at h
      · next pieces hpieces =>
        obtain rfl := Except.ok.inj h
        obtain ⟨hlength, hbound⟩ := Host.fits_of_readIpv6? hpieces
        exact .ipv6 hlength hbound
      · cases h
  unfold readHost at h
  split at h
  · exact hbrackets h
  · split at h
    · cases h
    · cases h
    · next name hname hread =>
      obtain ⟨text, -, htext⟩ := Option.bind_eq_some_iff.1 hread
      split at h
      · split at h
        · next n hn =>
          obtain rfl := Except.ok.inj h
          exact .ipv4 (Host.lt_of_readIpv4? hn)
        · cases h
      · next hend =>
        obtain rfl := Except.ok.inj h
        exact .name (Host.Name.ofText?_of_ofText? htext).2 hname (Bool.eq_false_iff.2 hend)

/-- A name of plain characters is read as it is. -/
theorem readHost_plain (hplain : ∀ c ∈ cs, Host.Name.IsPlain c) (h : Host.Name.ofText? cs = some cs)
    (hne : cs ≠ []) :
    readHost cs =
      if Host.endsInNumber cs then
        match Host.readIpv4? cs with
        | some n => .ok (.ipv4 n)
        | none => .error .invalidIpv4
      else .ok (.name cs) := by
  have hnot (c : Char) (hc : c ∈ delimiters) : c ∉ cs :=
    fun hmem => (plain_spec (hplain c hmem)).2 hc
  have hread : (decode? cs).bind Host.Name.ofText? = some cs := by
    rw [decode?_eq_self (hnot '%' (by decide)), Option.bind_some, h]
  unfold readHost
  split
  · exact absurd (.head _) (hnot '[' (by decide))
  · rw [hread]
    cases cs with
    | nil => exact absurd rfl hne
    | cons c cs => rfl

/-- An address is written in brackets. -/
theorem toList_text_ipv6 (pieces : List Nat) :
    (Host.text (.ipv6 pieces)).toList = '[' :: ((Host.writeIpv6 pieces).toList ++ [']']) := by
  rw [Host.text, String.toList_append, String.toList_append]
  rfl

/-- A canonical host is read from its text. -/
theorem readHost_text (h : host.Canonical) : readHost host.text.toList = .ok host := by
  cases h with
  | name h hne hend =>
    have hplain := (Host.Name.ofText?_of_ofText? h).1
    rw [Host.text, String.toList_ofList, readHost_plain hplain h hne, hend]
    rfl
  | @ipv4 n h =>
    obtain ⟨hplain, htext⟩ := Host.ofText?_writeIpv4 n
    rw [Host.text, readHost_plain hplain htext (Host.writeIpv4_ne_nil n),
      Host.endsInNumber_writeIpv4, if_pos rfl, Host.readIpv4?_writeIpv4 h]
  | @ipv6 pieces hlength h =>
    rw [toList_text_ipv6, readHost, readBrackets, List.getLast?_concat, List.dropLast_concat,
      Host.readIpv6?_writeIpv6 hlength h]
    rfl

/-- Where a host ends. -/
def EndsHost (rest : List Char) : Prop := ∀ c ∈ rest.head?, c = ':' ∨ endsAuthority true c = true

/-- A host reaches over characters that do not end it. -/
theorem hostSpan_append (inside : Bool)
    (h : ∀ c ∈ cs, endsAuthority true c = false ∧ c ≠ '[' ∧ c ≠ ']' ∧ (c = ':' → inside = true)) :
    hostSpan true inside (cs ++ rest) = cs ++ hostSpan true inside rest := by
  induction cs with
  | nil => rfl
  | cons c cs ih =>
    obtain ⟨⟨hend, hopen, hclose, hcolon⟩, h⟩ := List.forall_mem_cons.1 h
    have hgo : ¬((c == ':' && !inside) || endsAuthority true c) = true := by
      rw [hend, Bool.or_false, Bool.and_eq_true, beq_iff_eq]
      rintro ⟨hc, hinside⟩
      rw [hcolon hc] at hinside
      cases hinside
    rw [List.cons_append, hostSpan, if_neg hgo, if_neg (by simpa using hopen),
      if_neg (by simpa using hclose), ih h, List.cons_append]

/-- A host reaches up to its end. -/
theorem hostSpan_end (h : EndsHost rest) : hostSpan true false rest = [] := by
  cases rest with
  | nil => rfl
  | cons c rest =>
    rw [hostSpan, if_pos]
    rcases h c rfl with rfl | hend
    · rfl
    · rw [hend, Bool.or_true]

/-- How the text of a host stands in an authority. -/
structure HostText (cs : List Char) : Prop where
  ne_nil : cs ≠ []
  visible : ∀ c ∈ cs, 0x20 < c.toNat
  within : ∀ c ∈ cs, c ≠ '@' ∧ endsAuthority true c = false
  span : ∀ rest, EndsHost rest → hostSpan true false (cs ++ rest) = cs

/-- No character but the delimiters ends an authority. -/
theorem endsAuthority_eq_false (h : c ∉ delimiters) : endsAuthority true c = false := by
  have hends : endsAuthority true c = true → c ∈ delimiters := fun hends => by
    simp only [endsAuthority, isSlash, Bool.true_and, Bool.or_eq_true, beq_iff_eq] at hends
    rcases hends with ((rfl | rfl) | rfl) | rfl <;> decide
  exact Bool.eq_false_iff.2 fun hc => h (hends hc)

/-- A text of plain characters reaches up to its end. -/
theorem hostText_plain (hplain : ∀ c ∈ cs, Host.Name.IsPlain c) (hne : cs ≠ []) : HostText cs where
  ne_nil := hne
  visible c hc := (plain_spec (hplain c hc)).1
  within c hc := by
    have hnot := (plain_spec (hplain c hc)).2
    exact ⟨fun heq => hnot (heq ▸ by decide), endsAuthority_eq_false hnot⟩
  span rest hrest := by
    rw [hostSpan_append false fun c hc => ?_, hostSpan_end hrest, List.append_nil]
    have hnot := (plain_spec (hplain c hc)).2
    exact ⟨endsAuthority_eq_false hnot, fun heq => hnot (heq ▸ by decide),
      fun heq => hnot (heq ▸ by decide), fun heq => absurd (heq ▸ by decide) hnot⟩

/-- A digit or a colon opens and closes nothing. -/
theorem bracket_spec (h : Text.isHexDigit c = true ∨ c = ':') :
    0x20 < c.toNat ∧ c ≠ '@' ∧ endsAuthority true c = false ∧ c ≠ '[' ∧ c ≠ ']' := by
  rcases h with h | rfl
  · have hvisible : 0x20 < c.toNat := Nat.lt_of_not_le fun hle => by
      have hascii : c.toNat < 0x80 := Nat.lt_of_le_of_lt hle (by decide)
      have hdigit :=
        Host.forall_ascii (p := fun c => Text.isHexDigit c = true →
          0x20 < c.toNat) (by decide) hascii
      exact Nat.not_le.2 (hdigit h) hle
    have hnot : c ∉ delimiters := fun hc => by
      have hall : ∀ c ∈ delimiters, Text.isHexDigit c = false :=
        List.all_iff_forall_prop.1 (by decide)
      rw [hall c hc] at h
      cases h
    exact ⟨hvisible, fun heq => hnot (heq ▸ by decide), endsAuthority_eq_false hnot,
      fun heq => hnot (heq ▸ by decide), fun heq => hnot (heq ▸ by decide)⟩
  · decide

/-- So does the text of an address in brackets. -/
theorem hostText_brackets (h : ∀ c ∈ cs, Text.isHexDigit c = true ∨ c = ':') :
    HostText ('[' :: (cs ++ [']'])) := by
  have hall : ∀ c ∈ '[' :: (cs ++ [']']),
      0x20 < c.toNat ∧ c ≠ '@' ∧ endsAuthority true c = false := by
    intro c hc
    rw [List.mem_cons, List.mem_append, List.mem_singleton] at hc
    rcases hc with rfl | hc | rfl
    · decide
    · obtain ⟨hvisible, hat, hend, -⟩ := bracket_spec (h c hc)
      exact ⟨hvisible, hat, hend⟩
    · decide
  exact
    { ne_nil := List.cons_ne_nil _ _
      visible := fun c hc => (hall c hc).1
      within := fun c hc => (hall c hc).2
      span := fun rest hrest => by
        have hinner : hostSpan true true (cs ++ ']' :: rest) =
            cs ++ hostSpan true true (']' :: rest) :=
          hostSpan_append true fun c hc => by
            obtain ⟨-, -, hend, hopen, hclose⟩ := bracket_spec (h c hc)
            exact ⟨hend, hopen, hclose, fun _ => rfl⟩
        have hclose : hostSpan true true (']' :: rest) = [']'] := by
          rw [hostSpan, if_neg (by decide), if_neg (by decide), if_pos (by decide),
            hostSpan_end hrest]
        rw [List.cons_append, hostSpan, if_neg (by decide), if_pos (by decide), List.append_assoc,
          List.singleton_append, hinner, hclose] }

/-- The text of a canonical host reaches up to its end. -/
theorem hostText_of_canonical (h : host.Canonical) : HostText host.text.toList := by
  cases h with
  | name h hne hend =>
    rw [Host.text, String.toList_ofList]
    exact hostText_plain (Host.Name.ofText?_of_ofText? h).1 hne
  | @ipv4 n h => exact hostText_plain (Host.ofText?_writeIpv4 n).1 (Host.writeIpv4_ne_nil n)
  | @ipv6 pieces hlength h =>
    rw [toList_text_ipv6]
    exact hostText_brackets fun c hc => Host.mem_writeIpv6 hc

end

/-! ## Users and ports -/

section
variable {cs rest info host : List Char} {c : Char} {scheme : List Char} {port : Nat}

/-- What stands in front of a host, encoded, with the sign behind it. -/
structure UserinfoText (info : List Char) : Prop where
  ne_nil : info ≠ []
  stands : ∀ c ∈ info, c = ':' ∨ Stands userinfoSet c
  again : writeUserinfo info = info ++ ['@']

/-- What is encoded in front of a host stands for itself. -/
theorem stands_userinfo (h : c ∈ encode userinfoSet cs) : Stands userinfoSet c :=
  stands_of_mem_encode (List.all_iff_forall_prop.1 (by decide)) h

/-- A user without a password is such a text, -/
theorem userinfoText_user {user : List Char} (hne : user ≠ [])
    (h : ∀ c ∈ user, Stands userinfoSet c) : UserinfoText user := by
  have hcolon : ∀ c ∈ user, (c != ':') = true := fun c hc => bne_iff_ne.2 fun heq =>
    (h c hc).not_mem (heq ▸ by decide)
  have htake : user.takeWhile (· != ':') = user := List.takeWhile_eq_self_iff.2 hcolon
  have hdrop : user.dropWhile (· != ':') = [] := List.dropWhile_eq_nil_iff.2 hcolon
  refine ⟨hne, fun c hc => .inr (h c hc), ?_⟩
  rw [writeUserinfo, htake, hdrop, encode_of_stands h]
  simp [encode, hne]

/-- and so is a password with a user in front, who may be empty. -/
theorem userinfoText_password {user password : List Char} (hne : password ≠ [])
    (huser : ∀ c ∈ user, Stands userinfoSet c) (hpassword : ∀ c ∈ password, Stands userinfoSet c) :
    UserinfoText (user ++ [':'] ++ password) := by
  have hcolon : ∀ c ∈ user, (c != ':') = true := fun c hc => bne_iff_ne.2 fun heq =>
    (huser c hc).not_mem (heq ▸ by decide)
  have htake : (user ++ [':'] ++ password).takeWhile (· != ':') = user := by
    rw [List.append_assoc, List.takeWhile_append_of_pos hcolon]
    simp
  have hdrop : ((user ++ [':'] ++ password).dropWhile (· != ':')).drop 1 = password := by
    rw [List.append_assoc, List.dropWhile_append_of_pos hcolon]
    simp
  have hempty : password.isEmpty = false := by simpa using hne
  refine ⟨by simp, fun c hc => ?_, ?_⟩
  · rw [List.mem_append, List.mem_append, List.mem_singleton] at hc
    rcases hc with (hc | hc) | hc
    · exact .inr (huser c hc)
    · exact .inl hc
    · exact .inr (hpassword c hc)
  · rw [writeUserinfo, htake, hdrop, encode_of_stands huser, encode_of_stands hpassword]
    simp only [hempty, Bool.and_false, if_false, Bool.false_eq_true]

/-- What is written in front of a host is written like that again. -/
theorem writeUserinfo_spec (cs : List Char) :
    writeUserinfo cs = [] ∨ ∃ info, UserinfoText info ∧ writeUserinfo cs = info ++ ['@'] := by
  have huser : ∀ c ∈ encode userinfoSet (cs.takeWhile (· != ':')), Stands userinfoSet c :=
    fun c hc => stands_userinfo hc
  have hpassword : ∀ c ∈ encode userinfoSet ((cs.dropWhile (· != ':')).drop 1),
      Stands userinfoSet c :=
    fun c hc => stands_userinfo hc
  rw [writeUserinfo]
  split
  · exact .inl rfl
  · next hboth =>
    right
    split
    · next hnone =>
      rw [hnone, Bool.and_true, List.isEmpty_iff] at hboth
      exact ⟨_, userinfoText_user hboth huser, rfl⟩
    · next hsome =>
      rw [List.isEmpty_iff] at hsome
      exact ⟨_, userinfoText_password hsome huser hpassword, rfl⟩

/-- Where an authority ends. -/
def EndsAuthority (rest : List Char) : Prop := ∀ c ∈ rest.head?, endsAuthority true c = true

/-- What has no end of an authority stands in front of it. -/
theorem takeWhile_authority (h : ∀ c ∈ cs, endsAuthority true c = false)
    (hrest : EndsAuthority rest) :
    (cs ++ rest).takeWhile (fun c => !endsAuthority true c) = cs := by
  rw [List.takeWhile_append_of_pos fun c hc => by rw [h c hc]; rfl]
  cases rest with
  | nil => simp
  | cons c rest => rw [List.takeWhile_cons_of_neg (by simp [hrest c rfl]), List.append_nil]

/-- A user does not end an authority. -/
theorem UserinfoText.within (h : UserinfoText info) (hc : c ∈ info) :
    endsAuthority true c = false := by
  rcases h.stands c hc with rfl | hstands
  · decide
  · refine Bool.eq_false_iff.2 fun hend => hstands.not_mem ?_
    simp only [endsAuthority, isSlash, Bool.true_and, Bool.or_eq_true, beq_iff_eq] at hend
    rcases hend with ((rfl | rfl) | rfl) | rfl <;> decide

/-- A user is read in front of the host. -/
theorem readUserinfo_text (hinfo : UserinfoText info)
    (hhost : ∀ c ∈ host, c ≠ '@' ∧ endsAuthority true c = false) (hrest : EndsAuthority rest) :
    readUserinfo true (info ++ ['@'] ++ host ++ rest) = .ok (info ++ ['@'], host ++ rest) := by
  have hauthority : (info ++ ['@'] ++ host ++ rest).takeWhile (fun c => !endsAuthority true c) =
      info ++ ['@'] ++ host := by
    refine takeWhile_authority (fun c hc => ?_) hrest
    rw [List.mem_append, List.mem_append, List.mem_singleton] at hc
    rcases hc with (hc | rfl) | hc
    · exact hinfo.within hc
    · decide
    · exact (hhost c hc).2
  have hcontains : (info ++ ['@'] ++ host).contains '@' = true := by simp
  have hbehind : ((info ++ ['@'] ++ host).reverse.takeWhile (· != '@')).reverse = host := by
    have hat : ∀ c ∈ host.reverse, (c != '@') = true := fun c hc =>
      bne_iff_ne.2 (hhost c (List.mem_reverse.1 hc)).1
    rw [List.reverse_append, List.takeWhile_append_of_pos hat]
    simp
  have hfront : (info ++ ['@'] ++ host).take ((info ++ ['@'] ++ host).length - host.length - 1) =
      info := by
    rw [List.length_append, Nat.add_sub_cancel, List.append_assoc]
    simp
  have hdrop : (info ++ ['@'] ++ host ++ rest).drop (info.length + 1) = host ++ rest := by
    rw [List.append_assoc (info ++ ['@']), List.drop_append]
    simp
  have hempty : info.isEmpty = false := by simpa using hinfo.ne_nil
  simp only [readUserinfo, hauthority, hcontains, hbehind, hfront, hdrop, hempty, hinfo.again,
    Bool.not_true, Bool.false_and, if_false, Bool.false_eq_true]

/-- Where there is no user, none is read. -/
theorem readUserinfo_none (hhost : ∀ c ∈ host, c ≠ '@' ∧ endsAuthority true c = false)
    (hrest : EndsAuthority rest) :
    readUserinfo true (host ++ rest) = .ok ([], host ++ rest) := by
  have hat : host.contains '@' = false := Bool.eq_false_iff.2 fun h =>
    (hhost '@' (List.contains_iff_mem.1 h)).1 rfl
  rw [readUserinfo, takeWhile_authority (fun c hc => (hhost c hc).2) hrest]
  simp only [hat, Bool.not_false, if_true]

/-- A port is read from its number. -/
theorem readPort_text (hle : port ≤ 65535) (hdefault : defaultPort? scheme ≠ some port)
    (hrest : EndsAuthority rest) :
    readPort scheme (Nat.toDigits 10 port ++ rest) = .ok (some port, rest) := by
  have hdigits : (Nat.toDigits 10 port ++ rest).takeWhile Char.isDigit = Nat.toDigits 10 port := by
    rw [List.takeWhile_append_of_pos fun c hc => Nat.isDigit_of_mem_toDigits (by decide)
      (by decide) hc]
    cases rest with
    | nil => simp
    | cons c rest =>
      have hc : ¬c.isDigit = true := fun hdigit => by
        have hplain := (Host.Name.isPlain_of_isDigit hdigit).1
        have hend := hrest c rfl
        rw [endsAuthority_eq_false (plain_spec hplain).2] at hend
        cases hend
      rw [List.takeWhile_cons_of_neg hc, List.append_nil]
  have hvalue : (Nat.toDigits 10 port).foldl (fun n c => 10 * n + (c.toNat - 0x30)) 0 = port :=
    Nat.ofDigitChars_ten_toDigits
  have hstop : rest.head?.any (fun c => !endsAuthority true c) = false := by
    cases rest with
    | nil => rfl
    | cons c rest => simp [hrest c rfl]
  have hempty : (Nat.toDigits 10 port).isEmpty = false := by simp
  have hscheme : (defaultPort? scheme == some port) = false := by simpa using hdefault
  simp only [readPort, hdigits, hvalue, List.drop_left, hstop, hempty, hscheme, Bool.or_false,
    decide_eq_true_eq, Nat.not_lt.2 hle, if_false, Bool.false_eq_true]

end

/-! ## The whole -/

/-- An authority as it is read for a scheme that wants a host. -/
structure Authority.Canonical (scheme : List Char) (a : Authority) : Prop where
  userinfo : a.userinfo = [] ∨ ∃ info, UserinfoText info ∧ a.userinfo = info ++ ['@']
  host : ∃ host : Host, a.host = some host ∧ host.Canonical
  port : ∀ port, a.port = some port → port ≤ 65535 ∧ defaultPort? scheme ≠ some port

section
variable {scheme cs rest : List Char} {a : Authority}

/-- Reads the port behind a host, if there is one. -/
def readBehindHost (scheme : List Char) : List Char → Except UrlError (Option Nat × List Char)
  | ':' :: digits => readPort scheme digits
  | rest => .ok (none, rest)

/-- The port is read before anything else is done. -/
theorem readBehindHost_bind {α : Type} (scheme rest : List Char)
    (f : Option Nat × List Char → Except UrlError α) :
    readBehindHost scheme rest >>= f =
      match rest with
      | ':' :: digits => readPort scheme digits >>= f
      | _ => pure (none, rest) >>= f := by
  cases rest with
  | nil => rfl
  | cons c rest =>
    by_cases hc : c = ':'
    · subst hc
      rfl
    · simp [readBehindHost, hc, pure, Except.pure]

/-- The parts of an authority are read one after the other. -/
theorem readAuthority_eq (scheme cs : List Char) :
    readAuthority scheme cs =
      readUserinfo (schemeKind scheme).isSpecial cs >>= fun (userinfo, cs) =>
        let span := hostSpan (schemeKind scheme).isSpecial false cs
        let rest := cs.drop span.length
        if span.isEmpty && ((schemeKind scheme).isSpecial || rest.head? == some ':') then
          .error .emptyHost
        else (if (schemeKind scheme).isSpecial then readHost span else readOpaqueHost span) >>=
          fun host =>
          readBehindHost scheme rest >>= fun (port, rest) =>
            if span.isEmpty && !userinfo.isEmpty then .error .emptyHost
            else .ok (⟨userinfo, if span.isEmpty then none else some host, port⟩, rest) := by
  rw [readAuthority]
  generalize (schemeKind scheme).isSpecial = special
  refine bind_congr fun ⟨userinfo, cs'⟩ => ?_
  dsimp only
  split
  · rfl
  · cases special with
    | true =>
      refine bind_congr fun host => ?_
      rw [readBehindHost_bind]
      rfl
    | false =>
      refine bind_congr fun host => ?_
      rw [readBehindHost_bind]
      rfl

/-- Where each part of an authority is read from; only a scheme that wants no host may have none. -/
theorem parts_of_readAuthority (h : readAuthority scheme cs = .ok (a, rest)) :
    (∃ behind, readUserinfo (schemeKind scheme).isSpecial cs = .ok (a.userinfo, behind)) ∧
      (∃ behind, readBehindHost scheme behind = .ok (a.port, rest)) ∧
      match a.host with
      | none => (schemeKind scheme).isSpecial = false
      | some host => ∃ span,
        (if (schemeKind scheme).isSpecial then readHost span else readOpaqueHost span) =
        .ok host := by
  rw [readAuthority_eq] at h
  obtain ⟨⟨userinfo, behind⟩, huser, h⟩ := bind_eq_ok_iff.1 h
  dsimp only at h
  split at h
  · cases h
  · next hspan =>
    obtain ⟨host, hhost, h⟩ := bind_eq_ok_iff.1 h
    obtain ⟨⟨port, rest'⟩, hport, h⟩ := bind_eq_ok_iff.1 h
    dsimp only at h
    split at h
    · cases h
    · cases h
      refine ⟨⟨behind, huser⟩, ⟨_, hport⟩, ?_⟩
      by_cases hempty : (hostSpan (schemeKind scheme).isSpecial false behind).isEmpty = true
      · rw [if_pos hempty]
        rw [hempty, Bool.true_and, Bool.or_eq_true, not_or] at hspan
        exact Bool.eq_false_iff.2 hspan.1
      · rw [if_neg hempty]
        exact ⟨_, hhost⟩

/-- A port that is read is not the one of the scheme. -/
theorem canonical_of_readBehindHost {port : Option Nat}
    (h : readBehindHost scheme cs = .ok (port, rest)) :
    ∀ p, port = some p → p ≤ 65535 ∧ defaultPort? scheme ≠ some p := by
  rintro p rfl
  unfold readBehindHost at h
  split at h
  · rw [readPort] at h
    split at h
    · cases h
    · next hvalid =>
      split at h
      · cases h
      · next hport =>
        cases h
        simp only [Bool.or_eq_true, decide_eq_true_eq, not_or, Nat.not_lt,
          beq_iff_eq] at hvalid hport
        exact ⟨hvalid.1, hport.2⟩
  · cases h

/-- A user that is read is encoded. -/
theorem userinfo_of_readUserinfo {special : Bool} {userinfo : List Char}
    (h : readUserinfo special cs = .ok (userinfo, rest)) :
    userinfo = [] ∨ ∃ info, UserinfoText info ∧ userinfo = info ++ ['@'] := by
  rw [readUserinfo] at h
  split at h
  · cases h
    exact .inl rfl
  · simp only at h
    split at h
    · cases h
    · cases h
      exact writeUserinfo_spec _

/-- An authority that is read is canonical. -/
theorem canonical_of_readAuthority (hscheme : schemeKind scheme = .special)
    (h : readAuthority scheme cs = .ok (a, rest)) : a.Canonical scheme := by
  obtain ⟨⟨behind, huser⟩, ⟨_, hport⟩, hhost⟩ := parts_of_readAuthority h
  rw [hscheme] at hhost
  refine
    { userinfo := userinfo_of_readUserinfo huser
      host := ?_
      port := canonical_of_readBehindHost hport }
  split at hhost
  · cases hhost
  · next host heq =>
    obtain ⟨span, hhost⟩ := hhost
    exact ⟨host, heq, canonical_of_readHost hhost⟩

/-- The text of a port behind its colon. -/
def portText (port : Option Nat) : List Char := (port.map fun p => ':' :: Nat.toDigits 10 p).getD []

/-- The text of a host, if there is one. -/
def hostText (host : Option Host) : List Char := (host.map fun host => host.text.toList).getD []

/-- The text of an authority. -/
theorem Authority.toList_text (a : Authority) :
    a.text.toList = a.userinfo ++ (hostText a.host ++ portText a.port) := by
  have hhost : ((a.host.map Host.text).getD "").toList = hostText a.host := by
    cases a.host <;> rfl
  have hport : ((a.port.map fun p => ":" ++ toString p).getD "").toList = portText a.port := by
    cases a.port with
    | none => rfl
    | some p =>
      rw [Option.map_some, Option.getD_some, String.toList_append, Nat.toString_eq_repr,
        Nat.toList_repr]
      rfl
  rw [Authority.text, String.toList_append, String.toList_append, String.toList_ofList,
    hhost, hport, List.append_assoc]

/-- A port is read behind the host, if there is one. -/
theorem readBehindHost_text {port : Option Nat}
    (hport : ∀ p, port = some p → p ≤ 65535 ∧ defaultPort? scheme ≠ some p)
    (hrest : EndsAuthority rest) :
    readBehindHost scheme (portText port ++ rest) = .ok (port, rest) := by
  cases port with
  | none =>
    unfold readBehindHost
    split
    · next digits hcolon =>
      have hend := hrest ':' (by rw [← List.nil_append rest]; exact hcolon ▸ rfl)
      exact absurd hend (by decide)
    · rfl
  | some p =>
    obtain ⟨hle, hdefault⟩ := hport p rfl
    exact readPort_text hle hdefault hrest

/-- A port stands behind the end of a host, and in front of the end of an authority. -/
theorem portText_spec (port : Option Nat) :
    (∀ c ∈ portText port, 0x20 < c.toNat ∧ c ≠ '@' ∧ endsAuthority true c = false) ∧
      ∀ rest, EndsAuthority rest → EndsHost (portText port ++ rest) := by
  cases port with
  | none => exact ⟨fun c hc => absurd hc List.not_mem_nil, fun rest hrest c hc => .inr (hrest c hc)⟩
  | some p =>
    refine ⟨fun c hc => ?_, fun rest _ c hc => .inl (Option.some.inj hc).symm⟩
    rcases List.mem_cons.1 hc with rfl | hc
    · decide
    · have hdigit := Nat.isDigit_of_mem_toDigits (by decide) (by decide) hc
      obtain ⟨hvisible, hnot⟩ := plain_spec (Host.Name.isPlain_of_isDigit hdigit).1
      exact ⟨hvisible, fun heq => hnot (heq ▸ by decide), endsAuthority_eq_false hnot⟩

/-- A host and a port have no sign of a user. -/
theorem hostport_spec {host : Host} (h : host.Canonical) (port : Option Nat) :
    ∀ c ∈ host.text.toList ++ portText port,
      0x20 < c.toNat ∧ c ≠ '@' ∧ endsAuthority true c = false := by
  intro c hc
  have htext := hostText_of_canonical h
  rcases List.mem_append.1 hc with hc | hc
  · exact ⟨htext.visible c hc, htext.within c hc⟩
  · exact (portText_spec port).1 c hc

/-- The text of a canonical authority is not empty, and shows up to its end. -/
theorem Authority.Canonical.text_spec (h : a.Canonical scheme) :
    a.text.toList ≠ [] ∧ ∀ c ∈ a.text.toList, 0x20 < c.toNat ∧ endsAuthority true c = false := by
  obtain ⟨host, hhost, hcanonical⟩ := h.host
  rw [Authority.toList_text, hhost, hostText, Option.map_some, Option.getD_some]
  refine ⟨fun hnil => ?_, fun c hc => ?_⟩
  · rw [List.append_eq_nil_iff, List.append_eq_nil_iff] at hnil
    exact (hostText_of_canonical hcanonical).ne_nil hnil.2.1
  · rcases List.mem_append.1 hc with hc | hc
    · rcases h.userinfo with hnone | ⟨info, hinfo, huserinfo⟩
      · rw [hnone] at hc
        cases hc
      · rw [huserinfo, List.mem_append, List.mem_singleton] at hc
        rcases hc with hc | rfl
        · refine ⟨?_, hinfo.within hc⟩
          rcases hinfo.stands c hc with rfl | hstands
          · decide
          · exact hstands.visible (by decide)
        · decide
    · obtain ⟨hvisible, -, hend⟩ := hostport_spec hcanonical a.port c hc
      exact ⟨hvisible, hend⟩

/-- A canonical authority is read from its text, up to its end. -/
theorem readAuthority_text (hscheme : schemeKind scheme = .special) (h : a.Canonical scheme)
    (hrest : EndsAuthority rest) :
    readAuthority scheme (a.text.toList ++ rest) = .ok (a, rest) := by
  obtain ⟨host, hhost, hcanonical⟩ := h.host
  have htext := hostText_of_canonical hcanonical
  have hwithin := fun c hc => (hostport_spec hcanonical a.port c hc).2
  have huser : readUserinfo true (a.text.toList ++ rest) =
      .ok (a.userinfo, host.text.toList ++ (portText a.port ++ rest)) := by
    rw [Authority.toList_text, hhost, hostText, Option.map_some, Option.getD_some]
    rcases h.userinfo with hnone | ⟨info, hinfo, huserinfo⟩
    · rw [hnone, List.nil_append, readUserinfo_none hwithin hrest, List.append_assoc]
    · rw [huserinfo, readUserinfo_text hinfo hwithin hrest, List.append_assoc host.text.toList]
  have hspan := htext.span _ ((portText_spec a.port).2 rest hrest)
  have hempty : host.text.toList.isEmpty = false := by simpa using htext.ne_nil
  have hspecial : (schemeKind scheme).isSpecial = true := by rw [hscheme]; rfl
  rw [readAuthority_eq, hspecial, huser]
  simp only [bind, Except.bind, hspan, hempty, Bool.false_and, Bool.false_eq_true, if_true,
    if_false, readHost_text hcanonical, List.drop_left, readBehindHost_text h.port hrest, ← hhost]

end

end Url

end Scaffold
