import Scaffold.Proofs.Toml.Strings
import Scaffold.Toml.Document

/-!
# Reading back TOML documents

A document that is written from names and texts has one statement a line, and under its names it
holds the texts (`ofText?_write`). The names have to be ones that need no quotes, and no two of them
may be the same: a key that is there already is refused.
-/

namespace Scaffold.Toml

/-- Whether a name is a key without quotes. -/
structure IsKey (name : String) : Prop where
  nonempty : name.toList ≠ []
  keyChars : ∀ c ∈ name.toList, isKeyChar c = true

/-- The entries of a document that is written from names and texts. -/
def texts (entries : List (String × Option String)) : Entries :=
  entries.filterMap fun e => e.2.map fun s => (e.1, .text s)

variable {c d : Char} {name s : String} {rest : List Char} {entries : List (String × Option String)}

/-! ## Lines -/

/-- The characters of a key are not those that mean something in front of it. -/
theorem ne_of_isKeyChar (h : isKeyChar c = true) (hd : isKeyChar d = false) : c ≠ d := by
  rintro rfl
  cases h.symm.trans hd

/-- No character of a key is a blank. -/
theorem isBlank_of_isKeyChar (h : isKeyChar c = true) : isBlank c = false := by
  simp [isBlank, ne_of_isKeyChar h (d := ' ') rfl, ne_of_isKeyChar h (d := '\t') rfl]

/-- A key begins with one of its characters. -/
theorem IsKey.exists_cons (h : IsKey name) :
    ∃ c cs, name.toList = c :: cs ∧ isKeyChar c = true := by
  obtain ⟨c, cs, hname⟩ := List.exists_cons_of_ne_nil h.nonempty
  exact ⟨c, cs, hname, h.keyChars c (hname ▸ List.mem_cons_self)⟩

/-- A key is read up to the blank behind it. -/
theorem readKey?_append (h : IsKey name) (rest : List Char) :
    readKey? (name.toList ++ ' ' :: rest) = some (name, ' ' :: rest) := by
  obtain ⟨c, cs, hname, hc⟩ := h.exists_cons
  have htake : (name.toList ++ ' ' :: rest).takeWhile isKeyChar = name.toList := by
    rw [List.takeWhile_append_of_pos h.keyChars, List.takeWhile_cons_of_neg (by decide),
      List.append_nil]
  have hdrop : (name.toList ++ ' ' :: rest).dropWhile isKeyChar = ' ' :: rest := by
    rw [List.dropWhile_append_of_pos h.keyChars, List.dropWhile_cons_of_neg (by decide)]
  have hempty : name.toList.isEmpty = false := by rw [hname]; rfl
  rw [readKey?.eq_def]
  simp only [htake, hdrop, hempty, String.ofList_toList]
  split
  · rename_i heq
    rw [hname] at heq
    exact absurd (List.cons.inj heq).1 (ne_of_isKeyChar hc rfl)
  · rename_i heq
    rw [hname] at heq
    exact absurd (List.cons.inj heq).1 (ne_of_isKeyChar hc rfl)
  · rfl

/-- A key is a dotted key without dots, if an equals sign follows. -/
theorem readDottedKey?_append (h : IsKey name) (rest : List Char) :
    readDottedKey? (name.toList ++ ' ' :: '=' :: rest) = some (⟨name, []⟩, '=' :: rest) := by
  obtain ⟨c, cs, hname, hc⟩ := h.exists_cons
  have hblank : (name.toList ++ ' ' :: '=' :: rest).dropWhile isBlank =
      name.toList ++ ' ' :: '=' :: rest := by
    rw [hname, List.cons_append, List.dropWhile_cons_of_neg (by simp [isBlank_of_isKeyChar hc])]
  have hkeys : readKeys? (name.toList ++ ' ' :: '=' :: rest) = some (⟨name, []⟩, '=' :: rest) := by
    rw [readKeys?.eq_def, hblank, readKey?_append h]
    rfl
  rw [readDottedKey?, hkeys]
  rfl

/-- A string begins with a quote. -/
theorem exists_writeString (cs : List Char) :
    ∃ q w, writeString cs = q :: w ∧ (q = '"' ∨ q = '\'') := by
  rw [writeString]
  cases Spelling.of cs
  · exact ⟨_, _, rfl, .inl rfl⟩
  · exact ⟨_, _, rfl, .inr rfl⟩
  · exact ⟨_, _, rfl, .inl rfl⟩
  · exact ⟨_, _, rfl, .inr rfl⟩

/-- A string is read as a value. -/
theorem readValue?_writeString (depth : Nat) (s : String) (rest : List Char) :
    readValue? depth (writeString s.toList ++ '\n' :: rest) = some (.text s, '\n' :: rest) := by
  have hread := readString?_writeString s.toList rest
  obtain ⟨q, w, hw, hquote⟩ := exists_writeString s.toList
  rw [hw, List.cons_append] at hread ⊢
  rw [readValue?, hread]
  · simp only [String.ofList_toList]
  · rintro _ heq
    exact absurd ((List.cons.inj heq).1 ▸ hquote) (by decide)
  · rintro _ heq
    exact absurd ((List.cons.inj heq).1 ▸ hquote) (by decide)

/-- What is written for a name with a text. -/
def line (name s : String) (rest : List Char) : List Char :=
  name.toList ++ ' ' :: '=' :: ' ' :: (writeString s.toList ++ '\n' :: rest)

/-- A line is a statement. -/
theorem readStatement?_line (h : IsKey name) (s : String) (rest : List Char) :
    readStatement? (line name s rest) = some (.pair ⟨name, []⟩ (.text s), rest) := by
  obtain ⟨c, cs, hname, hc⟩ := h.exists_cons
  have hkey := readDottedKey?_append h (' ' :: (writeString s.toList ++ '\n' :: rest))
  have hvalue := readValue?_writeString (depthLimit - 1) s rest
  have hblank : (' ' :: (writeString s.toList ++ '\n' :: rest)).dropWhile isBlank =
      writeString s.toList ++ '\n' :: rest := by
    obtain ⟨q, w, hw, hquote⟩ := exists_writeString s.toList
    rw [hw]
    rcases hquote with rfl | rfl <;> rfl
  rw [line, hname] at *
  rw [List.cons_append] at hkey ⊢
  rw [readStatement?, hkey]
  · simp only [Option.bind_eq_bind, Option.bind_some, dropWord?, beq_self_eq_true, if_true,
      hblank, hvalue]
    rfl
  · rintro _ heq
    exact ne_of_isKeyChar hc rfl (List.cons.inj heq).1
  · rintro _ heq
    exact ne_of_isKeyChar hc rfl (List.cons.inj heq).1

/-! ## Documents -/

/-- Nothing stands in front of a key that is passed over. -/
theorem skipTrivia_key (hc : isKeyChar c = true) (rest : List Char) :
    skipTrivia (c :: rest) = c :: rest := by
  have hspace : skipSpace (c :: rest) = c :: rest := by
    rw [skipSpace, if_neg (by simp [isBlank_of_isKeyChar hc])]
    · exact fun h => ne_of_isKeyChar hc rfl h
    · exact fun _ h => absurd h (ne_of_isKeyChar hc rfl)
  rw [skipTrivia.eq_def]
  split
  · rename_i heq
    rw [hspace] at heq
    exact absurd (List.cons.inj heq).1 (ne_of_isKeyChar hc rfl)
  · exact hspace

/-- The first line is the first statement. -/
theorem readStatements?_line (h : IsKey name) (s : String) (rest : List Char) :
    readStatements? (line name s rest) =
      (readStatements? rest).map (.pair ⟨name, []⟩ (.text s) :: ·) := by
  obtain ⟨c, cs, hname, hc⟩ := h.exists_cons
  have htrivia : skipTrivia (line name s rest) = line name s rest := by
    rw [line, hname, List.cons_append, skipTrivia_key hc]
  have hlength : rest.length < (line name s rest).length := by
    simp only [line, List.length_append, List.length_cons]
    omega
  rw [readStatements?.eq_def, htrivia]
  split
  · rename_i heq
    rw [heq] at hlength
    cases hlength
  · rw [readStatement?_line h]
    simp only [if_pos hlength]

/-- A written document is a line for every text. -/
theorem toList_write_cons (name : String) (text : Option String) :
    (write ((name, text) :: entries)).toList =
      match text with
      | some s => line name s (write entries).toList
      | none => (write entries).toList := by
  cases text <;> simp [write, line]

/-- The statements of a written document are its texts with their names. -/
theorem readStatements?_write (hkeys : ∀ e ∈ entries, IsKey e.1) :
    readStatements? (write entries).toList =
      some ((texts entries).map fun e => .pair ⟨e.1, []⟩ e.2) := by
  induction entries with
  | nil => simp [write, texts, readStatements?, skipTrivia, skipSpace]
  | cons e entries ih =>
    obtain ⟨name, text⟩ := e
    have ih := ih fun e he => hkeys e (List.mem_cons_of_mem _ he)
    rw [toList_write_cons]
    cases text with
    | none => exact ih
    | some s =>
      rw [readStatements?_line (hkeys (name, some s) List.mem_cons_self), ih]
      rfl

/-- Statements with new keys add what they say to a document, one by one. -/
theorem run?_pairs {new old : Entries} (h : ((old ++ new).map Prod.fst).Nodup) :
    Document.run? [] (new.map fun e => .pair ⟨e.1, []⟩ e.2) old = some (old ++ new) := by
  induction new generalizing old with
  | nil => rw [List.append_nil]; rfl
  | cons e new ih =>
    have hnew : old.lookup e.1 = none := by
      rw [List.lookup_eq_none_iff]
      intro p hp
      rw [List.map_append, List.nodup_append] at h
      simpa using (h.2.2 _ (List.mem_map_of_mem hp) _ List.mem_cons_self).symm
    have hinsert : Entries.insertAt? e.2 e.1 true [] old = some (old ++ [e]) := by
      rw [Entries.insertAt?, hnew]
      rfl
    rw [List.map_cons, Document.run?, Entries.atHeader?]
    change (Entries.insertAt? e.2 e.1 true [] old).bind _ = _
    rw [hinsert, Option.bind_some, ih (by simpa using h), List.append_assoc, List.singleton_append]

/-- The keys of a written document are among the names. -/
theorem nodup_texts (h : (entries.map Prod.fst).Nodup) : ((texts entries).map Prod.fst).Nodup := by
  refine h.sublist ?_
  induction entries with
  | nil => exact List.Sublist.slnil
  | cons e entries ih =>
    obtain ⟨name, text⟩ := e
    have ih := ih (List.nodup_cons.1 h).2
    cases text with
    | none => exact ih.cons name
    | some s => exact ih.cons_cons name

/-- A written document begins with a key. -/
theorem isKeyChar_of_write (hkeys : ∀ e ∈ entries, IsKey e.1)
    (h : (write entries).toList = c :: rest) : isKeyChar c = true := by
  induction entries with
  | nil => simp [write] at h
  | cons e entries ih =>
    obtain ⟨name, text⟩ := e
    rw [toList_write_cons] at h
    cases text with
    | none => exact ih (fun e he => hkeys e (List.mem_cons_of_mem _ he)) h
    | some s =>
      obtain ⟨d, cs, hname, hd⟩ := (hkeys (name, some s) List.mem_cons_self).exists_cons
      simp only [line, hname, List.cons_append] at h
      exact (List.cons.inj h).1 ▸ hd

/-- A document that is written from names and texts holds the texts under their names. -/
theorem ofText?_write (hkeys : ∀ e ∈ entries, IsKey e.1) (hnodup : (entries.map Prod.fst).Nodup) :
    Document.ofText? (write entries) = some (texts entries) := by
  have hrun : (readStatements? (write entries).toList).bind (fun statements =>
      Document.run? [] statements []) = some (texts entries) := by
    rw [readStatements?_write hkeys, Option.bind_some]
    exact run?_pairs (nodup_texts hnodup)
  rw [Document.ofText?]
  split
  · rename_i heq
    cases isKeyChar_of_write hkeys heq
  · exact hrun

end Scaffold.Toml
