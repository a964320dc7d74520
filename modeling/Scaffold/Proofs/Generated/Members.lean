import Scaffold.Proofs.Catalog.Acceptance
import Scaffold.Proofs.Generated.Places
import Scaffold.Proofs.TypeScript.ObjectType

/-!
# The members of generated types

The parameters and body fields of an operation become the members of an object type, and the fields
of a domain type become the members of an interface. The main statement is
`members_are_read_iff_named`: the members for operations are read in both clients, since operations
are checked, but those of the interfaces only if every field of a type definition has a name in the
form of an identifier, which no check asks for.
-/

namespace Scaffold

open Text (Adds Finds adds_nil adds_of_reads)
open TypeScript

/-! ## The parameters of client functions -/

namespace Client

section
variable {α : Type} {read : List Char → Option (α × List Char)} {places : List (String × α)}

/-- A method has the places of its parameter list. -/
theorem adds_methodText_of_signature {p : String × Endpoint}
    (h : Adds read places (signature p.2)) : Adds read places (methodText p) := by
  have hmethod : ∃ front rest, method p.1 p.2 = front ++ signature p.2 ++ rest ++ "\n" := by
    refine ⟨docComment p.2.description 2 ++ "  async " ++ p.1 ++ "(",
      "): Promise<" ++ returnType p.2 ++
      "> \x7b\n" ++ statements p.2 ++ "  \x7d", ?_⟩
    rw [method, show "  \x7d\n" = "  \x7d" ++ "\n" from rfl]
    simp only [String.append_assoc]
  obtain ⟨front, rest, hmethod⟩ := hmethod
  rw [(exists_methodText p).1, String.append_left_inj] at hmethod
  rw [hmethod]
  exact (h.behind front).before rest

/-- So has a function of the proxy client. -/
theorem adds_proxyText_of_signature {p : String × Endpoint} (h : Adds read places (signature p.2)) :
    Adds read places (proxyText p.1 p.2) := by
  have htext : ∃ front rest, proxyText p.1 p.2 = front ++ signature p.2 ++ rest := by
    refine ⟨docComment p.2.description 0 ++ "export async function " ++ p.1 ++ "(", "): Promise<" ++
      returnType p.2 ++ "> \x7b\n" ++ proxyStatements p.2 ++
      (if p.2.localizeTimes then "\n  return localizeTimes(result);" else "\n  return result;") ++
      "\n\x7d", ?_⟩
    rw [proxyText]
    simp only [String.append_assoc]
  obtain ⟨front, rest, htext⟩ := htext
  rw [htext]
  exact (h.behind front).before rest

end

/-- The members of the object type that an operation takes. -/
def signatureParts (e : Endpoint) : List Part :=
  match e.payload with
  | .none => []
  | .query params => params.entries.map fun q => ⟨q.1, q.2.required, paramType q.2⟩
  | .body fields => fields.entries.map fun q => ⟨q.1, q.2.required, bodyType true q.2⟩

/-- What stands in front of that type. -/
def signatureOpening (e : Endpoint) : String :=
  match e.payload with
  | .none => ""
  | .query _ => "params: "
  | .body _ => "data: "

/-- The places of members: the first behind a front, the others behind a separator. -/
def memberPlaces (front : String) : List Part → List (String × (String × Bool))
  | [] => []
  | m :: members => (front, m.head) :: members.map fun m => ("; ", m.head)

/-- The places of the members that an operation takes. -/
def signaturePlaces (e : Endpoint) : List (String × (String × Bool)) :=
  memberPlaces (signatureOpening e ++ "\x7b ") (signatureParts e)

/-- The place of the object type that an operation takes, with the names and marks of its
members. -/
def signatureObjects (e : Endpoint) : List (String × List (String × Bool)) :=
  match e.payload with
  | .none => []
  | .query _ | .body _ => [(signatureOpening e, (signatureParts e).map Part.head)]

section
variable {e : Endpoint}

/-- An operation without a payload takes nothing, and another one an object. -/
theorem signature_cases (e : Endpoint) : e.payload = .none ∧ signature e = "" ∨
    e.payload ≠ .none ∧ ∃ rest, signature e =
      signatureOpening e ++ objectType ((signatureParts e).map Part.text) ++ rest := by
  have hparams (params : Table Param) : paramsObjectType params = objectType ((params.entries.map
      fun q => (⟨q.1, q.2.required, paramType q.2⟩ : Part)).map Part.text) := by
    rw [paramsObjectType, List.map_map]
    rfl
  have hbody (fields : Table Field) : bodyObjectType fields = objectType ((fields.entries.map
      fun q => (⟨q.1, q.2.required, bodyType true q.2⟩ : Part)).map Part.text) := by
    rw [bodyObjectType, List.map_map]
    rfl
  rw [signature, Shape.of, signatureOpening, signatureParts]
  cases hp : e.payload with
  | none => exact .inl ⟨rfl, rfl⟩
  | query params =>
    refine .inr ⟨nofun, ?_⟩
    simp only [← hparams]
    by_cases hm : e.method = .delete
    · exact ⟨"", by simp only [if_pos hm, String.append_empty]⟩
    · exact ⟨_, by simp only [if_neg hm]; rfl⟩
  | body fields =>
    refine .inr ⟨nofun, "", ?_⟩
    simp only [← hbody, String.append_empty]

/-- A member is found where it begins. -/
theorem adds_part {m : Part} (h : isIdentifierShape m.name = true) (front : String) :
    Adds readMember? [(front, m.head)] (front ++ m.text) := by
  have hread (rest : List Char) : readMember? ((member m.name m.required "").toList ++ rest) =
      some (m.head, rest) := readMember?_eq_some_iff.2 ⟨h, rfl⟩
  rw [Part.text, member_eq, ← String.append_assoc]
  exact (adds_of_reads hread front).before m.type

/-- The members of an object type are found in order. -/
theorem adds_objectType {members : List Part} (h : ∀ m ∈ members, isIdentifierShape m.name = true)
    (front : String) :
    Adds readMember? (memberPlaces (front ++ "\x7b ") members)
      (front ++ objectType (members.map Part.text)) := by
  have hmore {members : List Part} (h : ∀ m ∈ members, isIdentifierShape m.name = true) :
      Adds readMember? (members.map fun m => ("; ", m.head))
        (String.join (members.map fun m => "; " ++ m.text)) := by
    rw [List.map_eq_flatMap]
    exact Adds.join fun m hm => adds_part (h m hm) "; "
  rw [objectType, ← String.append_assoc, ← String.append_assoc]
  refine Adds.before ?_ " \x7d"
  cases members with
  | nil => exact adds_nil _
  | cons m members =>
    have hfirst := adds_part (h m (.head _)) (front ++ "\x7b ")
    have hjoin : "; ".intercalate ((m :: members).map Part.text) =
        m.text ++ String.join (members.map fun m => "; " ++ m.text) := by
      have hstretch := Text.intercalate_stretch "; " Part.text [] members (List.cons_ne_nil m [])
      simpa using hstretch
    rw [hjoin, ← String.append_assoc]
    exact hfirst.append (hmore fun n hn => h n (.tail _ hn))

/-- The members that an operation takes are found in its parameter list, -/
theorem adds_signature (h : ∀ name ∈ e.payload.names, isIdentifierShape name = true) :
    Adds readMember? (signaturePlaces e) (signature e) := by
  have hparts : ∀ m ∈ signatureParts e, isIdentifierShape m.name = true := by
    intro m hm
    have hname : m.name ∈ e.payload.names := by
      rw [signatureParts] at hm
      cases hp : e.payload with
      | none => simp [hp] at hm
      | query params | body fields =>
        rw [hp] at hm
        obtain ⟨q, hq, rfl⟩ := List.mem_map.1 hm
        exact List.mem_map_of_mem hq
    exact h _ hname
  obtain ⟨hnone, -⟩ | ⟨-, rest, hsignature⟩ := signature_cases e
  · rw [signaturePlaces, signatureParts, hnone]
    exact adds_nil _
  · rw [hsignature]
    exact (adds_objectType hparts _).before rest

/-- and the object type itself is read there. -/
theorem adds_signature_object (h : ∀ m ∈ signatureParts e, m.Readable) :
    Adds readObject? (signatureObjects e) (signature e) := by
  rw [signatureObjects]
  obtain ⟨hnone, -⟩ | ⟨hpayload, rest, hsignature⟩ := signature_cases e
  · rw [hnone]
    exact adds_nil _
  · have hobject := (adds_of_reads (readObject?_objectType h) (signatureOpening e)).before rest
    rw [hsignature]
    cases hp : e.payload with
    | none => exact absurd hp hpayload
    | query params | body fields => exact hobject

end

/-! ## The fields of interfaces -/

/-- The member for a field. -/
def fieldPart (q : String × Field) : Part := ⟨q.1, q.2.required, fieldType false true q.2.type⟩

/-- The members of the interface of a domain type. -/
def typeParts (t : TypeDefinition) : List Part := t.fields.entries.map fieldPart

/-- The places of these members, each on its own line. -/
def typePlaces (t : TypeDefinition) : List (String × (String × Bool)) :=
  (typeParts t).map fun m => ("\n  ", m.head)

/-- The place of an interface, with the names and marks of its members. -/
def typeObjects (t : TypeDefinition) : List (String × List (String × Bool)) :=
  [("export interface " ++ Registry.name t.domain ++ " ", (typeParts t).map Part.head)]

section
variable {t : TypeDefinition}

/-- The line of a member ends in a semicolon. -/
theorem memberText_eq (q : String × Field) :
    memberText q = docComment q.2.description 2 ++ ("  " ++ ((fieldPart q).text ++ ";")) := by
  rw [memberText, interfaceMember, String.append_assoc]
  rfl

/-- The members of an interface are found in order, -/
theorem adds_interfaceText_members (h : ∀ name ∈ t.fields.names, isIdentifierShape name = true) :
    Adds readMember? (typePlaces t) (interfaceText t) := by
  have hbreak (description : String) : ∃ front, "\n" ++ docComment description 2 =
      front ++ "\n" := by
    rw [docComment]
    split
    · exact ⟨"", rfl⟩
    · exact ⟨"\n" ++ String.ofList (List.replicate 2 ' ') ++ "/** " ++
          commentText description ++ " */",
        by simp only [String.append_assoc, String.reduceAppend]⟩
  have hmember (q : String × Field) (hq : q ∈ t.fields.entries) :
      Adds readMember? [("\n  ", (fieldPart q).head)] ("\n" ++ memberText q) := by
    obtain ⟨front, hfront⟩ := hbreak q.2.description
    have hname : q.1 ∈ t.fields.names := List.mem_map_of_mem hq
    have htext : "\n" ++ memberText q = front ++ ("\n  " ++ (fieldPart q).text ++ ";") := by
      rw [memberText_eq, ← String.append_assoc, hfront, show "\n  " = "\n" ++ "  " from rfl]
      simp only [String.append_assoc]
    rw [htext]
    exact ((adds_part (h q.1 hname) "\n  ").before ";").behind front
  rw [interfaceText, typePlaces, typeParts, List.map_map, List.map_eq_flatMap]
  exact ((Adds.join hmember).behind _).before "\n\x7d"

/-- and the lines of its members are read up to its last brace. -/
theorem readFields?_join {entries : List (String × Field)}
    (h : ∀ q ∈ entries, (fieldPart q).Readable) (rest : List Char) :
    readFields? ((String.join (entries.map fun q => "\n" ++ memberText q)).toList ++ '\n' ::
      '\x7d' :: rest) =
      some (entries.map fun q => (fieldPart q).head, rest) := by
  induction entries with
  | nil => exact readFields?_end rfl
  | cons q entries ih =>
    have hq := h q (.head _)
    have hbreak : "\n".toList = ['\n'] := rfl
    have hmargin : "  ".toList = [' ', ' '] := rfl
    have hsemicolon : ";".toList = [';'] := rfl
    have htext (tail : List Char) : ("\n" ++ memberText q).toList ++ tail =
        '\n' :: (docComment q.2.description 2).toList ++ ' ' :: ' ' ::
          ((fieldPart q).text.toList ++ ';' :: tail) := by
      simp only [memberText_eq, String.toList_append, hbreak, hmargin, hsemicolon,
        List.append_assoc, List.cons_append, List.nil_append]
    rw [List.map_cons, String.join_cons, String.toList_append, List.append_assoc, htext]
    exact readFields?_more ((hq.opens _).skipGap_docComment _ 2) hq
      (ih fun q hq => h q (.tail _ hq))

/-- An interface is read as its members. -/
theorem adds_interfaceText_object (h : ∀ m ∈ typeParts t, m.Readable) :
    Adds readObject? (typeObjects t) (interfaceText t) := by
  let lines := String.join (t.fields.entries.map fun q => "\n" ++ memberText q)
  have hread (rest : List Char) : readObject? (("\x7b" ++ (lines ++ "\n\x7d")).toList ++ rest) =
      some ((typeParts t).map Part.head, rest) := by
    have hfields := readFields?_join (fun q hq => h _ (List.mem_map_of_mem hq)) rest
    have hopening : "\x7b".toList = ['\x7b'] := rfl
    have hclosing : "\n\x7d".toList = ['\n', '\x7d'] := rfl
    rw [typeParts, List.map_map]
    simp only [String.toList_append, hopening, hclosing, List.append_assoc, List.cons_append,
      List.nil_append]
    exact hfields
  have htext : interfaceText t = docComment t.description 0 ++ ("export interface " ++
      Registry.name t.domain ++ " " ++ ("\x7b" ++ (lines ++ "\n\x7d"))) := by
    rw [interfaceText, show " \x7b" = " " ++ "\x7b" from rfl]
    simp only [String.append_assoc, lines]
  rw [htext]
  exact (adds_of_reads hread _).behind _

end

end Client

/-! ## All types -/

/-- The fields of a body, and none of another payload. -/
def Payload.bodyEntries : Payload → List (String × Field)
  | .body fields => fields.entries
  | .none | .query _ => []

namespace Catalog

/-- In an accepted catalog, what an operation sends is named by identifiers. -/
theorem Accepted.field_names {c : Catalog} (hc : c.Accepted) {name : String} {e : Endpoint}
    (he : (name, e) ∈ c.endpoints.entries) :
    ∀ field ∈ e.payload.names, isIdentifierShape field = true := by
  obtain ⟨d, hd, hbecomes⟩ := hc.exists_wellFormed he
  rw [hbecomes.names_eq hd.payload]
  intro field hfield
  have hidentifier := hd.fields field hfield
  rw [isIdentifier, Bool.and_eq_true] at hidentifier
  exact hidentifier.1

/-- The fields of type definitions have names in the form of identifiers. -/
def NamesFields (c : Catalog) : Prop :=
  ∀ t ∈ c.types, ∀ name ∈ t.fields.names, isIdentifierShape name = true

/-- The spellings of the types of fields have matching braces, and semicolons only between them. -/
structure EnclosesTypes (c : Catalog) : Prop where
  bodies : ∀ p ∈ operations c, ∀ q ∈ p.2.payload.bodyEntries, Enclosed q.2.type.text
  types : ∀ t ∈ c.types, ∀ q ∈ t.fields.entries, Enclosed q.2.type.text

end Catalog

/-- What is read of the types that are generated from a catalog: always what its operations take, in
both clients, and what its type definitions declare exactly if their fields are named. -/
structure TypesAreRead {α : Type} (read : List Char → Option (α × List Char))
    (taken : Endpoint → List (String × α)) (declared : TypeDefinition → List (String × α))
    (c : Catalog) : Prop where
  direct : ∀ environment baseUrl typesPath, ∃ text,
    Client.direct c environment baseUrl typesPath = .ok text ∧
      Finds read ((operations c).flatMap fun p => taken p.2) text.toList
  proxy : ∀ typesPath, ∃ text, Client.proxy c typesPath = .ok text ∧
    Finds read ((operations c).flatMap fun p => taken p.2) text.toList
  types : (∃ text, Client.types c = .ok text ∧ Finds read (c.types.flatMap declared) text.toList) ↔
    c.NamesFields

section
variable {α : Type} {read : List Char → Option (α × List Char)}
  {taken : Endpoint → List (String × α)} {declared : TypeDefinition → List (String × α)}
  {c : Catalog}

/-- It takes the places of each parameter list and of each interface, and that only names
are read. -/
theorem TypesAreRead.of (htaken : ∀ p ∈ operations c, Adds read (taken p.2) (Client.signature p.2))
    (hdeclared : c.NamesFields → ∀ t ∈ c.types, Adds read (declared t) (Client.interfaceText t))
    (hnamed : (∀ t ∈ c.types, ∀ place ∈ declared t, ∃ cs rest, read cs = some (place.2, rest)) →
      c.NamesFields) : TypesAreRead read taken declared c := by
  exact {
    direct := fun environment baseUrl typesPath => by
      have hfront : Adds read [] (Client.directFront environment baseUrl typesPath) := adds_nil _
      exact Client.exists_direct_finds_of_mem hfront fun p hp =>
        Client.adds_methodText_of_signature (htaken p hp)
    proxy := fun typesPath => by
      have hfront : Adds read [] (Client.proxyFront typesPath) := adds_nil _
      exact Client.exists_proxy_finds_of_mem hfront fun p hp =>
        Client.adds_proxyText_of_signature (htaken p hp)
    types := by
      constructor
      · rintro ⟨text, -, hfinds⟩
        have hvalues := hfinds.forall_of_reads (P := fun a => ∃ cs rest, read cs = some (a, rest))
          fun cs a rest hread => ⟨cs, rest, hread⟩
        exact hnamed fun t ht place hplace => hvalues place (List.mem_flatMap.2 ⟨t, ht, hplace⟩)
      · exact fun hnames => Client.exists_types_finds_of_mem (hdeclared hnames) }

end

namespace Catalog

variable {c : Catalog}

/-- The beginnings of members are read. -/
theorem Accepted.members_read (hc : c.Accepted) :
    TypesAreRead readMember? Client.signaturePlaces Client.typePlaces c := by
  refine .of (fun p hp => Client.adds_signature (hc.field_names hp))
    (fun hnames t ht => Client.adds_interfaceText_members (hnames t ht))
      fun hread t ht name hname => ?_
  obtain ⟨q, hq, rfl⟩ := List.mem_map.1 hname
  have hplace : ("\n  ", (Client.fieldPart q).head) ∈ Client.typePlaces t :=
    List.mem_map_of_mem (List.mem_map_of_mem hq)
  obtain ⟨cs, rest, hmember⟩ := hread t ht _ hplace
  exact (readMember?_eq_some_iff.1 hmember).1

/-- The types are read as wholes. -/
theorem Accepted.objects_read (hc : c.Accepted) (henclosed : c.EnclosesTypes) :
    TypesAreRead readObject? Client.signatureObjects Client.typeObjects c := by
  refine .of (fun p hp => Client.adds_signature_object fun m hm => ?_)
    (fun hnames t ht => Client.adds_interfaceText_object fun m hm => ?_)
      fun hread t ht name hname => ?_
  · have hnames := hc.field_names hp
    have hbodies := henclosed.bodies p hp
    rw [Client.signatureParts] at hm
    cases hpayload : p.2.payload with
    | none =>
      rw [hpayload] at hm
      cases hm
    | query params =>
      rw [hpayload] at hm hnames
      obtain ⟨q, hq, rfl⟩ := List.mem_map.1 hm
      exact ⟨hnames _ (List.mem_map_of_mem hq), enclosed_paramType q.2⟩
    | body fields =>
      rw [hpayload] at hm hnames hbodies
      obtain ⟨q, hq, rfl⟩ := List.mem_map.1 hm
      exact ⟨hnames _ (List.mem_map_of_mem hq), enclosed_fieldType (hbodies q hq) true q.2.required⟩
  · obtain ⟨q, hq, rfl⟩ := List.mem_map.1 hm
    exact ⟨hnames t ht _ (List.mem_map_of_mem hq),
      enclosed_fieldType (henclosed.types t ht q hq) false true⟩
  · obtain ⟨cs, rest, hobject⟩ := hread t ht _ (.head _)
    obtain ⟨q, hq, rfl⟩ := List.mem_map.1 hname
    exact named_of_readObject? hobject _ (List.mem_map_of_mem (List.mem_map_of_mem hq))

end Catalog

/-- The text of a member is read as its name, mark and type exactly if the name has the form of an
identifier. So in the types that are generated from an accepted catalog, the members of the
parameter lists are read in both clients, and those of the interfaces exactly if the fields of all
type definitions are named like that. Where the types of fields have matching braces, the names and
marks that are read of each whole type are those of the catalog, in order. -/
theorem members_are_read_iff_named (c : Catalog) (hc : c.Accepted) :
    (∀ name required type rest, readMember? ((member name required type).toList ++ rest) =
      some ((name, required), type.toList ++ rest) ↔ isIdentifierShape name = true) ∧
    TypesAreRead readMember? Client.signaturePlaces Client.typePlaces c ∧
    (c.EnclosesTypes → TypesAreRead readObject? Client.signatureObjects Client.typeObjects c) :=
  ⟨fun _ _ _ _ => readMember?_member_iff, hc.members_read, hc.objects_read⟩

/-- The types of the built-in catalog have matching braces. -/
theorem Catalog.builtin_enclosesTypes : Catalog.builtin.EnclosesTypes :=
  ⟨by decide +kernel, by decide +kernel⟩

/-- The fields of the built-in catalog are named, and read in the module of domain types. -/
theorem builtin_fields_are_read :
    Catalog.builtin.Accepted ∧ Catalog.builtin.EnclosesTypes ∧ Catalog.builtin.NamesFields ∧
    ∃ text, Client.types Catalog.builtin = .ok text ∧
      Finds readObject? (Catalog.builtin.types.flatMap Client.typeObjects) text.toList := by
  have hnames : Catalog.builtin.NamesFields := by
    have hall : ∀ t ∈ Catalog.builtin.types, ∀ name ∈ t.fields.names,
        isIdentifierShape name = true := by
      decide +kernel
    exact hall
  obtain ⟨-, -, hread⟩ := members_are_read_iff_named _ Catalog.builtin_accepted
  have hobjects := hread Catalog.builtin_enclosesTypes
  exact ⟨Catalog.builtin_accepted, Catalog.builtin_enclosesTypes, hnames, hobjects.types.2 hnames⟩

/-! ## A name with a dash -/

/-- The built-in types, with a single field for a user, whose name is no identifier. -/
def dashedTypes : List TypeDefinition :=
  ⟨.user, "", ⟨[("first-name", ⟨.scalar .string, true, ""⟩)], by simp⟩⟩ ::
    Catalog.Builtin.types.tail

/-- A catalog with these types and without operations. -/
def dashedCatalog : Catalog := ⟨.empty, dashedTypes⟩

/-- The catalog is accepted, and its module of domain types has a line on which no member is
read. -/
theorem dashed_member_is_not_read :
    dashedCatalog.Accepted ∧
    (∃ before behind, Client.types dashedCatalog =
      .ok (before ++ "export interface User \x7b\n  first-name: string;\n\x7d" ++ behind)) ∧
    readMember? "first-name: string;".toList = none ∧
    ¬∃ text, Client.types dashedCatalog = .ok text ∧
      Finds readMember? (dashedCatalog.types.flatMap Client.typePlaces) text.toList := by
  have haccepted : dashedCatalog.Accepted := ⟨.of dashedCatalog, by decide +kernel⟩
  have hunnamed : ¬dashedCatalog.NamesFields := fun h =>
    absurd (h _ (.head _) "first-name" (.head _)) (by decide)
  refine ⟨haccepted, ?_, by decide +kernel, mt haccepted.members_read.types.1 hunnamed⟩
  obtain ⟨head, htypes⟩ := Client.exists_types
  refine ⟨head ++ "\n\n",
    String.join (dashedTypes.tail.map fun t => "\n\n" ++ Client.interfaceText t) ++
    "\n", ?_⟩
  have huser : dashedTypes.head?.map Client.interfaceText =
      some "export interface User \x7b\n  first-name: string;\n\x7d" := by decide +kernel
  rw [htypes, show dashedCatalog.types = dashedTypes from rfl]
  have hcut : dashedTypes.map (fun t => "\n\n" ++ Client.interfaceText t) =
      ("\n\n" ++ "export interface User \x7b\n  first-name: string;\n\x7d") ::
        dashedTypes.tail.map fun t => "\n\n" ++ Client.interfaceText t := by
    rw [← Option.some.inj huser]
    rfl
  rw [hcut, String.join_cons]
  simp only [String.append_assoc]

end Scaffold
