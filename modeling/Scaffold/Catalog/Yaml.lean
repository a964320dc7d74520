import Scaffold.Catalog.Draft
import Scaffold.Catalog.Json
import Scaffold.Error
import Scaffold.Yaml.Decode

/-!
# Catalogs in YAML

How the parts of a catalog are written down in YAML. `Catalog.ofYaml` reads a catalog: the text as
a draft first, and then the draft as a catalog.
-/

namespace Scaffold

open Yaml (Decoder Node)

/-- Where aliases of a document lead. -/
abbrev Anchors := List (Nat × Node Nat)

/-- Reads a type expression. -/
def TypeExpr.decoder (anchors : Anchors) : Decoder TypeExpr :=
  (Decoder.text anchors).filterMap fun s => (TypeExpr.parse s).toOption

/-- Reads a parameter. -/
def Param.decoder (anchors : Anchors) : Decoder Param :=
  (Decoder.record anchors [
    ("type", .put (.variant anchors) fun (d : Param.Draft) kind => { d with kind := some kind }),
    ("required", .put (.bool anchors) fun d required => { d with required }),
    ("description", .put (.text anchors) fun d description => { d with description })]
    {}).filterMap Param.Draft.complete

/-- Reads a field. -/
def Field.decoder (anchors : Anchors) : Decoder Field :=
  (Decoder.record anchors [
    ("type", .put (TypeExpr.decoder anchors) fun (d : Field.Draft) type =>
      { d with type := some type }),
    ("required", .put (.bool anchors) fun d required => { d with required }),
    ("description", .put (.text anchors) fun d description => { d with description })]
    {}).filterMap Field.Draft.complete

/-- Reads a response. -/
def Response.decoder (anchors : Anchors) : Decoder Response :=
  (Decoder.record anchors [
    ("type", .put (TypeExpr.decoder anchors) fun (d : Response.Draft) type =>
      { d with type := some type }),
    ("description", .put (.text anchors) fun d description => { d with description })]
    {}).filterMap Response.Draft.complete

/-- An operation that is being read; what it has to have may not have come yet. -/
structure EndpointDraft.Partial where
  path : Option String := none
  method : Option HttpMethod := none
  description : String := ""
  params : Option (Table Param) := none
  body : Option (Table Field) := none
  response : Option Response := none
  requiredHeaders : List String := []
  localizeTimes : Bool := false

/-- The operation that is read, if it has all it has to have. -/
def EndpointDraft.Partial.complete (d : EndpointDraft.Partial) : Option EndpointDraft := do
  return {
    path := ← d.path
    method := ← d.method
    description := d.description
    params := d.params
    body := d.body
    response := ← d.response
    requiredHeaders := d.requiredHeaders
    localizeTimes := d.localizeTimes }

/-- Reads an operation. -/
def EndpointDraft.decoder (anchors : Anchors) : Decoder EndpointDraft :=
  (Decoder.record anchors [
    ("path", .put (.text anchors) fun (d : EndpointDraft.Partial) path =>
      { d with path := some path }),
    ("method", .put (.variant anchors) fun d method => { d with method := some method }),
    ("description", .put (.text anchors) fun d description => { d with description }),
    ("params", .put (.optional anchors (.table anchors (Param.decoder anchors))) fun d params =>
      { d with params }),
    ("body", .put (.optional anchors (.table anchors (Field.decoder anchors))) fun d body =>
      { d with body }),
    ("response", .put (Response.decoder anchors) fun d response =>
      { d with response := some response }),
    ("required_headers", .put (.list anchors (.text anchors)) fun d requiredHeaders =>
      { d with requiredHeaders }),
    ("localize_times", .put (.bool anchors) fun d localizeTimes => { d with localizeTimes })]
    {}).filterMap EndpointDraft.Partial.complete

/-- The definition of a type that is being read; its fields may not have come yet. -/
structure TypeDraft.Partial where
  description : String := ""
  fields : Option (Table Field) := none

/-- Reads the definition of a type. -/
def TypeDraft.decoder (anchors : Anchors) : Decoder TypeDraft :=
  (Decoder.record anchors [
    ("description", .put (.text anchors) fun (d : TypeDraft.Partial) description =>
      { d with description }),
    ("fields", .put (.table anchors (Field.decoder anchors)) fun d fields =>
      { d with fields := some fields })]
    {}).filterMap fun d => d.fields.map fun fields => { description := d.description, fields }

/-- A catalog that is being read; neither part may have come yet. -/
structure CatalogDraft.Partial where
  types : Option (Table TypeDraft) := none
  endpoints : Option (Table EndpointDraft) := none

/-- The catalog that is read, if it has both parts. -/
def CatalogDraft.Partial.complete (d : CatalogDraft.Partial) : Option CatalogDraft := do
  return { types := ← d.types, endpoints := ← d.endpoints }

/-- Reads a catalog as it is written down. -/
def CatalogDraft.decoder (anchors : Anchors) : Decoder CatalogDraft :=
  (Decoder.record anchors [
    ("types", .put (.table anchors (TypeDraft.decoder anchors))
      fun (d : CatalogDraft.Partial) types => { d with types := some types }),
    ("endpoints", .put (.table anchors (EndpointDraft.decoder anchors)) fun d endpoints =>
      { d with endpoints := some endpoints })]
    {}).filterMap CatalogDraft.Partial.complete

/-- Reads a catalog. -/
def Catalog.ofYaml (s : String) : Except Error Catalog :=
  match Decoder.run CatalogDraft.decoder s with
  | none => .error .yaml
  | some draft => (Catalog.ofDraft draft).mapError .catalog

/-- Reads a catalog that a file at `path` holds. -/
def Catalog.ofYamlFile (path s : String) : Except Error Catalog :=
  match Catalog.ofYaml s with
  | .error .yaml => .error (.catalogFile path)
  | result => result

end Scaffold
