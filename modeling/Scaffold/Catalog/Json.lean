import Scaffold.Catalog.Basic
import Scaffold.Json.Decode

/-!
# Parts of a catalog as JSON

The JSON form of parameters, fields and responses, and the rows of the listing.
-/

namespace Scaffold

open Json (DecodeError RecordForm)

/-- A parameter that is being read; its kind may not have come yet. -/
structure Param.Draft where
  kind : Option Scalar := none
  required : Bool := false
  description : String := ""

/-- The parameter that is read, if it has a kind. -/
def Param.Draft.complete (d : Param.Draft) : Option Param :=
  d.kind.map fun kind => { kind, required := d.required, description := d.description }

/-- A parameter as a record. -/
def Param.form : RecordForm Param.Draft where
  name := "ParamSpec"
  fields := [
    ("type", fun d j => j.toVariant.map fun kind => { d with kind := some kind }),
    ("required", fun d j => j.toBool.map fun required => { d with required }),
    ("description", fun d j => j.toText.map fun description => { d with description })]

/-- Reads a parameter. -/
def Param.ofJson (j : Json) : Except DecodeError Param :=
  form.readRequiring "type" {} Param.Draft.complete j

/-- The JSON form of a parameter. -/
def Param.toJson (p : Param) : Json := Json.ofMembers [
  ("type", .string (Registry.name p.kind)), ("required", .bool p.required),
  ("description", .string p.description)]

/-- A field that is being read; its type may not have come yet. -/
structure Field.Draft where
  type : Option TypeExpr := none
  required : Bool := false
  description : String := ""

/-- The field that is read, if it has a type. -/
def Field.Draft.complete (d : Field.Draft) : Option Field :=
  d.type.map fun type => { type, required := d.required, description := d.description }

/-- A field as a record. -/
def Field.form : RecordForm Field.Draft where
  name := "FieldSpec"
  fields := [
    ("type", fun d j => j.toTypeExpr.map fun type => { d with type := some type }),
    ("required", fun d j => j.toBool.map fun required => { d with required }),
    ("description", fun d j => j.toText.map fun description => { d with description })]

/-- Reads a field. -/
def Field.ofJson (j : Json) : Except DecodeError Field :=
  form.readRequiring "type" {} Field.Draft.complete j

/-- The JSON form of a field. -/
def Field.toJson (f : Field) : Json := Json.ofMembers [
  ("type", .string f.type.text), ("required", .bool f.required),
  ("description", .string f.description)]

/-- A response that is being read; its type may not have come yet. -/
structure Response.Draft where
  type : Option TypeExpr := none
  description : String := ""

/-- The response that is read, if it has a type. -/
def Response.Draft.complete (d : Response.Draft) : Option Response :=
  d.type.map fun type => { type, description := d.description }

/-- A response as a record. -/
def Response.form : RecordForm Response.Draft where
  name := "ResponseSpec"
  fields := [
    ("type", fun d j => j.toTypeExpr.map fun type => { d with type := some type }),
    ("description", fun d j => j.toText.map fun description => { d with description })]

/-- Reads a response. -/
def Response.ofJson (j : Json) : Except DecodeError Response :=
  form.readRequiring "type" {} Response.Draft.complete j

/-- The JSON form of a response. -/
def Response.toJson (r : Response) : Json := Json.ofMembers [
  ("type", .string r.type.text), ("description", .string r.description)]

/-- The members of a row of the listing, in the order in which they are written. -/
def EndpointSummary.toJson (s : EndpointSummary) : Json := .object [
  ("name", .string s.name), ("method", .string (Registry.name s.method)),
  ("path", .string s.path), ("description", .string s.description),
  ("parameters", Json.ofTexts s.parameters), ("response", .string s.response)]

end Scaffold
