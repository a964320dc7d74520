import Scaffold.Proofs.Json.Quoting
import Scaffold.Proofs.Table
import Scaffold.Settings.Options

/-!
# Options in JSON

Options are written as an object with a member for each, and read back from the object as well as
from its text. The main statement is `options_read_back`.
-/

namespace Scaffold.Options

open Json (Written points textMembers textOfUnits?_points writtenMembers writtenText)

/-- The options with their names, in declaration order. -/
def entries (o : Options) : List (String × Option String) := [
  ("environment", o.environment), ("typesImportPath", o.typesImportPath),
  ("clientImportPath", o.clientImportPath), ("framework", o.framework), ("outputDir", o.outputDir)]

/-- The JSON form of options has a member for each of them. -/
theorem toJson_eq (o : Options) : o.toJson = .object (textMembers o.entries) := rfl

/-- A text that may be absent is read back from the structure of its JSON form, -/
theorem optionOfWritten?_writtenText (text : Option String) :
    optionOfWritten? (writtenText text) = some text := by
  cases text with
  | none => rfl
  | some s => rw [writtenText, optionOfWritten?, textOfUnits?_points, Option.map_some]

/-- and from its JSON form. -/
theorem toText?_ofText? (text : Option String) : (Json.ofText? text).toText? = .ok text := by
  cases text <;> rfl

section
variable {o : Options} {name : String} {put : Options → Option String → Options}
  {seen : List String} {text : Option String}

/-- A member for an option is put into the options, in the structure of a JSON text -/
theorem ofWrittenMembers?_cons (hput : fields.lookup name = some put)
    (hseen : seen.contains name = false) (rest : List (List Nat × Written)) :
    ofWrittenMembers? seen o ((points name, writtenText text) :: rest) =
      ofWrittenMembers? (name :: seen) (put o text) rest := by
  rw [ofWrittenMembers?, textOfUnits?_points, Option.bind_eq_bind, Option.bind_some]
  simp only [hput, hseen, optionOfWritten?_writtenText]
  rfl

/-- and in a JSON value. -/
theorem readMembers_cons (hput : fields.lookup name = some put) (rest : List (String × Json)) :
    form.readMembers o ((name, .ofText? text) :: rest) = form.readMembers (put o text) rest := by
  have hlookup : form.fields.lookup name = some fun o j => j.toText?.map (put o) := by
    refine (Table.lookup_map_snd fun (put : Options → Option String → Options) o (j : Json) =>
      j.toText?.map (put o)).trans ?_
    rw [hput, Option.map_some]
  rw [Json.RecordForm.readMembers, hlookup]
  simp only [toText?_ofText?]
  rfl

end

/-- Options are read back from their JSON form and from the text of it. -/
theorem options_read_back (o : Options) :
    ofJson o.toJson = .ok o ∧ ofText? o.toJson.compact = some o := by
  constructor
  · rw [ofJson, toJson, Json.RecordForm.read, readMembers_cons rfl, readMembers_cons rfl,
      readMembers_cons rfl, readMembers_cons rfl, readMembers_cons rfl]
    rfl
  · have hentries : o.entries ≠ [] := List.cons_ne_nil _ _
    rw [toJson_eq, ofText?, Json.Written.read?_compact hentries, Option.bind_some, ofWritten?,
      writtenMembers, entries, List.map_cons]
    simp only [List.map_cons]
    rw [ofWrittenMembers?_cons rfl rfl, ofWrittenMembers?_cons rfl rfl,
      ofWrittenMembers?_cons rfl rfl, ofWrittenMembers?_cons rfl rfl,
      ofWrittenMembers?_cons rfl rfl]
    rfl

end Scaffold.Options
