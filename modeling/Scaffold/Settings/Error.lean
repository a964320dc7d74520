import Scaffold.Json.Decode
import Scaffold.Settings.Command
import Scaffold.Settings.Environment
import Scaffold.Settings.Framework
import Scaffold.Url.Error

/-!
# Invalid arguments

The reasons for which a request to the generator is refused, and their wording.
-/

namespace Scaffold

/-- Why a request is refused. -/
inductive ArgumentError where
  | unknownEnvironment (name : String)
  | unknownFramework (name : String)
  | unknownCommand (name : String)
  /-- Routes are requested without a framework. -/
  | noFramework
  /-- The URL that is to replace that of the development environment is malformed. -/
  | developmentUrl (text : String) (e : UrlError)
  /-- The options do not have the form of options. -/
  | options (e : Json.DecodeError)

/-- The wording of an error. -/
def ArgumentError.message : ArgumentError → String
  | .unknownEnvironment name =>
    "Unknown environment '" ++ name ++ "'; expected one of: " ++ Registry.nameList Environment
  | .unknownFramework name =>
    "Unknown framework '" ++ name ++ "'; expected one of: " ++ Registry.nameList Framework
  | .unknownCommand name =>
    "Unknown command '" ++ name ++ "'; expected one of: " ++ Registry.nameList Command
  | .noFramework =>
    "a framework is required for route generation; expected one of: " ++
      Registry.nameList Framework
  | .developmentUrl text e =>
    developmentUrlVariable ++ " is not a valid URL ('" ++ text ++ "'): " ++ e.message
  | .options e => "Invalid options: " ++ e.message

end Scaffold
