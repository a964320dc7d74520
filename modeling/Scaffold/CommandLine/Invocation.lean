import Scaffold.CommandLine.Argument

/-!
# Invocations of the program

What the arguments of the program ask for: a subcommand with its options, and the files of the
configuration and of the catalog, which may be named in front of the subcommand and behind it. The
name behind it counts.
-/

namespace Scaffold

/-- Where generated files go. -/
structure Destination where
  outputDir : Option String
  /-- Whether files that are there already are overwritten. -/
  force : Bool
  deriving DecidableEq, Repr

/-- A subcommand with its options. -/
inductive Subcommand where
  | client (environment typesImportPath : Option String) (target : Destination)
  | proxyClient (typesImportPath : Option String) (target : Destination)
  | routes (framework clientImportPath : Option String) (target : Destination)
  | types (target : Destination)
  | list (json : Bool)
  /-- A command by its name, with options in JSON. -/
  | exec (command : String) (options : Option String) (target : Destination)
  deriving DecidableEq, Repr

/-- A subcommand with the files that it works with. -/
structure Invocation where
  config : Option String
  catalog : Option String
  subcommand : Subcommand
  deriving DecidableEq, Repr

/-- What the arguments of the program ask for. -/
inductive Request where
  /-- The arguments are refused. -/
  | refused
  | version
  | help
  | invoke (i : Invocation)
  deriving DecidableEq, Repr

namespace Request

/-- The options that may stand in front of the subcommand and behind it. -/
def commonOptions : List (String × OptionForm) :=
  [("config", .path), ("catalog", .path), ("help", .help)]

/-- The options that say where generated files go. -/
def destinationOptions : List (String × OptionForm) := [("output-dir", .path), ("force", .flag)]

/-- Where generated files go. -/
def destination (a : Arguments) : Destination where
  outputDir := a.value? "output-dir"
  force := a.has "force"

/-- How the arguments of a subcommand are read: its options, how many other arguments it takes, and
what they make together. -/
structure Form where
  options : List (String × OptionForm)
  room : Nat
  build : Arguments → Option Subcommand

/-- The subcommands by name. -/
def forms : List (String × Form) := [
  ("client", ⟨("environment", .text) :: ("types-import-path", .text) :: destinationOptions, 0,
    fun a => some (.client (a.value? "environment") (a.value? "types-import-path")
      (destination a))⟩),
  ("proxy-client", ⟨("types-import-path", .text) :: destinationOptions, 0,
    fun a => some (.proxyClient (a.value? "types-import-path") (destination a))⟩),
  ("routes", ⟨("framework", .text) :: ("client-import-path", .text) :: destinationOptions, 0,
    fun a => some (.routes (a.value? "framework") (a.value? "client-import-path")
      (destination a))⟩),
  ("types", ⟨destinationOptions, 0, fun a => some (.types (destination a))⟩),
  ("list", ⟨[("json", .flag)], 0, fun a => some (.list (a.has "json"))⟩),
  ("exec", ⟨("options", .text) :: destinationOptions, 1, fun a =>
    a.bare.head?.map fun command => .exec command (a.value? "options") (destination a)⟩)]

/-- Reads the arguments of a subcommand, behind those in front of it. -/
def ofSubcommand (front : Arguments) (form : Form) (args : List String) : Request :=
  match Arguments.scan (commonOptions ++ form.options) (some form.room) {} args with
  | .refused => .refused
  | .version => .version
  | .help => .help
  | .sorted a _ =>
    match form.build a with
    | none => .refused
    | some subcommand => .invoke {
        config := a.value? "config" <|> front.value? "config"
        catalog := a.value? "catalog" <|> front.value? "catalog"
        subcommand }

/-- Reads the arguments of the program. -/
def ofArguments (args : List String) : Request :=
  match Arguments.scan (("version", .version) :: commonOptions) none {} args with
  | .refused => .refused
  | .version => .version
  | .help => .help
  | .sorted _ [] => .refused
  | .sorted front (name :: rest) =>
    match forms.lookup name with
    | some form => ofSubcommand front form rest
    | none => if name == "help" then .help else .refused

end Request

end Scaffold
