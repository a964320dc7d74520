import Scaffold.CommandLine.Failure
import Scaffold.CommandLine.Invocation
import Scaffold.Files.Document
import Scaffold.Generator

/-!
# Running the program

`Invocation.run` loads the configuration and the catalog and carries out a subcommand. Generated
files are printed, or written one after the other: a failure leaves those in front of it written.
`Request.run` answers with the exit code of the program.
-/

namespace Scaffold

/-- A program that acts on its surroundings and may give up. -/
abbrev Action (m : Type → Type) (α : Type) := ExceptT Failure m α

variable {m : Type → Type} [Monad m] [Shell m]

/-! ## Output -/

/-- Prints generated files; where there are several, each has a line with its name in front. -/
def Artifact.print (a : Artifact) : Action m Unit :=
  a.entries.forM fun (name, content) => do
    if 1 < a.size then Shell.print ("// ---- " ++ name ++ " ----\n")
    Shell.print content

/-- Makes the directories on the way to a file. -/
def makeWay (path : Path) : Action m Unit := do
  if let some parent := path.parent? then
    if let .error _ ← Shell.makeDirectories parent then throw (.directory parent.text)

/-- Writes a text to a file and prints its path. -/
def putFile (path : Path) (content : String) : Action m Unit := do
  if let .error _ ← Shell.write path content then throw (.write path.text)
  Shell.print (path.text ++ "\n")

/-- Writes a generated file below a directory, with all directories on the way, and prints its
path. A file that is there already is kept, which is a failure, unless `force` holds. -/
def writeFile (dir : String) (force : Bool) (name content : String) : Action m Unit := do
  let path := Path.join dir name
  if (← Shell.isThere path) && !force then throw (.fileThere path.text)
  makeWay path
  putFile path content

/-- Writes generated files below a directory. -/
def Artifact.write (a : Artifact) (dir : String) (force : Bool) : Action m Unit :=
  a.entries.forM fun (name, content) => writeFile dir force name content

/-- Writes generated files below a directory, or prints them where there is none. -/
def Artifact.emit (a : Artifact) (dir : Option String) (force : Bool) : Action m Unit :=
  match dir with
  | some dir => a.write dir force
  | none => a.print

/-- A text followed by blanks up to a width. -/
def padded (width : Nat) (s : String) : String :=
  s ++ String.ofList (List.replicate (width - s.length) ' ')

/-- The line of an operation in the listing. -/
def EndpointSummary.line (row : EndpointSummary) : String :=
  padded 7 (Registry.name row.method) ++ " " ++ padded 36 row.path ++ " " ++ row.name ++ "\n"

/-- Prints the listing, as lines or in JSON. -/
def printListing (rows : List EndpointSummary) (json : Bool) : Action m Unit :=
  if json then
    Shell.print ((Json.array (rows.map EndpointSummary.toJson)).indented 0 ++ "\n")
  else rows.forM fun row => Shell.print row.line

/-- Prints or writes what a command answers. -/
def Output.emit (o : Output) (dir : Option String) (force : Bool) : Action m Unit :=
  match o with
  | .artifact a => a.emit dir force
  | .endpoints rows => printListing rows true

/-! ## Subcommands -/

/-- What the generator answers, or its failure. -/
def generated {α : Type} (x : Except Error α) : Action m α :=
  match x with
  | .ok a => pure a
  | .error e => throw (.generator e)

/-- Carries out a command; the directory on the command line counts before that of the options. -/
def Generator.carryOut (g : Generator) (c : Command) (o : Options) (target : Destination) :
    Action m Unit := do
  (← generated (g.run c o)).emit (target.outputDir <|> o.outputDir) target.force

/-- Reads options that are given in JSON. -/
def readOptions (options : Option String) : Action m Options :=
  match options with
  | none => pure {}
  | some s =>
    match Options.ofText? s with
    | some o => pure o
    | none => throw .options

/-- Carries out a subcommand, with the options that count where it leaves some out. -/
def Subcommand.run (g : Generator) (defaults : Options) : Subcommand → Action m Unit
  | .client environment typesImportPath target =>
    g.carryOut .client (({ environment, typesImportPath } : Options).withDefaults defaults) target
  | .proxyClient typesImportPath target =>
    g.carryOut .proxyClient (({ typesImportPath } : Options).withDefaults defaults) target
  | .routes framework clientImportPath target =>
    g.carryOut .routes (({ framework, clientImportPath } : Options).withDefaults defaults) target
  | .types target => g.carryOut .types defaults target
  | .list json => printListing g.catalog.summaries json
  | .exec command options target => do
    let c ← generated (Generator.readCommand command)
    g.carryOut c ((← readOptions options).withDefaults defaults) target

/-! ## The program -/

/-- The configuration of a file; the empty one if no file is named. -/
def loadConfig (path : Option String) : Action m Config :=
  match path with
  | none => pure {}
  | some path => do
    match ← Config.load path with
    | .ok c => pure c
    | .error _ => throw (.config path)

/-- The catalog of a file; the built-in one if no file is named. -/
def loadCatalog (path : Option String) : Action m Catalog :=
  match path with
  | none => pure .builtin
  | some path => do
    match ← Catalog.load path with
    | .ok c => pure c
    | .error _ => throw (.catalog path)

/-- Carries out an invocation. The catalog that is named in the invocation counts before that of
the configuration. -/
def Invocation.run (developmentUrl : Option String) (i : Invocation) : Action m Unit := do
  let config ← loadConfig i.config
  let catalog ← loadCatalog (i.catalog <|> config.catalogPath)
  i.subcommand.run { catalog, developmentUrl } config.options

/-- The answer to a request for the version. -/
def versionText : String := "schedgen 0.1.0\n"

/-- The answer to a request for help. -/
def helpText : String :=
  "Usage: schedgen [OPTIONS] <COMMAND>\n\nCommands: " ++
    ", ".intercalate (Request.forms.map Prod.fst) ++ "\n\nOptions: " ++
    ", ".intercalate (Request.commonOptions.map fun o => "--" ++ o.1) ++ ", --version\n"

/-- How a run of the program ends: its exit code, and what it says about a failure. -/
structure Exit where
  code : Nat
  failure : Option Failure := none

/-- Carries out what the arguments of the program ask for. -/
def Request.run (developmentUrl : Option String) : Request → m Exit
  | .refused => return { code := 2 }
  | .version => do
    Shell.print versionText
    return { code := 0 }
  | .help => do
    Shell.print helpText
    return { code := 0 }
  | .invoke i => do
    match ← (i.run developmentUrl).run with
    | .ok () => return { code := 0 }
    | .error e => return { code := 1, failure := some e }

end Scaffold
