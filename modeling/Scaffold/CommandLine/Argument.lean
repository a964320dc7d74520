/-!
# Arguments of a command line

An argument with two hyphens in front names an option; the value of an option follows an equals
sign or is the next argument, which then has no hyphen in front. Two hyphens alone end the options.
`Arguments.scan` sorts the arguments of a command; an option may be given once.
-/

namespace Scaffold

/-- What an option takes. -/
inductive OptionForm where
  /-- Nothing. -/
  | flag
  /-- Any text. -/
  | text
  /-- A text that is not empty. -/
  | path
  /-- Nothing; the option asks for the version of the program. -/
  | version
  /-- Nothing; the option asks for a description of the program. -/
  | help
  deriving DecidableEq, Repr

/-- The arguments of a command, sorted. -/
structure Arguments where
  /-- The options that take a value, with their values. -/
  values : List (String × String) := []
  flags : List String := []
  /-- The arguments that are no options. -/
  bare : List String := []
  deriving DecidableEq, Repr

namespace Arguments

/-- What becomes of arguments. -/
inductive Scan where
  | refused
  | version
  | help
  /-- The arguments of the command, and those behind the name of a subcommand. -/
  | sorted (a : Arguments) (rest : List String)
  deriving DecidableEq, Repr

/-- What a single argument is. -/
inductive Role where
  | bare
  /-- The end of the options. -/
  | separator
  /-- The name of an option, and the value attached to it. -/
  | named (name : String) (attached : Option String)
  deriving DecidableEq, Repr

/-- Whether an argument has a hyphen in front; a hyphen alone is an ordinary text. -/
def isHyphenated (s : String) : Bool := s.toList.head? == some '-' && s != "-"

/-- The role of an argument. The options with one hyphen are those for help and the version. -/
def Role.of (s : String) : Role :=
  match s.toList with
  | ['-'] => .bare
  | ['-', '-'] => .separator
  | '-' :: '-' :: cs =>
    let name := String.ofList (cs.takeWhile (· != '='))
    match cs.dropWhile (· != '=') with
    | [] => .named name none
    | _ :: value => .named name (some (String.ofList value))
  | '-' :: 'V' :: _ => .named "version" none
  | '-' :: 'h' :: _ => .named "help" none
  | '-' :: _ => .named "" none
  | _ => .bare

/-- The value of an option. -/
def value? (a : Arguments) (name : String) : Option String := a.values.lookup name

/-- Whether a flag is given. -/
def has (a : Arguments) (name : String) : Bool := a.flags.contains name

/-- The arguments with an option that takes a value; nothing if the value is refused or the option
is there already. -/
def addValue? (a : Arguments) (form : OptionForm) (name value : String) : Option Arguments :=
  if (form == .path && value.isEmpty) || (a.value? name).isSome then none
  else some { a with values := a.values ++ [(name, value)] }

/-- The arguments with a flag; nothing if it is there already. -/
def addFlag? (a : Arguments) (name : String) : Option Arguments :=
  if a.has name then none else some { a with flags := a.flags ++ [name] }

/-- The arguments with more that are no options, of which there may be as many as `room`. -/
def addBare (a : Arguments) (room : Nat) (bare : List String) : Scan :=
  if room < a.bare.length + bare.length then .refused
  else .sorted { a with bare := a.bare ++ bare } []

/-- Sorts arguments, of which `a` are there already. `known` are the options of the command; it
takes as many other arguments as `room` tells, or a subcommand. -/
def scan (known : List (String × OptionForm)) (room : Option Nat) :
    Arguments → List String → Scan
  | a, [] => .sorted a []
  | a, arg :: rest =>
    match Role.of arg, room with
    | .bare, none => .sorted a (arg :: rest)
    | .bare, some n =>
      if a.bare.length < n then scan known room { a with bare := a.bare ++ [arg] } rest
      else .refused
    | .separator, none => .refused
    | .separator, some n => a.addBare n rest
    | .named name attached, _ =>
      match known.lookup name, attached with
      | none, _ => .refused
      | some .version, none => .version
      | some .help, none => .help
      | some .flag, none =>
        match a.addFlag? name with
        | some a => scan known room a rest
        | none => .refused
      | some .version, some _ | some .help, some _ | some .flag, some _ => .refused
      | some form, some value =>
        match a.addValue? form name value with
        | some a => scan known room a rest
        | none => .refused
      | some form, none =>
        match rest with
        | [] => .refused
        | value :: rest =>
          if isHyphenated value then .refused
          else
            match a.addValue? form name value with
            | some a => scan known room a rest
            | none => .refused

end Arguments

end Scaffold
