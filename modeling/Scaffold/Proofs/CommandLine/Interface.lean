import Scaffold.Proofs.CommandLine.Preparation
import Scaffold.Proofs.CommandLine.Spelling
import Scaffold.Proofs.Settings.Serialising

/-!
# One interface

A subcommand asks for a command with options and a destination (`Subcommand.asked?`). What it does
depends on that alone: the options are filled up from the configuration, handed over in JSON, and
what comes back is printed or written (`Generator.answer`). So a subcommand does the same as `exec`
with the name of its command and with its options in JSON. The main statement is
`subcommands_share_interface`. The listing of lines is the exception, since `exec` lists in JSON
only.
-/

namespace Scaffold

/-! ## What is asked for -/

/-- The command that a subcommand asks for, the options that are given for it, and where the
files go. -/
def Subcommand.asked? : Subcommand → Option (String × Options × Destination)
  | .client environment typesImportPath target =>
    some (Registry.name Command.client, { environment, typesImportPath }, target)
  | .proxyClient typesImportPath target =>
    some (Registry.name Command.proxyClient, { typesImportPath }, target)
  | .routes framework clientImportPath target =>
    some (Registry.name Command.routes, { framework, clientImportPath }, target)
  | .types target => some (Registry.name Command.types, {}, target)
  | .list true => some (Registry.name Command.listEndpoints, {}, ⟨none, false⟩)
  | .list false => none
  | .exec command options target => (optionsOf options).toOption.map fun o => (command, o, target)

/-- Hands options over to a command in JSON, and prints or writes what it answers. The directory on
the command line counts before that of the options. -/
def Generator.answer {m : Type → Type} [Monad m] [Shell m] (g : Generator) (command : String)
    (o : Options) (target : Destination) : Action m Unit := do
  (← generated (g.dispatchJson command o.toJson)).emit
    (target.outputDir <|> o.outputDir) target.force

/-- Options that are handed over in JSON are those that count. -/
theorem Generator.dispatchJson_toJson (g : Generator) (command : String) (o : Options) :
    g.dispatchJson command o.toJson = g.dispatch command o := by
  rw [dispatchJson, (Options.options_read_back o).1]
  exact nofun

section
variable {m : Type → Type} [Monad m] {α β : Type}

/-- Options that are given in JSON are read. -/
theorem readOptions_of_ok {options : Option String} {o : Options} (h : optionsOf options = .ok o) :
    (readOptions options : Action m Options) = pure o := by
  cases options with
  | none =>
    cases h
    rfl
  | some s =>
    rw [optionsOf] at h
    rw [readOptions]
    cases hs : Options.ofText? s with
    | none => simp [hs] at h
    | some o' =>
      simp only [hs] at h ⊢
      cases h
      rfl

variable [LawfulMonad m]

/-- What follows on an answer of the generator gets it, -/
theorem generated_ok_bind (a : α) (f : α → Action m β) : generated (.ok a) >>= f = f a :=
  pure_bind a f

/-- and nothing follows on an error. -/
theorem generated_error_bind (e : Error) (f : α → Action m β) :
    generated (.error e) >>= f = throw (.generator e) := by
  have hpure : (generated (.error e) : Action m α) >>= f =
      ExceptT.mk (pure (.error (.generator e)) >>= ExceptT.bindCont f) := rfl
  rw [hpure, pure_bind]
  rfl

variable [Shell m] {g : Generator} {defaults o : Options} {command : String} {target : Destination}

/-- A command is carried out by handing over its options in JSON, -/
theorem Generator.bind_carryOut_eq_answer :
    (generated (readCommand command) >>= fun c => g.carryOut c o target : Action m Unit) =
      g.answer command o target := by
  rw [answer, dispatchJson_toJson, dispatch]
  cases readCommand command with
  | ok c => exact generated_ok_bind c _
  | error e =>
    rw [generated_error_bind]
    exact (generated_error_bind e _).symm

/-- also if it is no text yet. -/
theorem Generator.carryOut_eq_answer (c : Command) :
    (g.carryOut c o target : Action m Unit) = g.answer (Registry.name c) o target := by
  have hname : readCommand (Registry.name c) = .ok c := by cases c <;> rfl
  rw [← bind_carryOut_eq_answer, hname, generated_ok_bind]

/-- So is a subcommand. -/
theorem Subcommand.run_eq_answer {s : Subcommand} (h : s.asked? = some (command, o, target)) :
    (s.run g defaults : Action m Unit) = g.answer command (o.withDefaults defaults) target := by
  cases s with
  | client environment typesImportPath target =>
    cases h
    exact Generator.carryOut_eq_answer .client
  | proxyClient typesImportPath target =>
    cases h
    exact Generator.carryOut_eq_answer .proxyClient
  | routes framework clientImportPath target =>
    cases h
    exact Generator.carryOut_eq_answer .routes
  | types target =>
    cases h
    exact Generator.carryOut_eq_answer .types
  | list json =>
    cases json with
    | false => cases h
    | true =>
      cases h
      have hlisting (o : Options) : g.dispatch (Registry.name Command.listEndpoints) o =
          .ok (.endpoints g.catalog.summaries) := rfl
      rw [run, Generator.answer, Generator.dispatchJson_toJson, hlisting, generated_ok_bind]
      rfl
  | exec name options target =>
    rw [asked?, Option.map_eq_some_iff] at h
    obtain ⟨o', ho, heq⟩ := h
    cases heq
    have hread : optionsOf options = .ok o := by
      cases hoptions : optionsOf options with
      | error => simp [hoptions, Except.toOption] at ho
      | ok o' => simpa [hoptions, Except.toOption] using ho
    rw [run, readOptions_of_ok hread, ← Generator.bind_carryOut_eq_answer]
    simp only [pure_bind]

/-- A subcommand may stand for another one that asks for the same. -/
theorem Invocation.run_eq_of_asked {i : Invocation} {s : Subcommand}
    (h : i.subcommand.asked? = some (command, o, target))
    (hs : s.asked? = some (command, o, target)) (developmentUrl : Option String) :
    (({ i with subcommand := s } : Invocation).run developmentUrl : Action m Unit) =
    i.run developmentUrl := by
  simp only [run, Subcommand.run_eq_answer h, Subcommand.run_eq_answer hs]

end

/-! ## Spelling an invocation with exec -/

namespace Request

open Arguments (PathsNamed Takes attached given lookup_given mem_given_iff nodup_given scan_spelled)

/-- The values that options get when a command is spelled with `exec`. -/
def execValues (i : Invocation) (options : Option String) (target : Destination) :
    List (String × Option String) := [
  ("config", i.config), ("catalog", i.catalog), ("options", options),
  ("output-dir", target.outputDir)]

/-- The arguments that ask for a command by its name, with options in JSON. -/
def execArguments (i : Invocation) (command : String) (options : Option String)
    (target : Destination) : List String :=
  "exec" :: command :: ((given (execValues i options target)).map fun p => attached p.1 p.2) ++
    (if target.force then ["--force"] else [])

/-- How the arguments of `exec` are read. -/
def execForm : Form where
  options := ("options", .text) :: destinationOptions
  room := 1
  build a := a.bare.head?.map fun command => .exec command (a.value? "options") (destination a)

/-- The options of `exec`. -/
def execKnown : List (String × OptionForm) := commonOptions ++ execForm.options

/-- The arguments behind `exec`, sorted. -/
def execSorted (i : Invocation) (command : String) (options : Option String)
    (target : Destination) : Arguments where
  values := given (execValues i options target)
  flags := if target.force then ["force"] else []
  bare := [command]

variable {i : Invocation} {command : String} {target : Destination}

/-- The value of an option is that of the invocation. -/
theorem value?_execSorted (options : Option String) (name : String) :
    (execSorted i command options target).value? name =
      ((execValues i options target).lookup name).join :=
  lookup_given (by simp [execValues])

/-- The values of the invocation can be given, if no path is empty. -/
theorem takes_execValues (hconfig : i.config ≠ some "") (hcatalog : i.catalog ≠ some "")
    (hdir : target.outputDir ≠ some "") (options : Option String) :
    ∀ p ∈ given (execValues i options target), '=' ∉ p.1.toList ∧ Takes execKnown p.1 p.2 := by
  rintro ⟨name, value⟩ hp
  rw [mem_given_iff] at hp
  simp only [execValues, List.mem_cons, Prod.mk.injEq, List.not_mem_nil, or_false] at hp
  obtain ⟨rfl, hvalue⟩ | ⟨rfl, hvalue⟩ | ⟨rfl, hvalue⟩ | ⟨rfl, hvalue⟩ := hp
  · exact ⟨show '=' ∉ "config".toList by decide, .inr ⟨rfl, fun h => hconfig (h ▸ hvalue.symm)⟩⟩
  · exact ⟨show '=' ∉ "catalog".toList by decide, .inr ⟨rfl, fun h => hcatalog (h ▸ hvalue.symm)⟩⟩
  · exact ⟨show '=' ∉ "options".toList by decide, .inl rfl⟩
  · exact ⟨show '=' ∉ "output-dir".toList by decide, .inr ⟨rfl, fun h => hdir (h ▸ hvalue.symm)⟩⟩

/-- The arguments behind `exec` are sorted as meant. -/
theorem scan_execArguments (hcommand : Arguments.Role.of command = .bare) {options : Option String}
    (htakes : ∀ p ∈ given (execValues i options target), '=' ∉ p.1.toList ∧
      Takes execKnown p.1 p.2) :
    Arguments.scan execKnown (some 1) {} (execArguments i command options target).tail =
      .sorted (execSorted i command options target) [] := by
  have hname (rest : List String) : Arguments.scan execKnown (some 1) {} (command :: rest) =
      Arguments.scan execKnown (some 1) { bare := [command] } rest := by
    rw [Arguments.scan.eq_def]
    simp only [hcommand]
    rfl
  have hnodup : ((execValues i options target).map Prod.fst).Nodup := by simp [execValues]
  have hvalues := scan_spelled (a := { bare := [command] }) (some 1) (nodup_given hnodup)
    fun p hp => ⟨(htakes p hp).1, (htakes p hp).2, rfl⟩
  rw [execArguments, List.cons_append, List.cons_append, List.tail_cons, hname, hvalues, execSorted]
  cases target.force <;> rfl

/-- These arguments are read as meant, if no path is empty. -/
theorem ofArguments_execArguments (hcommand : Arguments.Role.of command = .bare)
    (hconfig : i.config ≠ some "") (hcatalog : i.catalog ≠ some "")
    (hdir : target.outputDir ≠ some "") (options : Option String) :
    ofArguments (execArguments i command options target) =
      .invoke { i with subcommand := .exec command options target } := by
  have hfront (rest : List String) : Arguments.scan (("version", .version) :: commonOptions) none {}
      ("exec" :: rest) = .sorted {} ("exec" :: rest) := Arguments.scan.eq_2 _ _ _ _ rfl
  have hread : ofArguments (execArguments i command options target) =
      ofSubcommand {} execForm (execArguments i command options target).tail := by
    rw [ofArguments, execArguments, List.cons_append, List.cons_append, hfront]
    rfl
  have hbuild : execForm.build (execSorted i command options target) =
      some (.exec command ((execSorted i command options target).value? "options")
        (destination (execSorted i command options target))) := rfl
  have hforce : (execSorted i command options target).has "force" = target.force := by
    rw [execSorted]
    cases target.force <;> rfl
  have hsorted := scan_execArguments hcommand (takes_execValues hconfig hcatalog hdir options)
  rw [execKnown] at hsorted
  rw [hread, ofSubcommand, show execForm.room = 1 from rfl, hsorted]
  simp only [hbuild, destination, value?_execSorted, hforce]
  have hconfig : ((execValues i options target).lookup "config").join = i.config := rfl
  have hcatalog : ((execValues i options target).lookup "catalog").join = i.catalog := rfl
  have hoptions : ((execValues i options target).lookup "options").join = options := rfl
  have hdir : ((execValues i options target).lookup "output-dir").join = target.outputDir := rfl
  rw [hconfig, hcatalog, hoptions, hdir]
  simp [Arguments.value?]

/-- An invocation is read in front of the subcommand and behind it. -/
theorem exists_of_ofArguments {args : List String} (h : ofArguments args = .invoke i) :
    ∃ front name rest form a rest',
      Arguments.scan (("version", .version) :: commonOptions) none {} args =
        .sorted front (name :: rest) ∧
      (name, form) ∈ forms ∧
      Arguments.scan (commonOptions ++ form.options) (some form.room) {} rest = .sorted a rest' ∧
      form.build a = some i.subcommand ∧ i.config = (a.value? "config" <|> front.value? "config") ∧
      i.catalog = (a.value? "catalog" <|> front.value? "catalog") := by
  rw [ofArguments] at h
  cases hfront : Arguments.scan (("version", .version) :: commonOptions) none {} args with
  | refused | version | help => simp [hfront] at h
  | sorted front names =>
    rw [hfront] at h
    cases names with
    | nil => cases h
    | cons name rest =>
      cases hform : forms.lookup name with
      | none =>
        simp only [hform] at h
        split at h <;> cases h
      | some form =>
        simp only [hform, ofSubcommand] at h
        cases hscan : Arguments.scan (commonOptions ++ form.options) (some form.room) {} rest with
        | refused | version | help => simp [hscan] at h
        | sorted a rest' =>
          simp only [hscan] at h
          cases hbuild : form.build a with
          | none => simp [hbuild] at h
          | some subcommand =>
            simp only [hbuild, Request.invoke.injEq] at h
            obtain ⟨before, behind, hsplit, -⟩ := List.lookup_eq_some_iff.1 hform
            refine ⟨front, name, rest, form, a, rest', rfl, ?_, hscan, ?_⟩
            · rw [hsplit]
              exact List.mem_append_right before (.head behind)
            · rw [← h]
              exact ⟨hbuild, rfl, rfl⟩

/-- The directory that is asked for is the value of an option, except for the listing, which
has none. -/
theorem outputDir_of_build {name : String} {form : Form} {a : Arguments} {subcommand : Subcommand}
    {asked : String × Options × Destination} (hform : (name, form) ∈ forms)
    (hbuild : form.build a = some subcommand) (hasked : subcommand.asked? = some asked) :
    asked.2.2.outputDir = none ∨ asked.2.2.outputDir = a.value? "output-dir" ∧
      (commonOptions ++ form.options).lookup "output-dir" = some .path := by
  simp only [forms, List.mem_cons, Prod.mk.injEq, List.not_mem_nil, or_false] at hform
  rcases hform with ⟨-, rfl⟩ | ⟨-, rfl⟩ | ⟨-, rfl⟩ | ⟨-, rfl⟩ | ⟨-, rfl⟩ | ⟨-, rfl⟩
  case inr.inr.inr.inr.inl =>
    rw [← Option.some.inj hbuild] at hasked
    cases hjson : a.has "json" <;> rw [hjson] at hasked <;> cases hasked
    exact .inl rfl
  case inr.inr.inr.inr.inr =>
    obtain ⟨command, -, hsubcommand⟩ := Option.map_eq_some_iff.1 hbuild
    rw [← hsubcommand, Subcommand.asked?, Option.map_eq_some_iff] at hasked
    obtain ⟨o, -, rfl⟩ := hasked
    exact .inr ⟨rfl, rfl⟩
  all_goals
    rw [← Option.some.inj hbuild] at hasked
    cases hasked
    exact .inr ⟨rfl, rfl⟩

/-- No path of an invocation is empty. -/
theorem paths_ne_empty {args : List String} (h : ofArguments args = .invoke i) :
    i.config ≠ some "" ∧ i.catalog ≠ some "" ∧
      ∀ asked, i.subcommand.asked? = some asked → asked.2.2.outputDir ≠ some "" := by
  obtain ⟨front, name, rest, form, a, rest', hfront, hform, hscan, hbuild, hconfig, hcatalog⟩ :=
    exists_of_ofArguments h
  have hnamed (known : List (String × OptionForm)) : PathsNamed known {} := nofun
  have hbefore := (hnamed _).scan hfront
  have hbehind := (hnamed _).scan hscan
  have hcommon (name : String)
      (hknown : (("version", OptionForm.version) :: commonOptions).lookup name = some .path)
      (hknown' : (commonOptions ++ form.options).lookup name = some .path) :
      (a.value? name <|> front.value? name) ≠ some "" := by
    have hfront := hbefore.value?_ne hknown
    have hback := hbehind.value?_ne hknown'
    cases hvalue : a.value? name with
    | none => simpa using hfront
    | some value =>
      rw [hvalue] at hback
      simpa using hback
  refine ⟨hconfig ▸ hcommon "config" rfl rfl, hcatalog ▸ hcommon "catalog" rfl rfl,
    fun asked hasked => ?_⟩
  rcases outputDir_of_build hform hbuild hasked with hnone | ⟨hvalue, hknown⟩
  · rw [hnone]
    exact nofun
  · rw [hvalue]
    exact hbehind.value?_ne hknown

end Request

/-! ## All subcommands -/

/-- An invocation that asks for a command does what handing over the options in JSON does, as does
`exec` with the name of the command and any JSON text of the options. It does so in every shell, so
exit code, printed text and files are the same. -/
structure SharesInterface (developmentUrl : Option String) (i : Invocation) (command : String)
    (o : Options) (target : Destination) : Prop where
  answered : ∀ {m : Type → Type} [Monad m] [LawfulMonad m] [Shell m],
    (i.run developmentUrl : Action m Unit) = do
      let config ← loadConfig i.config
      let catalog ← loadCatalog (i.catalog <|> config.catalogPath)
      Generator.answer { catalog, developmentUrl } command (o.withDefaults config.options) target
  /-- Every option is the given one, or else that of the configuration. -/
  merged : ∀ config : Config, (o.withDefaults config.options).entries.map Prod.snd =
    List.zipWith (· <|> ·) (o.entries.map Prod.snd) (config.entries.map Prod.snd)
  /-- There is a JSON text of the options, as of all options. -/
  serialised : ∀ o : Options, Options.ofJson o.toJson = .ok o ∧
    optionsOf (some o.toJson.compact) = .ok o
  /-- The invocation of `exec` can be spelled. -/
  spelled : ∀ c : Command, command = Registry.name c → ∀ options, optionsOf options = .ok o →
    Request.ofArguments (Request.execArguments i command options target) =
      .invoke { i with subcommand := .exec command options target }
  same : ∀ options, optionsOf options = .ok o →
    ∀ {m : Type → Type} [Monad m] [LawfulMonad m] [Shell m],
      (Request.run developmentUrl
        (.invoke { i with subcommand := .exec command options target }) : m Exit) =
        Request.run developmentUrl (.invoke i)

/-- Whatever arguments are accepted that ask for a command, they share one interface. -/
theorem subcommands_share_interface {args : List String} {i : Invocation} {command : String}
    {o : Options} {target : Destination} (hargs : Request.ofArguments args = .invoke i)
    (hasked : i.subcommand.asked? = some (command, o, target)) (developmentUrl : Option String) :
    SharesInterface developmentUrl i command o target where
  answered := by
    intro m _ _ _
    simp only [Invocation.run, Subcommand.run_eq_answer hasked]
  merged _ := rfl
  serialised o := by
    obtain ⟨hjson, htext⟩ := Options.options_read_back o
    exact ⟨hjson, by simp only [optionsOf, htext]⟩
  spelled c hc options _ := by
    obtain ⟨hconfig, hcatalog, hdir⟩ := Request.paths_ne_empty hargs
    refine Request.ofArguments_execArguments ?_ hconfig hcatalog (hdir _ hasked) options
    rw [hc]
    cases c <;> rfl
  same options hoptions := by
    intro m _ _ _
    have hexec : (Subcommand.exec command options target).asked? = some (command, o, target) := by
      rw [Subcommand.asked?, hoptions]
      rfl
    simp only [Request.run, Invocation.run_eq_of_asked hasked hexec]

/-- An invocation with a flag, a configuration and a destination. -/
def expressInvocation : Invocation where
  config := some "schedgen.yaml"
  catalog := none
  subcommand := .routes (some "express") none ⟨some "out", true⟩

/-- It does what `exec` does with the framework in JSON. -/
theorem express_shares_interface :
    Request.ofArguments ["--config", "schedgen.yaml", "routes", "--framework", "express",
      "--output-dir=out", "--force"] = .invoke expressInvocation ∧
    SharesInterface none expressInvocation "generate_routes" { framework := some "express" }
      ⟨some "out", true⟩ :=
  have hargs : Request.ofArguments ["--config", "schedgen.yaml", "routes", "--framework", "express",
    "--output-dir=out", "--force"] = .invoke expressInvocation := by decide
  ⟨hargs, subcommands_share_interface hargs rfl none⟩

end Scaffold
