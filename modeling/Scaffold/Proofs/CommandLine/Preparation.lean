import Scaffold.Proofs.CommandLine.Writing

/-!
# What a run does before it writes

A run reads its files, generates, and then prints or writes. Everything up to there depends on what
the tree holds and changes nothing: `Invocation.job` is that part as a function of the tree, and
`Invocation.runOn_run` says that a run is this function followed by `Job.emit`.
-/

namespace Scaffold

/-! ## Jobs -/

/-- What is ready to be printed or written. -/
inductive Job where
  | listing (rows : List EndpointSummary) (json : Bool)
  | output (o : Output) (dir : Option String) (force : Bool)

/-- Prints or writes what is ready. -/
def Job.emit {m : Type → Type} [Monad m] [Shell m] : Job → Action m Unit
  | .listing rows json => printListing rows json
  | .output o dir force => o.emit dir force

/-- What a command answers, with the place where it goes. -/
def Generator.job (g : Generator) (c : Command) (o : Options) (target : Destination) :
    Except Failure Job :=
  ((g.run c o).mapError .generator).map fun output =>
    .output output (target.outputDir <|> o.outputDir) target.force

/-- A command has ready what its generator answers, for the directory of its target or else of
its options. -/
theorem Generator.job_eq_output_iff {g : Generator} {c : Command} {o : Options}
    {target : Destination} {output : Output} {dir : Option String} {force : Bool} :
    g.job c o target = .ok (.output output dir force) ↔
      g.run c o = .ok output ∧ dir = (target.outputDir <|> o.outputDir) ∧ force = target.force := by
  rw [job]
  cases hrun : g.run c o with
  | error e =>
    constructor
    · intro h
      cases h
    · rintro ⟨h, -⟩
      cases h
  | ok answer =>
    constructor
    · intro h
      cases h
      exact ⟨rfl, rfl, rfl⟩
    · rintro ⟨h, rfl, rfl⟩
      cases h
      rfl

/-- The options that are given in JSON. -/
def optionsOf (options : Option String) : Except Failure Options :=
  match options with
  | none => .ok {}
  | some s =>
    match Options.ofText? s with
    | some o => .ok o
    | none => .error .options

/-- What a subcommand has ready. -/
def Subcommand.job (g : Generator) (defaults : Options) : Subcommand → Except Failure Job
  | .client environment typesImportPath target =>
    g.job .client (({ environment, typesImportPath } : Options).withDefaults defaults) target
  | .proxyClient typesImportPath target =>
    g.job .proxyClient (({ typesImportPath } : Options).withDefaults defaults) target
  | .routes framework clientImportPath target =>
    g.job .routes (({ framework, clientImportPath } : Options).withDefaults defaults) target
  | .types target => g.job .types defaults target
  | .list json => .ok (.listing g.catalog.summaries json)
  | .exec command options target => do
    let c ← (Generator.readCommand command).mapError .generator
    g.job c ((← optionsOf options).withDefaults defaults) target

/-- The configuration that a tree holds. -/
def FileTree.config (t : FileTree) (path : Option String) : Except Failure Config :=
  match path with
  | none => .ok {}
  | some path =>
    match t.read (.ofText path) with
    | .ok s => (Config.ofText (.ofPath path) s).mapError fun _ => .config path
    | .error _ => .error (.config path)

/-- The catalog that a tree holds. -/
def FileTree.catalog (t : FileTree) (path : Option String) : Except Failure Catalog :=
  match path with
  | none => .ok .builtin
  | some path =>
    match t.read (.ofText path) with
    | .ok s => (Catalog.ofYamlFile path s).mapError fun _ => .catalog path
    | .error _ => .error (.catalog path)

/-- What an invocation has ready. -/
def Invocation.job (developmentUrl : Option String) (t : FileTree) (i : Invocation) :
    Except Failure Job := do
  let config ← t.config i.config
  let catalog ← t.catalog (i.catalog <|> config.catalogPath)
  i.subcommand.job { catalog, developmentUrl } config.options

/-! ## Runs -/

section
variable {w : Workspace}

/-- Nothing changes while something is generated. -/
theorem runOn_generated {α : Type} (x : Except Error α) :
    runOn (generated x) w = (x.mapError .generator, w) := by
  cases x <;> rfl

/-- Nothing changes while options are read. -/
theorem runOn_readOptions (options : Option String) :
    runOn (readOptions options) w = (optionsOf options, w) := by
  cases options with
  | none => rfl
  | some s =>
    simp only [readOptions, optionsOf]
    cases Options.ofText? s <;> rfl

/-- Nothing changes while the configuration is loaded. -/
theorem runOn_loadConfig (path : Option String) :
    runOn (loadConfig path) w = (w.tree.config path, w) := by
  cases path with
  | none => rfl
  | some path =>
    simp only [loadConfig, Config.load, FileTree.config, runOn_bind, runOn_read]
    cases w.tree.read (.ofText path) with
    | error => rfl
    | ok s => cases h : Config.ofText (.ofPath path) s <;> simp [h, Except.mapError]

/-- Nothing changes while the catalog is loaded. -/
theorem runOn_loadCatalog (path : Option String) :
    runOn (loadCatalog path) w = (w.tree.catalog path, w) := by
  cases path with
  | none => rfl
  | some path =>
    simp only [loadCatalog, Catalog.load, FileTree.catalog, runOn_bind, runOn_read]
    cases w.tree.read (.ofText path) with
    | error => rfl
    | ok s => cases h : Catalog.ofYamlFile path s <;> simp [h, Except.mapError]

/-- A command is carried out by emitting what it has ready. -/
theorem Generator.runOn_carryOut (g : Generator) (c : Command) (o : Options)
    (target : Destination) : runOn (g.carryOut c o target) w =
      match g.job c o target with
      | .ok job => runOn job.emit w
      | .error e => (.error e, w) := by
  rw [carryOut, runOn_bind, runOn_generated, job]
  cases g.run c o <;> rfl

/-- So is a subcommand. -/
theorem Subcommand.runOn_run (g : Generator) (defaults : Options) (s : Subcommand) :
    runOn (s.run g defaults) w =
      match s.job g defaults with
      | .ok job => runOn job.emit w
      | .error e => (.error e, w) := by
  cases s with
  | client | proxyClient | routes | types => rw [run, job, Generator.runOn_carryOut]
  | list => rfl
  | exec command options target =>
    rw [run, runOn_bind, runOn_generated, job]
    cases Generator.readCommand command with
    | error => rfl
    | ok c =>
      simp only [Except.mapError, runOn_bind, runOn_readOptions]
      cases optionsOf options with
      | error => rfl
      | ok o => exact Generator.runOn_carryOut g c (o.withDefaults defaults) target

/-- An invocation is carried out by emitting what it has ready. -/
theorem Invocation.runOn_run (developmentUrl : Option String) (i : Invocation) :
    runOn (i.run developmentUrl) w =
      match i.job developmentUrl w.tree with
      | .ok job => runOn job.emit w
      | .error e => (.error e, w) := by
  rw [run, runOn_bind, runOn_loadConfig, job]
  cases w.tree.config i.config with
  | error => rfl
  | ok config =>
    simp only [runOn_bind, runOn_loadCatalog]
    conv_rhs => simp only [bind, Except.bind]
    cases w.tree.catalog (i.catalog <|> config.catalogPath) with
    | error => rfl
    | ok catalog => exact Subcommand.runOn_run _ _ _

end

end Scaffold
