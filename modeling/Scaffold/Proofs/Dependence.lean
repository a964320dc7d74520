import Scaffold.Generator
import Scaffold.Proofs.Client.Fetching

/-!
# What a command depends on

Options are plain texts until a command reads them, and most commands read one half of the catalog.
`Command.Needs` says what a command reads. The main statement is `run_depends_on_needs`: two runs
that are given the same of that answer alike, with the same artifact or the same error, so what a
command does not read can neither change nor break it.
-/

namespace Scaffold

/-! ## What a run is given -/

/-- What a run is given: the halves of the catalog, the URL that replaces that of the development
environment, and the options. -/
inductive Given where
  | endpoints
  | types
  | developmentUrl
  | environment
  | typesImportPath
  | clientImportPath
  | framework
  | outputDir
  deriving DecidableEq

/-- Two runs are given the same. -/
def Given.Same (g g' : Generator) (o o' : Options) : Given → Prop
  | .endpoints => g.catalog.endpoints = g'.catalog.endpoints
  | .types => g.catalog.types = g'.catalog.types
  | .developmentUrl => g.developmentUrl = g'.developmentUrl
  | .environment => o.environment = o'.environment
  | .typesImportPath => o.typesImportPath = o'.typesImportPath
  | .clientImportPath => o.clientImportPath = o'.clientImportPath
  | .framework => o.framework = o'.framework
  | .outputDir => o.outputDir = o'.outputDir

/-- A command reads what it is given. The client reads the URL of the development environment for
that environment only. -/
def Command.Needs (o : Options) : Command → Given → Prop
  | .client, .endpoints | .client, .environment | .client, .typesImportPath => True
  | .client, .developmentUrl => o.readEnvironment = .ok .development
  | .proxyClient, .endpoints | .proxyClient, .typesImportPath => True
  | .routes, .endpoints | .routes, .framework | .routes, .clientImportPath => True
  | .types, .types => True
  | .listEndpoints, .endpoints => True
  | _, _ => False

/-! ## What is read of a catalog -/

section
variable {c c' : Catalog}

/-- The direct client is made from the operations. -/
theorem Client.direct_congr (h : c.endpoints = c'.endpoints) :
    Client.direct c = Client.direct c' := by
  unfold Client.direct Client.directContext Client.methods
  rw [h]

/-- The proxy client is made from the operations. -/
theorem Client.proxy_congr (h : c.endpoints = c'.endpoints) : Client.proxy c = Client.proxy c' := by
  unfold Client.proxy Client.proxyContext
  rw [h]

/-- The module of domain types is made from the domain types. -/
theorem Client.types_congr (h : c.types = c'.types) : Client.types c = Client.types c' := by
  unfold Client.types Client.typesContext
  rw [h]

/-- Route handlers are made from the operations. -/
theorem Route.handlers_congr (h : c.endpoints = c'.endpoints) :
    Route.handlers c = Route.handlers c' := by
  unfold Route.handlers Route.bindings
  rw [h]

/-- The listing is made from the operations. -/
theorem Catalog.summaries_congr (h : c.endpoints = c'.endpoints) : c.summaries = c'.summaries := by
  unfold Catalog.summaries
  rw [h]

end

/-! ## What is read of the options -/

/-- The URL of an environment other than that of development cannot be replaced. -/
theorem Environment.baseUrl_of_ne_development {e : Environment} (h : e ≠ .development)
    (replacement : Option String) : e.baseUrl replacement = .ok e.defaultBaseUrl := by
  unfold Environment.baseUrl
  split
  · exact absurd rfl h
  · rfl

section
variable {g g' : Generator} {o o' : Options}

/-- Options with one text for the environment choose the same one. -/
theorem Options.readEnvironment_congr (h : o.environment = o'.environment) :
    o.readEnvironment = o'.readEnvironment := by
  unfold Options.readEnvironment
  rw [h]

/-- Options with one text for the framework choose the same one. -/
theorem Options.readFramework_congr (h : o.framework = o'.framework) :
    o.readFramework = o'.readFramework := by
  unfold Options.readFramework
  rw [h]

/-- Options with one import path of the domain types have it from the same place. -/
theorem Options.typesPath_congr (h : o.typesImportPath = o'.typesImportPath) :
    o.typesPath = o'.typesPath := by
  unfold Options.typesPath
  rw [h]

/-- Generators have one base URL for an environment if they agree on the URL of development where
that is the environment. -/
theorem Generator.baseUrl_congr {e : Environment}
    (h : e = .development → g.developmentUrl = g'.developmentUrl) : g.baseUrl e = g'.baseUrl e := by
  unfold Generator.baseUrl
  by_cases he : e = .development
  · rw [h he]
  · rw [Environment.baseUrl_of_ne_development he, Environment.baseUrl_of_ne_development he]

/-! ## Commands -/

/-- What the direct client depends on. -/
theorem Generator.client_congr (hendpoints : g.catalog.endpoints = g'.catalog.endpoints)
    (henvironment : o.environment = o'.environment)
    (htypes : o.typesImportPath = o'.typesImportPath)
    (hurl : o.readEnvironment = .ok .development → g.developmentUrl = g'.developmentUrl) :
    g.client o = g'.client o' := by
  unfold Generator.client
  rw [← Options.readEnvironment_congr henvironment, ← Options.typesPath_congr htypes,
    Client.direct_congr hendpoints]
  cases he : o.readEnvironment with
  | error err => rfl
  | ok e =>
    have hbase : g.baseUrl e = g'.baseUrl e :=
      Generator.baseUrl_congr fun hdevelopment => hurl (he.trans (by rw [hdevelopment]))
    simp only [Except.mapError, bind, Except.bind, hbase]

/-- What the proxy client depends on. -/
theorem Generator.proxyClient_congr (hendpoints : g.catalog.endpoints = g'.catalog.endpoints)
    (htypes : o.typesImportPath = o'.typesImportPath) : g.proxyClient o = g'.proxyClient o' := by
  unfold Generator.proxyClient
  rw [Client.proxy_congr hendpoints, Options.typesPath_congr htypes]

/-- What route handlers depend on. -/
theorem Generator.routes_congr (hendpoints : g.catalog.endpoints = g'.catalog.endpoints)
    (hframework : o.framework = o'.framework)
    (hclient : o.clientImportPath = o'.clientImportPath) : g.routes o = g'.routes o' := by
  unfold Generator.routes
  rw [Route.handlers_congr hendpoints, Options.readFramework_congr hframework, hclient]

/-- What the domain types depend on. -/
theorem Generator.types_congr (htypes : g.catalog.types = g'.catalog.types) :
    g.types = g'.types := by
  unfold Generator.types
  rw [Client.types_congr htypes]

/-- Two runs that are given the same of what their command reads answer alike. -/
theorem Generator.run_eq_of_needs (c : Command) (h : ∀ i, c.Needs o i → i.Same g g' o o') :
    g.run c o = g'.run c o' := by
  cases c with
  | client =>
    rw [Generator.run, Generator.run, Generator.client_congr (h .endpoints trivial)
      (h .environment trivial) (h .typesImportPath trivial) (h .developmentUrl)]
  | proxyClient =>
    rw [Generator.run, Generator.run,
      Generator.proxyClient_congr (h .endpoints trivial) (h .typesImportPath trivial)]
  | routes =>
    rw [Generator.run, Generator.run, Generator.routes_congr (h .endpoints trivial)
      (h .framework trivial) (h .clientImportPath trivial)]
  | types => rw [Generator.run, Generator.run, Generator.types_congr (h .types trivial)]
  | listEndpoints =>
    rw [Generator.run, Generator.run, Catalog.summaries_congr (h .endpoints trivial)]

end

/-- A command depends on what it reads alone: two runs that are given the same of that answer alike,
whatever else they are given, and so do two runs that differ only in something it does not read. -/
theorem run_depends_on_needs (g g' : Generator) (o o' : Options) (c : Command) :
    ((∀ i, c.Needs o i → i.Same g g' o o') → g.run c o = g'.run c o') ∧
    ∀ i, ¬c.Needs o i → (∀ j, j ≠ i → j.Same g g' o o') → g.run c o = g'.run c o' := by
  refine ⟨Generator.run_eq_of_needs c, fun i hi h => Generator.run_eq_of_needs c fun j hj => h j ?_⟩
  rintro rfl
  exact hi hj

/-- The domain types of two catalogs with other operations, and the client for staging, whatever
else is wrong with the options. -/
theorem types_and_client_run_alike :
    ({ catalog := Client.probeCatalog "/slots" } : Generator).run .types {} =
      ({ catalog := Client.probeCatalog "/rooms", developmentUrl := "no url" } : Generator).run
        .types { environment := "mars", framework := "rails", outputDir := "out" } ∧
    ({ catalog := Client.probeCatalog "/slots" } : Generator).run
        .client { environment := "staging" } =
      ({ catalog := Client.probeCatalog "/slots", developmentUrl := "no url" } : Generator).run
        .client { environment := "staging" } := by
  refine ⟨(run_depends_on_needs _ _ _ _ .types).1 fun i hi => ?_,
    (run_depends_on_needs _ _ _ _ .client).2 .developmentUrl ?_ fun j hj => ?_⟩
  · cases i with
    | types => rfl
    | _ => cases hi
  · intro h
    exact absurd (congrArg Except.toOption h) (by decide +kernel)
  · cases j with
    | developmentUrl => exact absurd rfl hj
    | _ => rfl

end Scaffold
