import Scaffold.Generator
import Scaffold.Proofs.Registry
import Scaffold.Proofs.Template.Checking
import Scaffold.Proofs.Traversal

/-!
# Which commands are refused

A command is refused for what it is asked for and for nothing else: an environment or a framework
that is not known, no framework at all, or a text that replaces the URL of the development
environment and is none. `Refused` lists these reasons. The main statement is
`run_fails_iff_refused`: a command fails with a reason for which it is refused, or it succeeds. For
that no template may fail, so every template is checked against the kinds of the values that it is
rendered with (`BuiltFor`).
-/

namespace Scaffold

/-! ## What templates are rendered with -/

namespace Template

/-- A record of values without members. -/
def Kind.plain (names : List String) : Kind := .record (names.map fun name => (name, .leaf))

/-- What the template of the proxy client can find in a function. -/
def functionKind : Kind := .plain [
  "name", "description", "signature", "return_type", "shape", "method", "path", "path_literal",
  "localize_times"]

/-- What the template of the domain types can find in an interface. -/
def interfaceKind : Kind := .record [
  ("name", .leaf), ("description", .leaf), ("members", .items (.plain ["description", "line"]))]

/-- What the templates of route handlers can find in a binding. -/
def bindingKind : Kind := .plain [
  "operation", "description", "method", "verb", "decorator", "path", "relative_path",
  "path_literal", "relative_path_literal", "input", "call_args"]

/-- What a template can find in its context. -/
def Name.contextKind : Name → ScopeKind
  | .directClient => [
    ("header", .leaf), ("types_import_path", .leaf), ("environment", .leaf),
    ("default_base_url", .leaf), ("base_url_env", .leaf), ("api_key_header", .leaf),
    ("methods", .leaf)]
  | .proxyClient => [
    ("header", .leaf), ("types_import_path", .leaf), ("route_prefix", .leaf),
    ("functions", .items functionKind)]
  | .typesModule => [
    ("header", .leaf), ("enums", .items (.plain ["name", "union"])),
    ("interfaces", .items interfaceKind)]
  | _ => [
    ("header", .leaf), ("client_import_path", .leaf), ("api_key_env", .leaf),
    ("route_prefix", .leaf), ("controller_path", .leaf), ("nest_imports", .leaf),
    ("failure_status", .leaf), ("bindings", .items bindingKind)]

/-- The contexts that a template is rendered with. -/
inductive BuiltFor : Name → Scope → Prop
  | direct (c : Catalog) (environment : Environment) (baseUrl typesPath : String) :
    BuiltFor .directClient (Client.directContext c environment baseUrl typesPath)
  | proxy (c : Catalog) (typesPath : String) :
    BuiltFor .proxyClient (Client.proxyContext c typesPath)
  | types (c : Catalog) : BuiltFor .typesModule (Client.typesContext c)
  /-- The templates of route handlers share one context, for some of the bindings or for all. -/
  | routes {name : Name} (h : name ∉ [Name.directClient, .proxyClient, .typesModule])
    (clientPath : String) (bindings : List Route.Binding) :
    BuiltFor name (Route.context clientPath bindings)

/-- No template names a value that is not of the kinds of its context. -/
theorem checkParts_contextKind (name : Name) : checkParts [name.contextKind] name.parts = true := by
  cases name <;> decide +kernel

section
variable {name : Name} {context : Scope}

/-- A name of a member leads to its value. -/
theorem exists_lookup {members : List (String × Json)} {member : String}
    (h : member ∈ members.map Prod.fst) : ∃ v, members.lookup member = some v := by
  cases hlookup : members.lookup member with
  | some v => exact ⟨v, rfl⟩
  | none =>
    obtain ⟨p, hp, rfl⟩ := List.mem_map.1 h
    exact absurd (List.lookup_eq_none_iff.1 hlookup p hp) (by simp)

/-- An object has the members that it is written with. -/
theorem fits_plain {names : List String} {members : List (String × Json)} {j : Json}
    (hj : j = .object members) (hnames : names = members.map Prod.fst) :
    (Kind.plain names).Fits j := by
  subst hj
  have hmembers : ∀ n ∈ names, ∃ v, members.lookup n = some v := fun n hn =>
    exists_lookup (hnames ▸ hn)
  clear hnames
  rw [Kind.plain, Kind.Fits]
  induction names with
  | nil => rw [List.map_nil, MembersFit]; trivial
  | cons n names ih =>
    rw [List.forall_mem_cons] at hmembers
    simp only [List.map_cons, MembersFit, Kind.Fits, and_true]
    exact ⟨hmembers.1, ih hmembers.2⟩

/-- Items that fit make an array that fits. -/
theorem fits_items {α : Type} {kind : Kind} {item : α → Json} (l : List α)
    (h : ∀ a, kind.Fits (item a)) : (Kind.items kind).Fits (.array (l.map item)) := by
  rw [Kind.Fits]
  refine ⟨_, rfl, fun i hi => ?_⟩
  obtain ⟨a, -, rfl⟩ := List.mem_map.1 hi
  exact h a

/-- Any value is a leaf. -/
theorem fits_leaf (j : Json) : Kind.leaf.Fits j := by rw [Kind.Fits]; trivial

/-- An interface has the members that the template follows. -/
theorem fits_interface (t : TypeDefinition) : interfaceKind.Fits (Client.interface t) := by
  have hlines : (Kind.items (.plain ["description", "line"])).Fits (.array (t.fields.entries.map
      fun p => Client.interfaceLine p.1 p.2)) := fits_items _ fun p => fits_plain rfl rfl
  simp only [interfaceKind, Kind.Fits, MembersFit, and_true] at hlines ⊢
  exact ⟨⟨_, rfl⟩, ⟨_, rfl⟩, _, rfl, hlines⟩

/-- The contexts that a template is rendered with are of its kind. -/
theorem BuiltFor.scopeFits (h : BuiltFor name context) : ScopeFits context name.contextKind := by
  -- all values but the arrays are leaves
  cases h with
  | direct => simp [ScopeFits, Client.directContext, Name.contextKind, fits_leaf]
  | proxy c typesPath =>
    have hfunctions : (Kind.items functionKind).Fits (.array (c.endpoints.entries.map
        fun p => Client.proxyFunction p.1 p.2)) := fits_items _ fun p => fits_plain rfl rfl
    simpa [ScopeFits, Client.proxyContext, Name.contextKind, fits_leaf] using hfunctions
  | types c =>
    have henums : (Kind.items (.plain ["name", "union"])).Fits (.array ((Registry.all
        (α := EnumType)).map Client.enumAlias)) := fits_items _ fun e => fits_plain rfl rfl
    have hinterfaces := fits_items c.types fits_interface
    simpa [ScopeFits, Client.typesContext, Name.contextKind, fits_leaf] using ⟨henums, hinterfaces⟩
  | routes h clientPath bindings =>
    have hbindings : (Kind.items bindingKind).Fits (.array (bindings.map Route.Binding.toJson)) :=
      fits_items _ fun b => fits_plain rfl rfl
    cases name with
    | directClient | proxyClient | typesModule => simp at h
    | _ => simpa [ScopeFits, Route.context, Name.contextKind, fits_leaf] using hbindings

/-- A template finds every value that it names. -/
theorem BuiltFor.provided (h : BuiltFor name context) : PartsProvided [context] name.parts :=
  provided_of_check (.cons h.scopeFits .nil) (checkParts_contextKind name)

/-- So it is rendered. -/
theorem BuiltFor.exists_render (h : BuiltFor name context) : ∃ s, name.render context = .ok s := by
  obtain ⟨s, hs⟩ := exists_renderParts? h.provided
  exact ⟨s, by rw [Name.render, hs]⟩

end

end Template

/-! ## Reasons -/

/-- The reasons for which a command is refused. Names of environments and frameworks are compared in
lower case. -/
inductive Refused (g : Generator) (o : Options) : Command → ArgumentError → Prop
  /-- A client is asked for in an environment that is not known. -/
  | environment {name : String} (hname : o.environment = some name)
    (hunknown : ∀ e : Environment, Registry.name e ≠ Text.lower name) :
    Refused g o .client (.unknownEnvironment name)
  /-- A client is asked for in the environment of development, whose URL a text replaces that is not
  blank and is no URL. -/
  | developmentUrl {name text : String} {err : UrlError} (hname : o.environment = some name)
    (hdevelopment : Registry.name Environment.development = Text.lower name)
    (htext : g.developmentUrl = some text) (hblank : Text.trim text ≠ "")
    (hurl : Url.parse (Text.trim text) = .error err) :
    Refused g o .client (.developmentUrl (Text.trim text) err)
  /-- Route handlers are asked for without a framework. -/
  | noFramework (hname : o.framework = none) : Refused g o .routes .noFramework
  /-- Route handlers are asked for with a framework that is not known. -/
  | framework {name : String} (hname : o.framework = some name)
    (hunknown : ∀ f : Framework, Registry.name f ≠ Text.lower name) :
    Refused g o .routes (.unknownFramework name)

/-! ## What commands fail with -/

section
variable {g : Generator} {o : Options} {reason : ArgumentError}

/-- An environment is read unless it is not known. -/
theorem Options.readEnvironment_eq_error_iff : o.readEnvironment = .error reason ↔
    ∃ name, o.environment = some name ∧ (∀ e : Environment, Registry.name e ≠ Text.lower name) ∧
      reason = .unknownEnvironment name := by
  rw [Options.readEnvironment]
  cases o.environment with
  | none => simp
  | some name =>
    have hunknown : Environment.read? name = none ↔ _ := Registry.find?_eq_none_iff
    simp only [Option.some.injEq, exists_eq_left', ← hunknown]
    cases Environment.read? name with
    | none => simp [eq_comm]
    | some e => simp

/-- The environment of development is read under its name alone. -/
theorem Options.readEnvironment_eq_development_iff : o.readEnvironment = .ok .development ↔
    ∃ name, o.environment = some name ∧
      Registry.name Environment.development = Text.lower name := by
  rw [Options.readEnvironment]
  cases o.environment with
  | none => simp [default]
  | some name =>
    have hnamed : Environment.read? name = some .development ↔ _ := Registry.find?_eq_some_iff
    simp only [Option.some.injEq, exists_eq_left', ← hnamed]
    cases Environment.read? name with
    | none => simp
    | some e => simp

/-- A framework is read unless there is none or it is not known. -/
theorem Options.readFramework_eq_error_iff : o.readFramework = .error reason ↔
    (o.framework = none ∧ reason = .noFramework) ∨
    ∃ name, o.framework = some name ∧ (∀ f : Framework, Registry.name f ≠ Text.lower name) ∧
      reason = .unknownFramework name := by
  rw [Options.readFramework]
  cases o.framework with
  | none => simp [eq_comm]
  | some name =>
    have hunknown : Framework.read? name = none ↔ _ := Registry.find?_eq_none_iff
    simp only [Option.some.injEq, exists_eq_left', ← hunknown]
    cases Framework.read? name with
    | none => simp [eq_comm]
    | some f => simp

/-- An environment has a base URL unless it is that of development, with a text in place of its URL
that is not blank and is no URL. -/
theorem Environment.baseUrl_eq_error_iff {e : Environment} {replacement : Option String} :
    e.baseUrl replacement = .error reason ↔ e = .development ∧ ∃ text, replacement = some text ∧
      Text.trim text ≠ "" ∧ ∃ err, Url.parse (Text.trim text) = .error err ∧
        reason = .developmentUrl (Text.trim text) err := by
  cases e with
  | production | staging => simp [Environment.baseUrl]
  | development =>
    cases replacement with
    | none => simp [Environment.baseUrl]
    | some text =>
      by_cases hblank : Text.trim text = ""
      · simp [Environment.baseUrl, hblank]
      · cases hurl : Url.parse (Text.trim text) <;>
          simp [Environment.baseUrl, Option.filter, hblank, hurl, eq_comm (a := reason)]

/-- The files for Next.js are rendered. -/
theorem Route.exists_nextjsFiles (clientPath : String) (l : List (String × List Route.Binding)) :
    ∃ files, Route.nextjsFiles clientPath l = .ok files := by
  induction l with
  | nil => exact ⟨[], rfl⟩
  | cons p l ih =>
    have hbuilt : Template.BuiltFor .nextjsRoute (Route.context clientPath p.2) :=
      .routes (by decide) clientPath p.2
    obtain ⟨content, hcontent⟩ := hbuilt.exists_render
    obtain ⟨files, hfiles⟩ := ih
    exact ⟨(Route.nextjsFile p.1, content) :: files,
      by rw [Route.nextjsFiles, hcontent, hfiles]; rfl⟩

/-- Route handlers are rendered for every framework. -/
theorem Route.exists_handlers (c : Catalog) (framework : Framework) (clientPath : String) :
    ∃ a, Route.handlers c framework clientPath = .ok a := by
  have hrender (n : Template.Name)
      (h : n ∉ [Template.Name.directClient, .proxyClient, .typesModule]) :=
    (Template.BuiltFor.routes h clientPath (Route.bindings c)).exists_render
  cases framework with
  | nextjs =>
    obtain ⟨files, hfiles⟩ :=
      Route.exists_nextjsFiles clientPath (Route.groups (Route.bindings c)).entries
    exact ⟨.files (.ofList files), bind_eq_ok_iff.2 ⟨files, hfiles, rfl⟩⟩
  | express =>
    obtain ⟨s, hs⟩ := hrender .expressRouter (by decide)
    exact ⟨_, bind_eq_ok_iff.2 ⟨s, hs, rfl⟩⟩
  | fastify =>
    obtain ⟨s, hs⟩ := hrender .fastifyPlugin (by decide)
    exact ⟨_, bind_eq_ok_iff.2 ⟨s, hs, rfl⟩⟩
  | nestjs =>
    obtain ⟨controller, hcontroller⟩ := hrender .nestjsController (by decide)
    obtain ⟨service, hservice⟩ := hrender .nestjsService (by decide)
    obtain ⟨module, hmodule⟩ := hrender .nestjsModule (by decide)
    exact ⟨_, bind_eq_ok_iff.2 ⟨controller, hcontroller, bind_eq_ok_iff.2 ⟨service, hservice,
      bind_eq_ok_iff.2 ⟨module, hmodule, rfl⟩⟩⟩⟩

/-- A client is generated unless that is refused. -/
theorem Generator.client_eq_error_iff {err : Error} : g.client o = .error err ↔
    ∃ reason, err = .argument reason ∧ Refused g o .client reason := by
  constructor
  · intro h
    rcases bind_eq_error_iff.1 h with h | ⟨e, he, h⟩
    · obtain ⟨reason, hreason, rfl⟩ := mapError_eq_error_iff.1 h
      obtain ⟨name, hname, hunknown, rfl⟩ := Options.readEnvironment_eq_error_iff.1 hreason
      exact ⟨_, rfl, .environment hname hunknown⟩
    · rcases bind_eq_error_iff.1 h with h | ⟨url, -, h⟩
      · obtain ⟨reason, hreason, rfl⟩ := mapError_eq_error_iff.1 h
        obtain ⟨rfl, text, htext, hblank, err, hurl, rfl⟩ :=
          Environment.baseUrl_eq_error_iff.1 hreason
        obtain ⟨name, hname, hdevelopment⟩ :=
          Options.readEnvironment_eq_development_iff.1 (ok_of_mapError he)
        exact ⟨_, rfl, .developmentUrl hname hdevelopment htext hblank hurl⟩
      · obtain ⟨s, hs⟩ := (Template.BuiltFor.direct g.catalog e url o.typesPath).exists_render
        have hdirect : Client.direct g.catalog e url o.typesPath = .ok s := hs
        rw [hdirect] at h
        cases h
  · rintro ⟨reason, rfl, h⟩
    refine bind_eq_error_iff.2 ?_
    cases h with
    | environment hname hunknown =>
      have hreason := Options.readEnvironment_eq_error_iff.2 ⟨_, hname, hunknown, rfl⟩
      exact .inl (mapError_eq_error_iff.2 ⟨_, hreason, rfl⟩)
    | developmentUrl hname hdevelopment htext hblank hurl =>
      have he := Options.readEnvironment_eq_development_iff.2 ⟨_, hname, hdevelopment⟩
      have hreason := Environment.baseUrl_eq_error_iff.2 ⟨rfl, _, htext, hblank, _, hurl, rfl⟩
      refine .inr ⟨.development, by rw [he]; rfl, bind_eq_error_iff.2 (.inl ?_)⟩
      exact mapError_eq_error_iff.2 ⟨_, hreason, rfl⟩

/-- Route handlers are generated unless that is refused. -/
theorem Generator.routes_eq_error_iff {err : Error} : g.routes o = .error err ↔
    ∃ reason, err = .argument reason ∧ Refused g o .routes reason := by
  constructor
  · intro h
    rcases bind_eq_error_iff.1 h with h | ⟨framework, -, h⟩
    · obtain ⟨reason, hreason, rfl⟩ := mapError_eq_error_iff.1 h
      rcases Options.readFramework_eq_error_iff.1 hreason with ⟨hname, rfl⟩ |
        ⟨name, hname, hunknown, rfl⟩
      · exact ⟨_, rfl, .noFramework hname⟩
      · exact ⟨_, rfl, .framework hname hunknown⟩
    · obtain ⟨e, he, -⟩ := mapError_eq_error_iff.1 h
      obtain ⟨a, ha⟩ := Route.exists_handlers g.catalog framework
        (o.clientImportPath.getD framework.clientImportPath)
      rw [ha] at he
      cases he
  · rintro ⟨reason, rfl, h⟩
    refine bind_eq_error_iff.2 (.inl (mapError_eq_error_iff.2 ⟨reason, ?_, rfl⟩))
    cases h with
    | noFramework hname => exact Options.readFramework_eq_error_iff.2 (.inl ⟨hname, rfl⟩)
    | framework hname hunknown =>
      exact Options.readFramework_eq_error_iff.2 (.inr ⟨_, hname, hunknown, rfl⟩)

/-- The proxy client is always generated. -/
theorem Generator.proxyClient_ne_error (err : Error) : g.proxyClient o ≠ .error err := by
  obtain ⟨s, hs⟩ := (Template.BuiltFor.proxy g.catalog o.typesPath).exists_render
  have hproxy : Client.proxy g.catalog o.typesPath = .ok s := hs
  rw [Generator.proxyClient, hproxy]
  exact nofun

/-- So is the module of domain types. -/
theorem Generator.types_ne_error (err : Error) : g.types ≠ .error err := by
  obtain ⟨s, hs⟩ := (Template.BuiltFor.types g.catalog).exists_render
  have htypes : Client.types g.catalog = .ok s := hs
  rw [Generator.types, htypes]
  exact nofun

/-- A command fails for the reasons for which it is refused. -/
theorem Generator.run_eq_error_iff {c : Command} {err : Error} : g.run c o = .error err ↔
    ∃ reason, err = .argument reason ∧ Refused g o c reason := by
  have hnever (hc : c ∉ [Command.client, .routes]) (hrun : ∀ err, g.run c o ≠ .error err) :
      g.run c o = .error err ↔ ∃ reason, err = .argument reason ∧ Refused g o c reason := by
    refine ⟨fun h => absurd h (hrun err), ?_⟩
    rintro ⟨reason, -, h⟩
    cases h <;> simp at hc
  cases c with
  | client => exact map_eq_error_iff.trans Generator.client_eq_error_iff
  | routes => exact map_eq_error_iff.trans Generator.routes_eq_error_iff
  | proxyClient =>
    refine hnever (by decide) fun err h => ?_
    rw [Generator.run, map_eq_error_iff] at h
    exact Generator.proxyClient_ne_error err h
  | types =>
    refine hnever (by decide) fun err h => ?_
    rw [Generator.run, map_eq_error_iff] at h
    exact Generator.types_ne_error err h
  | listEndpoints => exact hnever (by decide) nofun

end

/-- A command fails with a reason for which it is refused, and with nothing else; where there is no
such reason it succeeds. In particular every template finds what it prints, chooses by, compares and
repeats over in the contexts that it is rendered with. -/
theorem run_fails_iff_refused (g : Generator) (c : Command) (o : Options) :
    (∀ err, g.run c o = .error err ↔ ∃ reason, err = .argument reason ∧ Refused g o c reason) ∧
    ((∃ output, g.run c o = .ok output) ↔ ∀ reason, ¬Refused g o c reason) ∧
    ∀ name context, Template.BuiltFor name context →
      Template.PartsProvided [context] name.parts ∧ ∃ s, name.render context = .ok s := by
  refine ⟨fun err => Generator.run_eq_error_iff, ?_,
    fun name context h => ⟨h.provided, h.exists_render⟩⟩
  rw [exists_eq_ok_iff]
  constructor
  · exact fun h reason hrefused => h _ (Generator.run_eq_error_iff.2 ⟨reason, rfl, hrefused⟩)
  · intro h err herr
    obtain ⟨reason, -, hrefused⟩ := Generator.run_eq_error_iff.1 herr
    exact h reason hrefused

end Scaffold
