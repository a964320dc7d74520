import Scaffold.Proofs.Client.Fetching
import Scaffold.Proofs.Route.Agreement

/-!
# The URLs of the route modules

For Next.js, the name of a file says under which URL its handlers are served. The proxy client calls
an operation under the route prefix and its path. The main statement is
`nextjs_serves_called_urls_iff`: every operation has a file of its own for that URL exactly if no
path begins with two slashes. Files are for relative paths, which lack all slashes in front, so
operations whose paths differ in these slashes alone share a file; their handlers may even be
exported under the same method: see `slashes_share_module`.
-/

namespace Scaffold.Route

open TypeScript (relativePath)

/-! ## Served and called -/

/-- The URL under which the proxy client calls an operation. -/
def calledUrl (e : Endpoint) : String := Client.routePrefix ++ e.path

/-- The file whose handlers are served under a URL. -/
def servingFile (url : String) : String := "app" ++ url ++ "/route.ts"

/-- The methods under which handlers are exported. -/
def exports (hs : List (List Step)) : List HttpMethod := hs.flatMap (·.filterMap Step.registered?)

/-- The handlers of the operations that have a relative path. -/
def handlersAt (c : Catalog) (path : String) : List (List Step) :=
  (c.endpoints.entries.filter fun p => relativePath p.2.path = path).map fun p =>
    handlerSteps p.1 p.2

/-- There is a file for each relative path of a catalog, with the handlers of that path in order. -/
structure ServesRelativePaths (c : Catalog) (a : Artifact) : Prop where
  file : ∀ p ∈ c.endpoints.entries, nextjsFile (relativePath p.2.path) ∈ a.names
  content : ∀ file text, (file, text) ∈ a.entries → ∃ p ∈ c.endpoints.entries,
    file = nextjsFile (relativePath p.2.path) ∧
      Dialect.nextjs.readText? text = some (handlersAt c (relativePath p.2.path))
  distinct : a.names.Nodup

/-- Every operation has a file of its own, for the URL under which it is called. -/
structure ServesCalledUrls (c : Catalog) (a : Artifact) : Prop where
  own : ∀ name e, (name, e) ∈ c.endpoints.entries → ∃ text,
    (servingFile (calledUrl e), text) ∈ a.entries ∧
      Dialect.nextjs.readText? text = some [handlerSteps name e]
  /-- No other file has a handler that calls the operation. -/
  only : ∀ name e, (name, e) ∈ c.endpoints.entries → ∀ file text hs, (file, text) ∈ a.entries →
    Dialect.nextjs.readText? text = some hs → (∃ steps ∈ hs, steps.any (Step.calls name) = true) →
      file = servingFile (calledUrl e)
  size : a.size = c.size
  /-- No file exports a method twice. -/
  exports : ∀ file text, (file, text) ∈ a.entries → ∃ hs, Dialect.nextjs.readText? text = some hs ∧
    (exports hs).Nodup

/-- No path of a catalog begins with two slashes. -/
def SingleSlashes (c : Catalog) : Prop := ∀ p ∈ c.endpoints.entries, ¬['/', '/'] <+: p.2.path.toList

instance (c : Catalog) : Decidable (SingleSlashes c) :=
  inferInstanceAs (Decidable (∀ p ∈ c.endpoints.entries, _))

/-! ## Relative paths -/

section
variable {path other relative : String}

/-- A relative path does not begin with a slash. -/
theorem head?_relativePath : (relativePath path).toList.head? ≠ some '/' := by
  rw [relativePath, String.toList_ofList]
  intro h
  have hnot := List.head?_dropWhile_not (· == '/') path.toList
  rw [h] at hnot
  exact absurd hnot (by decide)

/-- A relative path behind a slash does not begin with two slashes. -/
theorem not_twoSlashes_of_eq (h : path = "/" ++ relativePath other) :
    ¬['/', '/'] <+: path.toList := by
  rw [h, String.toList_append, show "/".toList = ['/'] from rfl, List.singleton_append,
    List.cons_prefix_cons, and_iff_right rfl]
  rintro ⟨cs, hcs⟩
  exact head?_relativePath (by rw [← hcs]; rfl)

/-- A path that begins with one slash is its relative path behind it. -/
theorem eq_slash_relativePath (habsolute : path.toList.head? = some '/')
    (h : ¬['/', '/'] <+: path.toList) : path = "/" ++ relativePath path := by
  obtain ⟨cs, hcs⟩ := List.head?_eq_some_iff.1 habsolute
  have hrest : cs.dropWhile (· == '/') = cs := by
    cases cs with
    | nil => rfl
    | cons c cs =>
      have hc : c ≠ '/' := by
        rintro rfl
        exact h ⟨cs, hcs.symm⟩
      rw [List.dropWhile_cons_of_neg (by simpa using hc)]
  have hrelative : (relativePath path).toList = cs := by
    rw [relativePath, String.toList_ofList, hcs, List.dropWhile_cons_of_pos rfl, hrest]
  rw [← String.toList_inj, String.toList_append, hrelative, hcs]
  rfl

/-- The file for a relative path serves a URL exactly if the URL has the relative path
behind a slash. -/
theorem servingFile_eq_nextjsFile_iff :
    servingFile (Client.routePrefix ++ path) = nextjsFile relative ↔ path = "/" ++ relative := by
  rw [servingFile, nextjsFile]
  simp only [String.append_assoc, String.append_right_inj]
  rw [← String.append_assoc, String.append_left_inj]

end

/-! ## Files -/

section
variable {c : Catalog} {a : Artifact} {name : String} {e : Endpoint}

/-- A handler is exported under the method of its operation. -/
theorem registered_handlerSteps (name : String) (e : Endpoint) :
    (handlerSteps name e).filterMap Step.registered? = [e.method] := by
  rw [handlerSteps]
  cases e.payload <;> rfl

/-- The bindings of a relative path take the steps of its handlers. -/
theorem map_steps_filter (c : Catalog) (path : String) :
    ((bindings c).filter fun b => b.relativePath = path).map Binding.steps = handlersAt c path := by
  rw [bindings, List.filter_map, List.map_map, handlersAt]
  exact List.map_congr_left fun p _ => steps_of p.1 p.2

/-- The route modules serve the relative paths. -/
theorem servesRelativePaths_nextjs (hc : c.Accepted) {clientPath : String} (hentries : a.entries =
    (groups (bindings c)).entries.map fun p =>
    (nextjsFile p.1, Layout.nextjs.text clientPath p.2)) : ServesRelativePaths c a := by
  have hnames := names_of_entries hentries
  refine ⟨fun p hp => ?_, fun file text hfile => ?_, hnames ▸ nodup_nextjsFiles (bindings c)⟩
  · obtain ⟨q, hq, hpath⟩ := List.mem_map.1 (mem_names_groups.2 ⟨p, hp, rfl⟩)
    exact hnames ▸ List.mem_map.2 ⟨q, hq, congrArg nextjsFile hpath⟩
  · rw [hentries] at hfile
    obtain ⟨q, hq, heq⟩ := List.mem_map.1 hfile
    cases heq
    obtain ⟨p, hp, hpath⟩ := mem_names_groups.1 (List.mem_map_of_mem hq)
    refine ⟨p, hp, congrArg nextjsFile hpath.symm, ?_⟩
    rw [readText?_group hc clientPath hq, eq_filter_of_mem_groups hq, map_steps_filter, hpath]

/-- Route modules with one text are one module. -/
theorem ServesRelativePaths.eq_of_text (h : ServesRelativePaths c a) {file other text : String}
    (hfile : (file, text) ∈ a.entries) (hother : (other, text) ∈ a.entries) : file = other := by
  obtain ⟨p, hp, hname, hread⟩ := h.content file text hfile
  obtain ⟨q, -, hname', hread'⟩ := h.content other text hother
  have hhandlers : handlersAt c (relativePath p.2.path) = handlersAt c (relativePath q.2.path) :=
    Option.some.inj (hread.symm.trans hread')
  have hsteps : handlerSteps p.1 p.2 ∈ handlersAt c (relativePath p.2.path) :=
    List.mem_map.2 ⟨p, List.mem_filter.2 ⟨hp, decide_eq_true rfl⟩, rfl⟩
  rw [hhandlers] at hsteps
  obtain ⟨r, hr, hcalls⟩ := List.mem_map.1 hsteps
  obtain ⟨hr, hpath⟩ := List.mem_filter.1 hr
  -- the handler calls an operation of both paths
  have hcalled : r.1 = p.1 := eq_of_handlerSteps hcalls
  have heq : r = p := Prod.ext hcalled (Table.eq_of_mem_entries (hcalled ▸ hr) hp)
  rw [hname, hname', ← of_decide_eq_true hpath, heq]

/-- What a command generates for Next.js are route modules for the relative paths. -/
theorem servesRelativePaths_of_run {g : Generator} (hc : g.catalog.Accepted) {command : Command}
    {o : Options} (h : g.run command o = .ok (.artifact a)) (hnextjs : ForNextjs command o) :
    ServesRelativePaths g.catalog a := by
  obtain ⟨rfl, hread⟩ := hnextjs
  obtain ⟨framework, clientPath, hframework, h⟩ := handlers_of_routes (ok_of_map_artifact h)
  rw [hread] at hframework
  cases hframework
  obtain ⟨a', ha', hentries⟩ := exists_handlers_nextjs g.catalog clientPath
  cases h.symm.trans ha'
  exact servesRelativePaths_nextjs hc hentries

/-- Where no path begins with two slashes, a relative path is behind a slash, -/
theorem SingleSlashes.eq_slash (hs : SingleSlashes c) (hc : c.Accepted) {p : String × Endpoint}
    (hp : p ∈ c.endpoints.entries) : p.2.path = "/" ++ relativePath p.2.path :=
  eq_slash_relativePath (hc.absolute hp) (hs p hp)

/-- so operations have distinct relative paths, -/
theorem SingleSlashes.eq_of_relativePath (hs : SingleSlashes c) (hc : c.Accepted)
    {p q : String × Endpoint} (hp : p ∈ c.endpoints.entries) (hq : q ∈ c.endpoints.entries)
    (h : relativePath p.2.path = relativePath q.2.path) : p = q := by
  have hpath : p.2.path = q.2.path := by rw [hs.eq_slash hc hp, hs.eq_slash hc hq, h]
  exact List.inj_on_of_nodup_map hc.distinct_paths hp hq hpath

/-- and each of them has one handler. -/
theorem SingleSlashes.handlersAt_eq (hs : SingleSlashes c) (hc : c.Accepted)
    (he : (name, e) ∈ c.endpoints.entries) :
    handlersAt c (relativePath e.path) = [handlerSteps name e] := by
  have hname : c.endpoints.entries.filter (fun p => relativePath p.2.path = relativePath e.path) =
      c.endpoints.entries.filter fun p => p.1 == name := by
    refine List.filter_congr fun p hp => ?_
    rw [Bool.eq_iff_iff, decide_eq_true_iff, beq_iff_eq]
    constructor
    · exact fun h => congrArg Prod.fst (hs.eq_of_relativePath hc hp he h)
    · rintro rfl
      rw [Table.eq_of_mem_entries hp he]
  rw [handlersAt, hname, Table.filter_name c.endpoints.distinct he, List.map_singleton]

/-- There are then as many files as operations. -/
theorem ServesRelativePaths.size_eq (h : ServesRelativePaths c a) (hc : c.Accepted)
    (hs : SingleSlashes c) : a.size = c.size := by
  have hnodup : (c.endpoints.entries.map fun p => nextjsFile (relativePath p.2.path)).Nodup :=
    List.Nodup.map_on
      (fun p hp q hq heq => hs.eq_of_relativePath hc hp hq (nextjsFile_injective heq))
      (List.Nodup.of_map _ c.endpoints.distinct)
  -- both lists of names are free of repetitions, so it is enough that they have the same members
  have hperm :
      a.names.Perm (c.endpoints.entries.map fun p => nextjsFile (relativePath p.2.path)) := by
    refine (List.perm_ext_iff_of_nodup h.distinct hnodup).2 fun file =>
      ⟨fun hmem => ?_, fun hmem => ?_⟩
    · obtain ⟨q, hq, rfl⟩ := List.mem_map.1 hmem
      obtain ⟨p, hp, hname, -⟩ := h.content q.1 q.2 hq
      exact List.mem_map.2 ⟨p, hp, hname.symm⟩
    · obtain ⟨p, hp, rfl⟩ := List.mem_map.1 hmem
      exact h.file p hp
  have hlength := hperm.length_eq
  rwa [Artifact.names, List.length_map, List.length_map] at hlength

/-- If no path begins with two slashes, every operation is served under the URL under which it
is called. -/
theorem ServesRelativePaths.servesCalledUrls (h : ServesRelativePaths c a) (hc : c.Accepted)
    (hs : SingleSlashes c) : ServesCalledUrls c a := by
  have hfile {p : String × Endpoint} (hp : p ∈ c.endpoints.entries) :
      nextjsFile (relativePath p.2.path) = servingFile (calledUrl p.2) :=
    (servingFile_eq_nextjsFile_iff.2 (hs.eq_slash hc hp)).symm
  -- a file has the one handler of the operation that it is for
  have hcontent : ∀ file text, (file, text) ∈ a.entries → ∃ p ∈ c.endpoints.entries,
      file = servingFile (calledUrl p.2) ∧
        Dialect.nextjs.readText? text = some [handlerSteps p.1 p.2] := by
    intro file text hmem
    obtain ⟨p, hp, hname, hread⟩ := h.content file text hmem
    exact ⟨p, hp, hname.trans (hfile hp), hread.trans (congrArg some (hs.handlersAt_eq hc hp))⟩
  refine ⟨fun name e he => ?_, fun name e he file text hs' hmem hread hcalls => ?_, h.size_eq hc hs,
    fun file text hmem => ?_⟩
  · obtain ⟨⟨file, text⟩, hmem, hname⟩ := List.mem_map.1 (h.file _ he)
    have hname : file = nextjsFile (relativePath e.path) := hname
    obtain ⟨p, hp, hfile', hread⟩ := h.content file text hmem
    have hsame : relativePath p.2.path = relativePath e.path :=
      nextjsFile_injective (hfile'.symm.trans hname)
    rw [hsame, hs.handlersAt_eq hc he] at hread
    exact ⟨text, hfile he ▸ hname ▸ hmem, hread⟩
  · obtain ⟨p, hp, hname, hread'⟩ := hcontent file text hmem
    cases hread.symm.trans hread'
    obtain ⟨steps, hsteps, hcalls⟩ := hcalls
    rw [List.mem_singleton.1 hsteps, any_calls_handlerSteps, beq_iff_eq] at hcalls
    obtain ⟨other, e'⟩ := p
    cases hcalls
    rw [hname, Table.eq_of_mem_entries hp he]
  · obtain ⟨p, hp, -, hread⟩ := hcontent file text hmem
    refine ⟨_, hread, ?_⟩
    rw [exports, List.flatMap_singleton, registered_handlerSteps]
    exact List.nodup_singleton _

/-- If every operation is served under the URL under which it is called, no path begins with
two slashes. -/
theorem ServesRelativePaths.singleSlashes (h : ServesRelativePaths c a)
    (hserves : ServesCalledUrls c a) : SingleSlashes c := by
  intro p hp
  obtain ⟨text, hmem, -⟩ := hserves.own p.1 p.2 hp
  obtain ⟨q, -, hname, -⟩ := h.content _ _ hmem
  exact not_twoSlashes_of_eq (servingFile_eq_nextjsFile_iff.1 hname)

end

/-! ## All route modules -/

/-- The route modules of an accepted catalog serve its relative paths. So every operation has a
module of its own, for the URL under which the proxy client calls it, exactly if no path begins with
two slashes. -/
theorem nextjs_serves_called_urls_iff {c : Catalog} (hc : c.Accepted)
    (clientPath typesPath : String) :
    ∃ a, handlers c .nextjs clientPath = .ok a ∧ ServesRelativePaths c a ∧
      (ServesCalledUrls c a ↔ SingleSlashes c) ∧
      ∀ name e, (name, e) ∈ c.endpoints.entries → Client.Fetches c typesPath name e := by
  obtain ⟨a, ha, hentries⟩ := exists_handlers_nextjs c clientPath
  have hserves := servesRelativePaths_nextjs hc hentries
  exact ⟨a, ha, hserves, ⟨hserves.singleSlashes, hserves.servesCalledUrls hc⟩,
    fun _ _ he => Client.proxy_fetches he typesPath⟩

/-- An operation that lists, under a path. -/
def listing (path : String) : Endpoint where
  path := path
  method := .get
  description := ""
  payload := .none
  response := ⟨.scalar .string, ""⟩
  requiredHeaders := [apiKeyHeader]
  localizeTimes := false

/-- The draft of the operation. -/
def listingDraft (path : String) : EndpointDraft where
  path := path
  method := .get
  response := ⟨.scalar .string, ""⟩
  requiredHeaders := [apiKeyHeader]

/-- The draft of a catalog with two such operations. -/
def listingsDraft (path : String) : CatalogDraft :=
  { Client.probeCatalogDraft path with
    endpoints := ⟨[("listSlots", listingDraft "/slots"), ("listAll", listingDraft path)], by simp⟩ }

/-- The catalog with these operations. -/
def listings (path : String) : Catalog :=
  ⟨⟨[("listSlots", listing "/slots"), ("listAll", listing path)], by simp⟩, Catalog.Builtin.types⟩

/-- Two paths, of which one goes on from the other. -/
theorem listings_have_modules :
    (listings "/slots/all").Accepted ∧ SingleSlashes (listings "/slots/all") ∧
    ∃ a, handlers (listings "/slots/all") .nextjs "@/lib/scheduling-client" = .ok a ∧
      ServesCalledUrls (listings "/slots/all") a := by
  have haccepted : (listings "/slots/all").Accepted := ⟨listingsDraft "/slots/all", rfl⟩
  have hslashes : SingleSlashes (listings "/slots/all") := by decide
  obtain ⟨a, ha, -, hserves, -⟩ :=
    nextjs_serves_called_urls_iff haccepted "@/lib/scheduling-client" "./types"
  exact ⟨haccepted, hslashes, a, ha, hserves.2 hslashes⟩

/-- Paths that differ in a slash at the beginning share a module, which exports a method twice. -/
theorem slashes_share_module : (listings "//slots").Accepted ∧
    ∃ a text, handlers (listings "//slots") .nextjs "@/lib/scheduling-client" = .ok a ∧
      a.entries = [("app/api/scheduling/slots/route.ts", text)] ∧
      Dialect.nextjs.readText? text =
        some [handlerSteps "listSlots" (listing "/slots"),
          handlerSteps "listAll" (listing "//slots")] ∧
      exports [handlerSteps "listSlots" (listing "/slots"),
        handlerSteps "listAll" (listing "//slots")] =
        [.get, .get] ∧
      ¬ServesCalledUrls (listings "//slots") a := by
  have haccepted : (listings "//slots").Accepted := ⟨listingsDraft "//slots", rfl⟩
  obtain ⟨a, ha, hentries⟩ := exists_handlers_nextjs (listings "//slots") "@/lib/scheduling-client"
  have hserves := servesRelativePaths_nextjs haccepted hentries
  have hslashes : ¬SingleSlashes (listings "//slots") := by decide
  have hgroups : (groups (bindings (listings "//slots"))).entries =
      [("slots", bindings (listings "//slots"))] := by rfl
  have hfile : nextjsFile "slots" = "app/api/scheduling/slots/route.ts" := by rfl
  rw [hgroups, List.map_singleton, hfile] at hentries
  refine ⟨haccepted, a, _, ha, hentries, ?_, ?_, fun h => hslashes (hserves.singleSlashes h)⟩
  · exact readIn_nextjs.readText?_text "@/lib/scheduling-client"
      (readable_of_mem_bindings haccepted)
  · simp only [exports, List.flatMap_cons, List.flatMap_nil, registered_handlerSteps]
    rfl

end Scaffold.Route
