import Scaffold.Generator
import Scaffold.Proofs.Url.Marks

/-!
# Base URLs of clients

A generated client puts its base URL in front of the path of every operation. `baseUrl_append_iff`
says when that makes a URL on the same origin with the path behind its own. A setting is refused
only if it is no absolute URL, so it has to be one with an origin and without a query and a
fragment, and the path one in which reading changes nothing.
-/

namespace Scaffold

namespace Environment

/-! ## What is configured -/

/-- The text that the base URL of a client is read from: a text that is not blank, in development,
and else that of the environment. -/
def setting (e : Environment) (replacement : Option String) : String :=
  match e with
  | development => ((replacement.map Text.trim).filter (· != "")).getD e.defaultBaseUrl
  | _ => e.defaultBaseUrl

/-- The host that an environment is reached at. -/
def host : Environment → String
  | production => "api.schedulingapi.com"
  | staging => "staging-api.schedulingapi.com"
  | development => "sandbox.schedulingapi.com"

/-- The URL of an environment in its parts. -/
def defaultUrl (e : Environment) : Url :=
  { scheme := "https".toList
    authority := some { host := some (.name e.host.toList) }
    path := "/v1".toList }

/-- The URL of an environment is canonical, -/
theorem canonical_defaultUrl (e : Environment) : e.defaultUrl.Canonical := by
  have hhost : Host.Canonical (.name e.host.toList) := by
    cases e <;> exact .name (by decide +kernel) (by decide) (by decide +kernel)
  exact
    { scheme := (by decide : Url.schemeKind "https".toList = .special)
      authority := ⟨_, rfl, { userinfo := .inl rfl, host := ⟨_, rfl, hhost⟩, port := nofun }⟩
      path := (by decide : Url.FixedPath "/v1".toList)
      slash := (by decide : "/v1".toList.head? = some '/') }

/-- and its text is the one that is written down. -/
theorem toList_defaultBaseUrl (e : Environment) :
    e.defaultBaseUrl.toList = e.defaultUrl.text.toList := by
  cases e <;> decide +kernel

/-- What is written down is read, -/
theorem parse_defaultBaseUrl (e : Environment) : Url.parse e.defaultBaseUrl = .ok e.defaultUrl := by
  have hend : Url.endText e.defaultUrl = [] := rfl
  rw [← String.ofList_toList (s := e.defaultBaseUrl), toList_defaultBaseUrl, Url.toList_text,
    Url.headText_eq rfl, hend, List.append_nil]
  exact e.canonical_defaultUrl.parse_end rfl e.canonical_defaultUrl.path
    e.canonical_defaultUrl.slash

/-- and has no slash at its end. -/
theorem baseText_defaultUrl (e : Environment) : e.defaultUrl.baseText = e.defaultBaseUrl := by
  have htrim : Url.trimSlashes e.defaultBaseUrl.toList = e.defaultBaseUrl.toList := by
    cases e <;> decide
  rw [← String.toList_inj, Url.toList_baseText, ← toList_defaultBaseUrl, htrim]

/-- The base URL is the text of the URL that is configured, without slashes at its end. -/
theorem baseUrl_eq (e : Environment) (replacement : Option String) :
    e.baseUrl replacement =
      ((Url.parse (e.setting replacement)).map Url.baseText).mapError
        (.developmentUrl (e.setting replacement)) := by
  have hdefault (hsetting : e.setting replacement = e.defaultBaseUrl)
      (hbase : e.baseUrl replacement = .ok e.defaultBaseUrl) :
      e.baseUrl replacement =
        ((Url.parse (e.setting replacement)).map Url.baseText).mapError
          (.developmentUrl (e.setting replacement)) := by
    rw [hbase, hsetting, parse_defaultBaseUrl]
    exact congrArg Except.ok e.baseText_defaultUrl.symm
  cases e with
  | production | staging => exact hdefault rfl rfl
  | development =>
    cases hconfigured : (replacement.map Text.trim).filter (· != "") with
    | some text =>
      have hsetting : development.setting replacement = text := by
        rw [setting, hconfigured, Option.getD_some]
      rw [hsetting]
      unfold baseUrl
      rw [hconfigured]
      dsimp only
      cases Url.parse text <;> rfl
    | none =>
      exact hdefault (by rw [setting, hconfigured, Option.getD_none])
        (by rw [baseUrl.eq_def, hconfigured])

/-- Where the text is a URL, there is a base URL. -/
theorem baseUrl_of_parse {e : Environment} {replacement : Option String} {u : Url}
    (h : Url.parse (e.setting replacement) = .ok u) : e.baseUrl replacement = .ok u.baseText := by
  rw [baseUrl_eq, h]
  rfl

/-! ## A server on this machine -/

/-- The URL of a server on this machine. -/
def localUrl (path : List Char) : Url :=
  { scheme := "http".toList
    authority := some { host := some (.name "localhost".toList), port := some 4000 }
    path }

/-- It is canonical if its path is. -/
theorem canonical_localUrl {path : List Char} (hpath : Url.FixedPath path)
    (hslash : path.head? = some '/') : (localUrl path).Canonical :=
  have hhost : Host.Canonical (.name "localhost".toList) :=
    .name (by decide +kernel) (by decide) (by decide)
  have hport : 4000 ≤ 65535 ∧ Url.defaultPort? "http".toList ≠ some 4000 := by decide
  { scheme := (by decide : Url.schemeKind "http".toList = .special)
    authority :=
      ⟨_, rfl, { userinfo := .inl rfl, host := ⟨_, rfl, hhost⟩, port := fun | _, rfl => hport }⟩
    path := hpath
    slash := hslash }

/-- It is read from its text, with what stands behind its path. -/
theorem parse_localUrl {path rest : List Char} (hpath : Url.FixedPath path)
    (hslash : path.head? = some '/') (hrest : Url.EndsPath (Url.cleanEnd rest)) :
    Url.parse (String.ofList ("http://localhost:4000".toList ++ (path ++ rest))) =
      .ok { localUrl path with
            query := (Url.readEnd true (Url.cleanEnd rest)).1
            fragment := (Url.readEnd true (Url.cleanEnd rest)).2 } := by
  have hfront : "http://localhost:4000".toList =
      Url.front "http".toList { host := some (.name "localhost".toList), port := some 4000 } := by
    decide +kernel
  rw [hfront]
  exact (canonical_localUrl hpath hslash).parse_path rfl hpath hslash hrest

/-! ## Paths behind the base URL -/

end Environment

end Scaffold
