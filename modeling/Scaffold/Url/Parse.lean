import Scaffold.Url.Basic
import Scaffold.Url.Percent

/-!
# Reading URLs

`Url.parse` reads an absolute URL as browsers do: blanks at the ends, tabs and line breaks are
dropped, backslashes count as slashes where the scheme wants a host, and what has to be encoded
is.
-/

namespace Scaffold.Url

/-- The control characters and the blank, which are dropped at the ends. -/
def isControlOrBlank (c : Char) : Bool := c.toNat ≤ 0x20

/-- A text without the characters that are dropped. -/
def clean (cs : List Char) : List Char :=
  (((cs.dropWhile isControlOrBlank).reverse.dropWhile isControlOrBlank).reverse).filter fun c =>
    !(c == '\t' || c == '\n' || c == '\r')

/-- The characters of a scheme behind its first letter. -/
def isSchemeChar (c : Char) : Bool := c.isAlphanum || c == '+' || c == '-' || c == '.'

/-- Reads a scheme and the colon behind it. -/
def readScheme? (cs : List Char) : Option (List Char × List Char) :=
  let scheme := cs.takeWhile isSchemeChar
  match cs.drop scheme.length with
  | ':' :: rest => if cs.head?.any Char.isAlpha then some (scheme.map Char.toLower, rest) else none
  | _ => none

/-- Whether a character is a slash, or a backslash that counts as one. -/
def isSlash (special : Bool) (c : Char) : Bool := c == '/' || (special && c == '\\')

/-- Whether an authority ends at a character. -/
def endsAuthority (special : Bool) (c : Char) : Bool := isSlash special c || c == '?' || c == '#'

/-! ## The authority -/

/-- The text of a user name and a password. -/
def writeUserinfo (cs : List Char) : List Char :=
  let user := encode userinfoSet (cs.takeWhile (· != ':'))
  let password := encode userinfoSet ((cs.dropWhile (· != ':')).drop 1)
  if user.isEmpty && password.isEmpty then []
  else if password.isEmpty then user ++ ['@']
  else user ++ [':'] ++ password ++ ['@']

/-- Reads what stands in front of the last `@` of an authority. -/
def readUserinfo (special : Bool) (cs : List Char) :
    Except UrlError (List Char × List Char) :=
  let authority := cs.takeWhile fun c => !endsAuthority special c
  if !authority.contains '@' then .ok ([], cs)
  else
    let behind := (authority.reverse.takeWhile (· != '@')).reverse
    let info := authority.take (authority.length - behind.length - 1)
    let rest := cs.drop (info.length + 1)
    if info.isEmpty && rest.head?.any (endsAuthority special) then .error .emptyHost
    else .ok (writeUserinfo info, rest)

/-- The characters in front of the end of a host; `inside` says whether a bracket is open. -/
def hostSpan (special : Bool) : (inside : Bool) → List Char → List Char
  | _, [] => []
  | inside, c :: rest =>
    if (c == ':' && !inside) || endsAuthority special c then []
    else c :: hostSpan special (if c == '[' then true else if c == ']' then false else inside) rest

/-- Reads an address in brackets behind the opening one. -/
def readBrackets (cs : List Char) : Except UrlError Host :=
  if cs.getLast? != some ']' then .error .invalidIpv6
  else
    match Host.readIpv6? cs.dropLast with
    | some pieces => .ok (.ipv6 pieces)
    | none => .error .invalidIpv6

/-- Reads the host of a URL whose scheme wants one. -/
def readHost (cs : List Char) : Except UrlError Host :=
  match cs with
  | '[' :: rest => readBrackets rest
  | _ =>
    match (decode? cs).bind Host.Name.ofText? with
    | none => .error .invalidDomain
    | some [] => .error .emptyHost
    | some name =>
      if Host.endsInNumber name then
        match Host.readIpv4? name with
        | some n => .ok (.ipv4 n)
        | none => .error .invalidIpv4
      else .ok (.name name)

/-- The characters that a host of another scheme must not have. -/
def isForbiddenOpaque (c : Char) : Bool := "\x00\t\n\r #/:<>?@[\\]^|".toList.contains c

/-- Reads the host of a URL of another scheme. -/
def readOpaqueHost (cs : List Char) : Except UrlError Host :=
  match cs with
  | '[' :: rest => readBrackets rest
  | _ =>
    if cs.any isForbiddenOpaque then .error .invalidDomainCharacter
    else .ok (.name (encode [] cs))

/-- Reads a port behind its colon. -/
def readPort (scheme : List Char) (cs : List Char) :
    Except UrlError (Option Nat × List Char) :=
  let digits := cs.takeWhile Char.isDigit
  let rest := cs.drop digits.length
  let port := digits.foldl (fun n c => 10 * n + (c.toNat - 0x30)) 0
  if 65535 < port || rest.head?.any (fun c => !endsAuthority true c) then .error .invalidPort
  else if digits.isEmpty || defaultPort? scheme == some port then .ok (none, rest)
  else .ok (some port, rest)

/-- Reads an authority behind its slashes. -/
def readAuthority (scheme : List Char) (cs : List Char) :
    Except UrlError (Authority × List Char) := do
  let special := (schemeKind scheme).isSpecial
  let (userinfo, cs) ← readUserinfo special cs
  let span := hostSpan special false cs
  let rest := cs.drop span.length
  if span.isEmpty && (special || rest.head? == some ':') then throw .emptyHost
  let host ← if special then readHost span else readOpaqueHost span
  let (port, rest) ←
    match rest with
    | ':' :: digits => readPort scheme digits
    | _ => pure (none, rest)
  if span.isEmpty && !userinfo.isEmpty then throw .emptyHost
  return (⟨userinfo, if span.isEmpty then none else some host, port⟩, rest)

/-! ## The path -/

/-- Whether a segment of a path leads to the directory itself. -/
def isSingleDot (cs : List Char) : Bool :=
  cs == ['.'] || cs.map Char.toLower == "%2e".toList

/-- Whether a segment of a path leads to the directory above. -/
def isDoubleDot (cs : List Char) : Bool :=
  ["..", "%2e%2e", ".%2e", "%2e."].any fun s => cs.map Char.toLower == s.toList

/-- Whether a segment is a letter and a colon or a bar, by which some systems name their drives. -/
def isDriveLike : List Char → Bool
  | [a, c] => a.isAlpha && (c == ':' || c == '|')
  | _ => false

/-- Whether no step leads up from a segment: it names a drive, behind which there may be a
backslash. -/
def isTop : List Char → Bool
  | a :: c :: '\\' :: _ => isDriveLike [a, c]
  | cs => isDriveLike cs

/-- The segments, in reverse, without the last one, unless no step leads up from it. -/
def goUp : List (List Char) → List (List Char)
  | [] => []
  | s :: rest => if isTop s then s :: rest else rest

/-- Takes a step along a path; `last` says whether no further segment follows. -/
def step (file : Bool) (done : List (List Char)) (segment : List Char) (last : Bool) :
    List (List Char) :=
  if isDoubleDot segment then
    if last then [] :: goUp done else goUp done
  else if isSingleDot segment then
    if last then [] :: done else done
  else if file && done.isEmpty && isDriveLike segment then [segment.take 1 ++ [':']]
  else segment :: done

/-- Walks the segments of a path. -/
def walk (file : Bool) : (done : List (List Char)) → List (List Char) → List (List Char)
  | done, [] => done
  | done, [s] => step file done s true
  | done, s :: rest => walk file (step file done s false) rest

/-- The segments of a path between its slashes. -/
def segments (special : Bool) : List Char → List (List Char)
  | [] => [[]]
  | c :: rest =>
    if isSlash special c then [] :: segments special rest
    else
      match segments special rest with
      | [] => [[c]]
      | s :: more => (c :: s) :: more

/-- The text of the path whose segments are given without the slash in front. -/
def writePath (kind : SchemeKind) (cs : List Char) : List Char :=
  let file := kind == .file
  let done := walk file [] ((segments kind.isSpecial cs).map (encode pathSet))
  let path := '/' :: ['/'].intercalate done.reverse
  if file then '/' :: path.dropWhile (· == '/') else path

/-- Reads the path behind an authority. -/
def readPath (kind : SchemeKind) (cs : List Char) : List Char × List Char :=
  let span := cs.takeWhile fun c => !(c == '?' || c == '#')
  let rest := cs.drop span.length
  match span with
  | [] => (if kind.isSpecial then writePath kind [] else [], rest)
  | c :: more =>
    if isSlash kind.isSpecial c then (writePath kind more, rest) else (writePath kind span, rest)

/-- Reads the query and the fragment. -/
def readEnd (special : Bool) (cs : List Char) : Option (List Char) × Option (List Char) :=
  let span := cs.takeWhile (· != '#')
  let query := match span with
    | '?' :: q => some (encode (querySet special) q)
    | _ => none
  let fragment := match cs.drop span.length with
    | '#' :: f => some (encode fragmentSet f)
    | _ => none
  (query, fragment)

/-! ## The whole -/

/-- The URL with the path and what follows it read from a text. -/
def finish (scheme : List Char) (authority : Option Authority) (cs : List Char) : Url :=
  let kind := schemeKind scheme
  let (path, rest) := readPath kind cs
  let (query, fragment) := readEnd kind.isSpecial rest
  { scheme, authority, path, query, fragment }

/-- Reads a URL of a file behind its scheme. The own machine need not be named, and the name of a
drive is no host. -/
def parseFile (cs : List Char) : Except UrlError Url :=
  let scheme := "file".toList
  let here (cs : List Char) : Except UrlError Url := .ok (finish scheme (some {}) cs)
  match cs with
  | a :: b :: rest =>
    if isSlash true a && isSlash true b then
      let span := rest.takeWhile fun c => !endsAuthority true c
      if span.isEmpty || isDriveLike span then here rest
      else
        match readHost span with
        | .error e => .error e
        | .ok host =>
          let behind := rest.drop span.length
          let local_ := host == .name "localhost".toList
          let url := finish scheme (some { host := if local_ then none else some host }) behind
          match url.path with
          | '/' :: d :: ':' :: more =>
            if d.isAlpha && (more.isEmpty || more.head? == some '/') then
              .ok { url with authority := some {} }
            else .ok url
          | _ => .ok url
    else here cs
  | _ => here cs

/-- Reads a URL of a scheme that does not want a host behind its scheme. -/
def parseOther (scheme : List Char) (cs : List Char) : Except UrlError Url :=
  match cs with
  | '/' :: '/' :: rest => do
    let (authority, rest) ← readAuthority scheme rest
    return finish scheme (some authority) rest
  | '/' :: _ => .ok (finish scheme none cs)
  | _ =>
    let path := cs.takeWhile fun c => !(c == '?' || c == '#')
    let (query, fragment) := readEnd false (cs.drop path.length)
    .ok { scheme, authority := none, path := encode [] path, query, fragment }

/-- Reads an absolute URL. -/
def parse (s : String) : Except UrlError Url :=
  match readScheme? (clean s.toList) with
  | none => .error .relativeWithoutBase
  | some (scheme, cs) =>
    match schemeKind scheme with
    | .file => parseFile cs
    | .special => do
      let (authority, rest) ← readAuthority scheme (cs.dropWhile (isSlash true))
      return finish scheme (some authority) rest
    | .other => parseOther scheme cs

/-- The text of a URL without the slashes at its end. -/
def baseText (u : Url) : String :=
  String.ofList (u.text.toList.reverse.dropWhile (· == '/')).reverse

end Scaffold.Url
