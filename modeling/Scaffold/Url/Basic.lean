import Scaffold.Host.Basic

/-!
# Absolute URLs

A URL in the form in which it is written: every part encoded, the default port left out, and the
steps up and down in its path taken.
-/

namespace Scaffold

namespace Url

/-- What is known of a scheme. -/
inductive SchemeKind where
  /-- A scheme of files. -/
  | file
  /-- Another scheme that always has a host. -/
  | special
  | other
  deriving DecidableEq, Repr

/-- The kind of a scheme. -/
def schemeKind (scheme : List Char) : SchemeKind :=
  if scheme == "file".toList then .file
  else if ["http", "https", "ws", "wss", "ftp"].any fun s => scheme == s.toList then .special
  else .other

/-- Whether backslashes count as slashes, and the path is never empty. -/
def SchemeKind.isSpecial : SchemeKind → Bool
  | file | special => true
  | other => false

/-- The port of a scheme that need not be written. -/
def defaultPort? (scheme : List Char) : Option Nat :=
  if scheme == "http".toList || scheme == "ws".toList then some 80
  else if scheme == "https".toList || scheme == "wss".toList then some 443
  else if scheme == "ftp".toList then some 21
  else none

/-- Where a URL leads to. -/
structure Authority where
  /-- The name of a user and a password, encoded, with the sign behind them; or nothing. -/
  userinfo : List Char := []
  /-- The host, unless it is empty. -/
  host : Option Host := none
  port : Option Nat := none
  deriving Repr

/-- The text of an authority. -/
def Authority.text (a : Authority) : String :=
  String.ofList a.userinfo ++ (a.host.map Host.text).getD "" ++
    (a.port.map fun p => ":" ++ toString p).getD ""

end Url

/-- An absolute URL. -/
structure Url where
  scheme : List Char
  authority : Option Url.Authority
  path : List Char
  query : Option (List Char) := none
  fragment : Option (List Char) := none
  deriving Repr

namespace Url

/-- The text of a URL. A path that begins with two slashes is kept apart from the scheme. -/
def text (u : Url) : String :=
  let start :=
    match u.authority with
    | some a => "//" ++ a.text
    | none => if ['/', '/'].isPrefixOf u.path then "/." else ""
  String.ofList u.scheme ++ ":" ++ start ++ String.ofList u.path ++
    (u.query.map fun q => "?" ++ String.ofList q).getD "" ++
    (u.fragment.map fun f => "#" ++ String.ofList f).getD ""

end Url

end Scaffold
