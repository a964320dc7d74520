import Scaffold.Text.Blank

/-!
# Comments

A description becomes a block comment on one line: its words are joined by single spaces, and
every `*/` in it is broken up, so that the comment ends where the generator ends it.
-/

namespace Scaffold.TypeScript

/-- The text with a backslash between the star and the slash of every `*/`. -/
def breakEnds : List Char → List Char
  | '*' :: '/' :: rest => '*' :: '\\' :: '/' :: breakEnds rest
  | c :: rest => c :: breakEnds rest
  | [] => []

/-- A text on one line that is safe inside a block comment. -/
def commentChars (cs : List Char) : List Char :=
  breakEnds ([' '].intercalate (Text.words cs))

/-- A text on one line that is safe inside a block comment. -/
def commentText (s : String) : String := String.ofList (commentChars s.toList)

/-- A documentation comment on a line of its own, or nothing if the text is blank. -/
def docComment (s : String) (indent : Nat) : String :=
  let text := commentText s
  if text.isEmpty then ""
  else String.ofList (List.replicate indent ' ') ++ "/** " ++ text ++ " */\n"

end Scaffold.TypeScript
