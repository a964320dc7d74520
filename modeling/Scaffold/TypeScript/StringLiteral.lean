/-!
# String literals

`quote` writes a text as a single-quoted literal. The backslash, the quote and the two line breaks
that may not stand in such a literal are escaped; every other character stands for itself.
-/

namespace Scaffold.TypeScript

/-- The spelling of a character inside a single-quoted literal. -/
def escapeChar (c : Char) : List Char :=
  match c with
  | '\\' => ['\\', '\\']
  | '\'' => ['\\', '\'']
  | '\n' => ['\\', 'n']
  | '\r' => ['\\', 'r']
  | c => [c]

/-- A text as a single-quoted literal. -/
def quoteChars (cs : List Char) : List Char := '\'' :: (cs.flatMap escapeChar ++ ['\''])

/-- A text as a single-quoted literal. -/
def quote (s : String) : String := String.ofList (quoteChars s.toList)

end Scaffold.TypeScript
