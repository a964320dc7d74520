/-!
# Identifiers

The names that generated code may use bare: a letter, `_` or `$`, then letters, digits, `_` and
`$`, all of them ASCII, and no reserved word.
-/

namespace Scaffold.TypeScript

/-- The characters that an identifier may begin with. -/
def isIdentifierStart (c : Char) : Bool := c.isAlpha || c == '_' || c == '$'

/-- The characters that an identifier may go on with. -/
def isIdentifierPart (c : Char) : Bool := c.isAlphanum || c == '_' || c == '$'

/-- The words that cannot name a method, a function or a property. -/
def reservedWords : List String := [
  "break", "case", "catch", "class", "const", "continue", "debugger", "default", "delete", "do",
  "else", "enum", "export", "extends", "false", "finally", "for", "function", "if", "import",
  "in", "instanceof", "new", "null", "return", "super", "switch", "this", "throw", "true", "try",
  "typeof", "var", "void", "while", "with", "yield", "let", "static", "await", "implements",
  "interface", "package", "private", "protected", "public"]

/-- Whether a text has the form of an identifier, reserved or not. -/
def isIdentifierShape (s : String) : Bool :=
  match s.toList with
  | [] => false
  | c :: cs => isIdentifierStart c && cs.all isIdentifierPart

/-- Whether a text can be used as a bare identifier. -/
def isIdentifier (s : String) : Bool := isIdentifierShape s && !reservedWords.contains s

end Scaffold.TypeScript
