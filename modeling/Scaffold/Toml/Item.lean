/-!
# TOML items

What stands under the keys of a document: texts, other values, tables and arrays of tables. A key
may lead through tables that it brings into being itself; `Item.Origin` records how a table came to
be, because that decides which later lines may add to it. `insertAt?` puts an item where a dotted
key leads; `openTable?` and `openElement?` do what the headers of tables and of the elements of
arrays do, at the place to which `atHeader?` leads.
-/

namespace Scaffold.Toml

/-- How a table came to be. -/
inductive Item.Origin where
  /-- By its own header. -/
  | header
  /-- By the header of a table inside it. -/
  | inner
  /-- By a dotted key. -/
  | dotted
  deriving DecidableEq, Repr

/-- What stands under a key. -/
inductive Item where
  | text (s : String)
  /-- A value that is no text. -/
  | value
  | table (origin : Item.Origin) (entries : List (String × Item))
  /-- An array of tables, of which only the last one can still grow. -/
  | tables (last : List (String × Item))

/-- What stands under the keys of a table. -/
abbrev Entries := List (String × Item)

namespace Entries

/-- The entries with what stands under a key replaced. -/
def put (key : String) (item : Item) (es : Entries) : Entries :=
  es.map fun e => if e.1 == key then (key, item) else e

/-- Follows the keys of a header and changes the entries found there. A key that is new leads to a
new table. -/
def atHeader? (change : Entries → Option Entries) : (path : List String) → Entries → Option Entries
  | [], es => change es
  | key :: path, es =>
    match es.lookup key with
    | none => (atHeader? change path []).map fun inside => es ++ [(key, .table .inner inside)]
    | some (.table origin inside) =>
      (atHeader? change path inside).map fun inside => es.put key (.table origin inside)
    | some (.tables last) =>
      (atHeader? change path last).map fun last => es.put key (.tables last)
    | some _ => none

/-- Follows the keys of a dotted key and adds an item under the last one, which must be new. Tables
that have their own header are closed to dotted keys; the table that gets the item is either the
one where the keys start, if `start` holds, or one that dotted keys brought into being. -/
def insertAt? (item : Item) (last : String) : (start : Bool) → (path : List String) → Entries →
    Option Entries
  | start, [], es =>
    if start && (es.lookup last).isNone then some (es ++ [(last, item)]) else none
  | _, key :: path, es =>
    match es.lookup key with
    | none =>
      (insertAt? item last true path []).map fun inside => es ++ [(key, .table .dotted inside)]
    | some (.table .header _) => none
    | some (.table .inner inside) =>
      (insertAt? item last false path inside).map fun inside =>
        es.put key (.table .inner inside)
    | some (.table .dotted inside) =>
      (insertAt? item last true path inside).map fun inside =>
        es.put key (.table .dotted inside)
    | some (.tables inside) =>
      (insertAt? item last false path inside).map fun inside => es.put key (.tables inside)
    | some _ => none

/-- Opens the table under a key, which must be new or have come to be by the header of a table
inside it. -/
def openTable? (key : String) (es : Entries) : Option Entries :=
  match es.lookup key with
  | none => some (es ++ [(key, .table .header [])])
  | some (.table .inner inside) => some (es.put key (.table .header inside))
  | some _ => none

/-- Opens another element of the array of tables under a key, which may be new. -/
def openElement? (key : String) (es : Entries) : Option Entries :=
  match es.lookup key with
  | none => some (es ++ [(key, .tables [])])
  | some (.tables _) => some (es.put key (.tables []))
  | some _ => none

end Entries

end Scaffold.Toml
