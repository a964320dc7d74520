import Scaffold.Yaml.Node

/-!
# YAML documents

A document is a tree in which every alias refers to a node by a number. An anchor gets as its
number how many names of anchors came before it, and the last node with a number is the one that
aliases reach; so the repetition of a name takes a number that the next new name takes again.
-/

namespace Scaffold.Yaml

/-- The names of the anchors so far with their numbers. -/
abbrev AnchorNames := List (List Char × Nat)

/-- The numbers of the anchors of a part of a document in order, and the names behind it. -/
abbrev Numbered (α : Type) := AnchorNames → Option (α × List Nat × AnchorNames)

namespace Node

/-- Gives a number to the anchor of a node, if it has one. -/
def numberAnchor (p : Properties) (names : AnchorNames) : List Nat × AnchorNames :=
  match p.anchor with
  | none => ([], names)
  | some name =>
    let n := names.length
    ([n], (name, n) :: names.filter fun e => e.1 != name)

mutual

/-- Replaces the names in the aliases of a node by numbers; fails if one is unknown. -/
def number : Node (List Char) → Numbered (Node Nat)
  | .alias name, names => (names.lookup name).map fun n => (.alias n, [], names)
  | .scalar p style text, names =>
    let (ids, names) := numberAnchor p names
    some (.scalar p style text, ids, names)
  | .sequence p items, names =>
    let (ids, names) := numberAnchor p names
    match numberItems items names with
    | some (items, more, names) => some (.sequence p items, ids ++ more, names)
    | none => none
  | .mapping p entries, names =>
    let (ids, names) := numberAnchor p names
    match numberEntries entries names with
    | some (entries, more, names) => some (.mapping p entries, ids ++ more, names)
    | none => none

/-- Replaces the names in the aliases of the items of a sequence. -/
def numberItems : List (Node (List Char)) → Numbered (List (Node Nat))
  | [], names => some ([], [], names)
  | n :: rest, names =>
    match number n names with
    | none => none
    | some (n, ids, names) =>
      match numberItems rest names with
      | none => none
      | some (rest, more, names) => some (n :: rest, ids ++ more, names)

/-- Replaces the names in the aliases of the entries of a mapping. -/
def numberEntries :
    List (Node (List Char) × Node (List Char)) → Numbered (List (Node Nat × Node Nat))
  | [], names => some ([], [], names)
  | (k, v) :: rest, names =>
    match number k names with
    | none => none
    | some (k, ids, names) =>
      match number v names with
      | none => none
      | some (v, more, names) =>
        match numberEntries rest names with
        | none => none
        | some (rest, most, names) => some ((k, v) :: rest, ids ++ more ++ most, names)

end

/-- The node itself, if it has an anchor. -/
def ifAnchored {ref : Type} (p : Properties) (n : Node ref) : List (Node ref) :=
  if p.anchor.isSome then [n] else []

mutual

/-- The nodes with an anchor, in the order in which they begin. -/
def anchored {ref : Type} : Node ref → List (Node ref)
  | .alias _ => []
  | .scalar p style text => ifAnchored p (.scalar p style text)
  | .sequence p items => ifAnchored p (.sequence p items) ++ anchoredItems items
  | .mapping p entries => ifAnchored p (.mapping p entries) ++ anchoredEntries entries

/-- The items of a sequence and the nodes in them that have an anchor. -/
def anchoredItems {ref : Type} : List (Node ref) → List (Node ref)
  | [] => []
  | n :: rest => anchored n ++ anchoredItems rest

/-- The keys and values of a mapping and the nodes in them that have an anchor. -/
def anchoredEntries {ref : Type} : List (Node ref × Node ref) → List (Node ref)
  | [] => []
  | (k, v) :: rest => anchored k ++ anchored v ++ anchoredEntries rest

end

mutual

/-- The number of scalars and aliases, and twice the number of collections. -/
def size {ref : Type} : Node ref → Nat
  | .alias _ => 1
  | .scalar _ _ _ => 1
  | .sequence _ items => 2 + sizeItems items
  | .mapping _ entries => 2 + sizeEntries entries

/-- The size of the items of a sequence. -/
def sizeItems {ref : Type} : List (Node ref) → Nat
  | [] => 0
  | n :: rest => size n + sizeItems rest

/-- The size of the entries of a mapping. -/
def sizeEntries {ref : Type} : List (Node ref × Node ref) → Nat
  | [] => 0
  | (k, v) :: rest => size k + size v + sizeEntries rest

end

end Node

/-- A document. -/
structure Document where
  root : Node Nat
  /-- The nodes with an anchor and their numbers; the last one comes first. -/
  anchors : List (Nat × Node Nat)

namespace Document

/-- The document whose tree is given. -/
def ofNode? (n : Node (List Char)) : Option Document :=
  (n.number []).map fun (root, ids, _) => ⟨root, (ids.zip root.anchored).reverse⟩

/-- The document of a text. -/
def ofText? (s : String) : Option Document := (Node.ofText? s).bind ofNode?

/-- How often aliases may be followed while a document is read. -/
def budget (d : Document) : Nat := 100 * d.root.size

end Document

end Scaffold.Yaml
