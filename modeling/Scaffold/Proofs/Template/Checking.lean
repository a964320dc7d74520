import Mathlib.Data.List.Forall2
import Scaffold.Template.Basic

/-!
# Templates that cannot fail

A template fails where it prints, compares or repeats over a value that is not there, which shows
only when that part is reached. `checkParts` looks at every part of a template, whatever its choices
pick, and compares the paths in it with the kinds of the values around it. The main statements are
`provided_of_check`, that a checked template finds every value that it names, and
`exists_renderParts?`, that a template that finds its values is rendered.
-/

namespace Scaffold.Template

/-! ## Values that are there -/

/-- The path of the value that decides a choice. -/
def Condition.path : Condition → Path
  | .holds path => path
  | .equals path _ => path

mutual

/-- Every value that a part prints, chooses by or repeats over is there, in both alternatives of a
choice and for every item of a repetition. -/
def Part.Provided (scopes : List Scope) : Part → Prop
  | .text _ => True
  | .value path => (find? scopes path).isSome
  | .choice condition yes no => (find? scopes condition.path).isSome ∧
      PartsProvided scopes yes ∧ PartsProvided scopes no
  | .each name path body => ∃ items, find? scopes path = some (.array items) ∧
      ∀ j ∈ items, PartsProvided ([(name, j)] :: scopes) body

/-- Every value that the parts of a list name is there. -/
def PartsProvided (scopes : List Scope) : List Part → Prop
  | [] => True
  | p :: rest => p.Provided scopes ∧ PartsProvided scopes rest

end

/-- A condition on a value that is there is decided. -/
theorem Condition.exists_decide? {scopes : List Scope} {condition : Condition}
    (h : (find? scopes condition.path).isSome) : ∃ b, condition.decide? scopes = some b := by
  cases condition with
  | holds path => exact ⟨_, rfl⟩
  | equals path text =>
    obtain ⟨j, hj⟩ := Option.isSome_iff_exists.1 h
    exact ⟨_, by rw [decide?, show find? scopes path = some j from hj, Option.map_some]⟩

/-- Texts that are all there can be put one after the other. -/
theorem exists_concat? {l : List (Option String)} (h : ∀ o ∈ l, ∃ s, o = some s) :
    ∃ s, concat? l = some s := by
  induction l with
  | nil => exact ⟨"", rfl⟩
  | cons o l ih =>
    rw [List.forall_mem_cons] at h
    obtain ⟨⟨s, rfl⟩, hrest⟩ := h
    obtain ⟨t, ht⟩ := ih hrest
    exact ⟨s ++ t, by rw [concat?, ht, Option.map_some]⟩

mutual

/-- A part that finds its values is rendered. -/
theorem Part.exists_render? {scopes : List Scope} :
    ∀ {p : Part}, p.Provided scopes → ∃ s, p.render? scopes = some s
  | .text s, _ => ⟨s, by rw [Part.render?]⟩
  | .value path, h => by
    rw [Part.Provided] at h
    obtain ⟨j, hj⟩ := Option.isSome_iff_exists.1 h
    exact ⟨print j, by rw [Part.render?, hj, Option.map_some]⟩
  | .choice condition yes no, h => by
    rw [Part.Provided] at h
    obtain ⟨hpath, hyes, hno⟩ := h
    obtain ⟨b, hb⟩ := Condition.exists_decide? hpath
    rw [Part.render?, hb]
    cases b with
    | true => exact exists_renderParts? hyes
    | false => exact exists_renderParts? hno
  | .each name path body, h => by
    rw [Part.Provided] at h
    obtain ⟨items, hpath, hbody⟩ := h
    rw [Part.render?, hpath]
    refine exists_concat? fun o ho => ?_
    obtain ⟨j, hj, rfl⟩ := List.mem_map.1 ho
    exact exists_renderParts? (hbody j hj)

/-- Parts that find their values are rendered. -/
theorem exists_renderParts? {scopes : List Scope} :
    ∀ {ps : List Part}, PartsProvided scopes ps → ∃ s, renderParts? scopes ps = some s
  | [], _ => ⟨"", by rw [renderParts?]⟩
  | p :: rest, h => by
    rw [PartsProvided] at h
    obtain ⟨s, hs⟩ := Part.exists_render? h.1
    obtain ⟨t, ht⟩ := exists_renderParts? h.2
    exact ⟨s ++ t, by rw [renderParts?, hs, ht]⟩

end

/-! ## Kinds of values -/

/-- What a template can do with a value besides printing it, comparing it and choosing by it. -/
inductive Kind where
  | leaf
  /-- Follow its members. -/
  | record (members : List (String × Kind))
  /-- Repeat over its items. -/
  | items (item : Kind)

mutual

/-- A value has the members and the items of a kind. -/
def Kind.Fits : Kind → Json → Prop
  | .leaf, _ => True
  | .record members, j => MembersFit members j
  | .items item, j => ∃ l, j = .array l ∧ ∀ i ∈ l, item.Fits i

/-- A value has members of the given kinds. -/
def MembersFit : List (String × Kind) → Json → Prop
  | [], _ => True
  | (name, kind) :: rest, j => (∃ v, j.member? name = some v ∧ kind.Fits v) ∧ MembersFit rest j

end

/-- The kinds of the variables of a scope. -/
abbrev ScopeKind := List (String × Kind)

/-- A scope has the variables of the given kinds and no others. -/
def ScopeFits (scope : Scope) (kinds : ScopeKind) : Prop :=
  List.Forall₂ (fun p q => p.1 = q.1 ∧ q.2.Fits p.2) scope kinds

/-- The kind of what the members of a path lead to. -/
def Kind.follow? : List String → Kind → Option Kind
  | [], kind => some kind
  | name :: rest, .record members => (members.lookup name).bind (follow? rest)
  | _ :: _, _ => none

/-- The kind of the value at a path. The innermost scope that has the variable counts. -/
def findKind? (kinds : List ScopeKind) : Path → Option Kind
  | [] => none
  | name :: rest => (kinds.findSome? fun scope => scope.lookup name).bind (Kind.follow? rest)

mutual

/-- Whether every path in a part leads to a value of a kind that allows what is done with it. -/
def Part.check (kinds : List ScopeKind) : Part → Bool
  | .text _ => true
  | .value path => (findKind? kinds path).isSome
  | .choice condition yes no =>
    (findKind? kinds condition.path).isSome && checkParts kinds yes && checkParts kinds no
  | .each name path body =>
    match findKind? kinds path with
    | some (.items item) => checkParts ([(name, item)] :: kinds) body
    | _ => false

/-- Whether the parts of a list pass the check. -/
def checkParts (kinds : List ScopeKind) : List Part → Bool
  | [] => true
  | p :: rest => p.check kinds && checkParts kinds rest

end

/-! ## What is checked is there -/

section
variable {scope : Scope} {scopes : List Scope} {kinds : List ScopeKind} {name : String}
  {kind : Kind}

/-- A value that fits a table of members has each of them. -/
theorem exists_member? {members : List (String × Kind)} {j : Json} (h : MembersFit members j)
    (hkind : members.lookup name = some kind) : ∃ v, j.member? name = some v ∧ kind.Fits v := by
  induction members with
  | nil => cases hkind
  | cons p members ih =>
    obtain ⟨k, first⟩ := p
    rw [MembersFit] at h
    rw [List.lookup_cons] at hkind
    by_cases hname : name = k
    · rw [beq_iff_eq.2 hname] at hkind
      cases hkind
      exact hname ▸ h.1
    · rw [beq_false_of_ne hname] at hkind
      exact ih h.2 hkind

/-- What a path leads to from a value has the kind that the path leads to from its kind. -/
theorem exists_follow? {path : List String} {kind' : Kind} {j : Json} (h : kind.Fits j)
    (hkind : kind.follow? path = some kind') : ∃ v, follow? path j = some v ∧ kind'.Fits v := by
  induction path generalizing kind j with
  | nil =>
    rw [Kind.follow?] at hkind
    cases hkind
    exact ⟨j, by rw [follow?], h⟩
  | cons name rest ih =>
    cases kind with
    | leaf | items => cases hkind
    | record members =>
      rw [Kind.follow?] at hkind
      obtain ⟨k, hk, hrest⟩ := Option.bind_eq_some_iff.1 hkind
      rw [Kind.Fits] at h
      obtain ⟨v, hv, hfits⟩ := exists_member? h hk
      obtain ⟨w, hw, hfits⟩ := ih hfits hrest
      exact ⟨w, by rw [follow?, hv]; exact hw, hfits⟩

/-- A scope has a value under each of its variables, and none under another name. -/
theorem lookup_of_scopeFits {scopeKind : ScopeKind} (h : ScopeFits scope scopeKind)
    (name : String) :
    match scopeKind.lookup name with
    | some kind => ∃ j, scope.lookup name = some j ∧ kind.Fits j
    | none => scope.lookup name = none := by
  induction h with
  | nil => rfl
  | @cons p q _ _ hpq _ ih =>
    obtain ⟨k, j⟩ := p
    obtain ⟨k', first⟩ := q
    obtain ⟨rfl, hfits⟩ := hpq
    rw [List.lookup_cons, List.lookup_cons]
    cases hname : name == k with
    | true => exact ⟨j, rfl, hfits⟩
    | false => exact ih

/-- A path that has a kind leads to a value of that kind. -/
theorem exists_find? (h : List.Forall₂ ScopeFits scopes kinds) {path : Path}
    (hkind : findKind? kinds path = some kind) : ∃ j, find? scopes path = some j ∧ kind.Fits j := by
  cases path with
  | nil => cases hkind
  | cons name rest =>
    rw [findKind?] at hkind
    obtain ⟨first, hfirst, hrest⟩ := Option.bind_eq_some_iff.1 hkind
    clear hkind
    rw [find?]
    induction h with
    | nil => cases hfirst
    | @cons scope scopeKind _ _ hscope _ ih =>
      have hlookup := lookup_of_scopeFits hscope name
      rw [List.findSome?_cons] at hfirst ⊢
      rw [Scope.find?]
      cases hvariable : scopeKind.lookup name with
      | some k =>
        rw [hvariable] at hfirst hlookup
        cases hfirst
        obtain ⟨j, hj, hfits⟩ := hlookup
        obtain ⟨v, hv, hfits⟩ := exists_follow? hfits hrest
        exact ⟨v, by rw [hj]; simp only [hv], hfits⟩
      | none =>
        rw [hvariable] at hfirst hlookup
        obtain ⟨v, hv, hfits⟩ := ih hfirst
        exact ⟨v, by rw [hlookup]; exact hv, hfits⟩

/-- So a path that has a kind leads to a value. -/
theorem isSome_find? (h : List.Forall₂ ScopeFits scopes kinds) {path : Path}
    (hkind : (findKind? kinds path).isSome) : (find? scopes path).isSome := by
  obtain ⟨kind, hkind⟩ := Option.isSome_iff_exists.1 hkind
  obtain ⟨j, hj, -⟩ := exists_find? h hkind
  exact Option.isSome_of_eq_some hj

end

mutual

/-- A part that passes the check finds its values. -/
theorem Part.provided_of_check {scopes : List Scope} {kinds : List ScopeKind}
    (h : List.Forall₂ ScopeFits scopes kinds) :
    ∀ {p : Part}, p.check kinds = true → p.Provided scopes
  | .text _, _ => by rw [Part.Provided]; trivial
  | .value path, hcheck => by
    rw [Part.check] at hcheck
    rw [Part.Provided]
    exact isSome_find? h hcheck
  | .choice condition yes no, hcheck => by
    rw [Part.check, Bool.and_eq_true, Bool.and_eq_true] at hcheck
    obtain ⟨⟨hpath, hyes⟩, hno⟩ := hcheck
    rw [Part.Provided]
    exact ⟨isSome_find? h hpath, provided_of_check h hyes, provided_of_check h hno⟩
  | .each name path body, hcheck => by
    rw [Part.check] at hcheck
    split at hcheck
    · rename_i item hkind
      obtain ⟨j, hj, hfits⟩ := exists_find? h hkind
      rw [Kind.Fits] at hfits
      obtain ⟨items, rfl, hitems⟩ := hfits
      rw [Part.Provided]
      -- the scope of an item has the item alone, of the kind of the items
      exact ⟨items, hj, fun i hi =>
        provided_of_check (.cons (.cons ⟨rfl, hitems i hi⟩ .nil) h) hcheck⟩
    · cases hcheck

/-- Parts that pass the check find their values. -/
theorem provided_of_check {scopes : List Scope} {kinds : List ScopeKind}
    (h : List.Forall₂ ScopeFits scopes kinds) :
    ∀ {ps : List Part}, checkParts kinds ps = true → PartsProvided scopes ps
  | [], _ => by rw [PartsProvided]; trivial
  | p :: rest, hcheck => by
    rw [checkParts, Bool.and_eq_true] at hcheck
    rw [PartsProvided]
    exact ⟨p.provided_of_check h hcheck.1, provided_of_check h hcheck.2⟩

end

end Scaffold.Template
