/-
  What a declared sidebar means, apart from any builder. An item contains the items that are
  written inside it, and a reference contains the items of the group it names. An item stands for
  the tree that is left when every reference is replaced by its group, written in place; an item
  that contains itself stands for no tree (`not_contains_self`).
-/
import DocCorpus.Sidebar
import Mathlib.Data.List.Forall2
import Mathlib.Logic.Relation

namespace DocCorpus.Sidebar

variable {groups : Table SidebarGroup} {known : List String} {items : List SidebarItem}

/-! ## Things and their trees -/

theorem forall₂_mem_left {α β : Type} {R : α → β → Prop} {xs : List α} {ys : List β}
    (h : List.Forall₂ R xs ys) {x : α} (hx : x ∈ xs) : ∃ y ∈ ys, R x y := by
  induction h with
  | nil => cases hx
  | cons hxy _ ih =>
    rcases List.mem_cons.1 hx with rfl | hx
    · exact ⟨_, List.mem_cons_self, hxy⟩
    · obtain ⟨y, hy, hR⟩ := ih hx
      exact ⟨y, List.mem_cons_of_mem _ hy, hR⟩

theorem forall₂_mem_right {α β : Type} {R : α → β → Prop} {xs : List α} {ys : List β}
    (h : List.Forall₂ R xs ys) {y : β} (hy : y ∈ ys) : ∃ x ∈ xs, R x y :=
  forall₂_mem_left (R := flip R) (List.Forall₂.flip (R := flip R) h) hy

theorem forall₂_unique {α β : Type} {R : α → β → Prop} {xs : List α} {ys zs : List β}
    (hR : ∀ y ∈ ys, ∀ x z, R x y → R x z → y = z) (hy : List.Forall₂ R xs ys)
    (hz : List.Forall₂ R xs zs) : ys = zs := by
  induction hy generalizing zs with
  | nil =>
    cases hz
    rfl
  | cons hxy _ ih =>
    cases hz with
    | cons hxz hz =>
      rw [hR _ List.mem_cons_self _ _ hxy hxz,
        ih (fun y hy => hR y (List.mem_cons_of_mem _ hy)) hz]

section Shrinking

variable {α : Type} {leadsTo : α → α → Prop} {isTree : α → NavNode → Prop} {x y : α}
  {tree : NavNode}

/-- What a thing with a tree leads to has a smaller tree. Then nothing with a tree leads back to
itself (`Shrinks.not_self`). -/
def Shrinks (leadsTo : α → α → Prop) (isTree : α → NavNode → Prop) : Prop :=
  ∀ x y tree, isTree x tree → leadsTo x y → ∃ part, isTree y part ∧ sizeOf part < sizeOf tree

theorem Shrinks.within (hs : Shrinks leadsTo isTree) (h : isTree x tree)
    (hpath : Relation.ReflTransGen leadsTo x y) : ∃ part, isTree y part := by
  induction hpath with
  | refl => exact ⟨tree, h⟩
  | tail _ hlast ih =>
    obtain ⟨part, hpart⟩ := ih
    obtain ⟨smaller, hsmaller, _⟩ := hs _ _ part hpart hlast
    exact ⟨smaller, hsmaller⟩

theorem Shrinks.strictlyWithin (hs : Shrinks leadsTo isTree) (h : isTree x tree)
    (hpath : Relation.TransGen leadsTo x y) :
    ∃ part, isTree y part ∧ sizeOf part < sizeOf tree := by
  induction hpath with
  | single hfirst => exact hs _ _ tree h hfirst
  | tail _ hlast ih =>
    obtain ⟨part, hpart, hlt⟩ := ih
    obtain ⟨smaller, hsmaller, hlt'⟩ := hs _ _ part hpart hlast
    exact ⟨smaller, hsmaller, Nat.lt_trans hlt' hlt⟩

theorem Shrinks.not_self (hs : Shrinks leadsTo isTree)
    (hunique : ∀ tree other, isTree x tree → isTree x other → tree = other) (h : isTree x tree) :
    ¬ Relation.TransGen leadsTo x x := by
  intro hself
  obtain ⟨part, hpart, hlt⟩ := hs.strictlyWithin h hself
  rw [hunique part tree hpart h] at hlt
  exact Nat.lt_irrefl _ hlt

end Shrinking

/-! ## What is inside an item -/

/-- The items that stand directly inside an item. -/
def contents (groups : Table SidebarGroup) : SidebarItem → List SidebarItem
  | .link _ _ => []
  | .group _ items => items
  | .reference name => ((groups.get? name).map SidebarGroup.items).getD []

/-- The label of a group, written in place or declared under a name. -/
def heading? (groups : Table SidebarGroup) : SidebarItem → Option String
  | .link _ _ => none
  | .group label _ => some label
  | .reference name => (groups.get? name).map SidebarGroup.label

def Contains (groups : Table SidebarGroup) (outer inner : SidebarItem) : Prop :=
  inner ∈ contents groups outer

/-- The items that a sidebar leads to, through groups and through references to groups. -/
def Reachable (groups : Table SidebarGroup) (items : List SidebarItem) (item : SidebarItem) :
    Prop :=
  ∃ top ∈ items, Relation.ReflTransGen (Contains groups) top item

theorem contents_reference (groups : Table SidebarGroup) (name : String) :
    contents groups (.reference name) = ((groups.get? name).map SidebarGroup.items).getD [] := rfl

theorem heading?_reference (groups : Table SidebarGroup) (name : String) :
    heading? groups (.reference name) = (groups.get? name).map SidebarGroup.label := rfl

theorem contents_of_get? {name : String} {group : SidebarGroup}
    (h : groups.get? name = some group) : contents groups (.reference name) = group.items := by
  rw [contents_reference, h]
  rfl

theorem heading?_of_get? {name : String} {group : SidebarGroup}
    (h : groups.get? name = some group) : heading? groups (.reference name) = some group.label := by
  rw [heading?_reference, h]
  rfl

/-- A named group that holds a reference to itself, through whatever groups. -/
def SelfReferring (groups : Table SidebarGroup) (name : String) : Prop :=
  Relation.TransGen (Contains groups) (.reference name) (.reference name)

/-! ## The tree that an item stands for -/

/-- An item and its tree: each reference stands for the group it names, written in place. -/
inductive Substituted (groups : Table SidebarGroup) (known : List String) :
    SidebarItem → NavNode → Prop
  | link {label target : String} {resolved : LinkTarget}
      (h : LinkTarget.resolve? known target = some resolved) :
      Substituted groups known (.link label target) (.link label resolved)
  | group {label : String} {items : List SidebarItem} {nodes : List NavNode}
      (h : List.Forall₂ (Substituted groups known) items nodes) :
      Substituted groups known (.group label items) (.group label nodes)
  | reference {name : String} {group : SidebarGroup} {node : NavNode}
      (hname : groups.get? name = some group)
      (h : Substituted groups known (.group group.label group.items) node) :
      Substituted groups known (.reference name) node

theorem Substituted.children {item : SidebarItem} {label : String} {nodes : List NavNode}
    (h : Substituted groups known item (.group label nodes)) :
    List.Forall₂ (Substituted groups known) (contents groups item) nodes := by
  cases h with
  | group h => exact h
  | reference hname h =>
    rw [contents_of_get? hname]
    cases h with
    | group h => exact h

theorem Substituted.of_contents {item : SidebarItem} {label : String} {nodes : List NavNode}
    (hlabel : heading? groups item = some label)
    (h : List.Forall₂ (Substituted groups known) (contents groups item) nodes) :
    Substituted groups known item (.group label nodes) := by
  cases item with
  | link label' target => cases hlabel
  | group label' items =>
    injection hlabel with hlabel
    rw [← hlabel]
    exact .group h
  | reference name =>
    rw [heading?_reference, Option.map_eq_some_iff] at hlabel
    obtain ⟨group, hname, hlabel⟩ := hlabel
    rw [contents_of_get? hname] at h
    rw [← hlabel]
    exact .reference hname (.group h)

/-- An item inside an item with a tree has a tree, which is a smaller one. -/
theorem shrinks_contains (groups : Table SidebarGroup) (known : List String) :
    Shrinks (Contains groups) (Substituted groups known) := by
  intro outer inner tree h hin
  cases tree with
  | link label target =>
    cases h with
    | link h => cases hin
    | reference hname h => cases h
  | group label nodes =>
    obtain ⟨part, hpart, h⟩ := forall₂_mem_left h.children hin
    have hlt := List.sizeOf_lt_of_mem hpart
    refine ⟨part, h, ?_⟩
    rw [NavNode.group.sizeOf_spec]
    omega

theorem Substituted.heading {item : SidebarItem} {label : String} {nodes : List NavNode}
    (h : Substituted groups known item (.group label nodes)) :
    heading? groups item = some label := by
  cases h with
  | group h => rfl
  | reference hname h =>
    cases h with
    | group h => exact heading?_of_get? hname

theorem Substituted.eq_group {item : SidebarItem} {label : String} {tree : NavNode}
    (h : Substituted groups known item tree) (hlabel : heading? groups item = some label) :
    ∃ nodes, tree = .group label nodes := by
  cases tree with
  | link label target =>
    cases h with
    | link h => cases hlabel
    | reference hname h => cases h
  | group label' nodes =>
    rw [h.heading] at hlabel
    injection hlabel with hlabel
    exact ⟨nodes, by rw [hlabel]⟩

/-- An item stands for one tree at most. -/
theorem Substituted.unique {item : SidebarItem} {tree other : NavNode}
    (h : Substituted groups known item tree) (h' : Substituted groups known item other) :
    tree = other := by
  cases tree with
  | link label target =>
    cases h with
    | link h =>
      cases h' with
      | link h' =>
        rw [h] at h'
        injection h' with h'
        rw [h']
    | reference hname h => cases h
  | group label nodes =>
    obtain ⟨nodes', rfl⟩ := h'.eq_group h.heading
    have key : nodes = nodes' := by
      refine forall₂_unique (fun part hpart _ _ h h' => ?_) h.children h'.children
      have := List.sizeOf_lt_of_mem hpart
      exact h.unique h'
    rw [key]
termination_by sizeOf tree
decreasing_by
  subst_vars
  rw [NavNode.group.sizeOf_spec]
  omega

/-- An item with a tree does not contain itself. -/
theorem Substituted.not_contains_self {item : SidebarItem} {tree : NavNode}
    (h : Substituted groups known item tree) :
    ¬ Relation.TransGen (Contains groups) item item :=
  (shrinks_contains groups known).not_self (fun _ _ => Substituted.unique) h

end DocCorpus.Sidebar
