/-
  Unfolding a finished drawing. The tree that a node stands for is the one that its origin stands
  for, and a way down to a node is one to its origin. So when the builder does not unfold, the
  sidebar leads to a named group that contains itself or to a link that does not resolve. A node
  met twice on a way down is the node of a named group: an item written in place belongs to one
  group only, so its group would have been met twice before.
-/
import DocCorpus.Proofs.Builder.Unfolding
import DocCorpus.Proofs.Sidebar.Lowering

namespace DocCorpus.Sidebar

variable {groups : Table SidebarGroup} {d : Draft} {origins : List (SidebarItem × Option Nat)}
  {top : List SidebarItem} {known : List String}

theorem Drawn.wired (hd : Drawn groups d origins (fun _ => []) top) : d.builder.Wired where
  roots_lt := fun node hnode => by
    obtain ⟨item, _, hitem⟩ := forall₂_mem_left hd.roots hnode
    exact hd.length ▸ hitem.lt
  children_lt := fun node label children hslot child hchild => by
    have hnode := (List.getElem?_eq_some_iff.1 hslot).1
    rw [← hd.length] at hnode
    obtain ⟨⟨item, parent⟩, hitem⟩ : ∃ made, origins[node]? = some made :=
      ⟨_, List.getElem?_eq_getElem hnode⟩
    obtain ⟨inner, _, hinner⟩ := forall₂_mem_left (hd.children hitem hslot).2 hchild
    exact hd.length ▸ hinner.lt

/-! ## Trees -/

mutual

/-- The tree of a node is that of its origin. -/
theorem Drawn.substituted (hd : Drawn groups d origins (fun _ => []) top) {node : Nat}
    {tree : NavNode} (h : d.builder.Stands known node tree) {item : SidebarItem}
    {parent : Option Nat} (hnode : origins[node]? = some (item, parent)) :
    Substituted groups known item tree := by
  cases h with
  | link hslot h =>
    cases hd.slotOf hnode hslot with
    | link _ => exact .link h
  | group hslot h =>
    obtain ⟨hlabel, hchildren⟩ := hd.children hnode hslot
    exact .of_contents hlabel (hd.substitutedAll h hchildren)
termination_by sizeOf tree

theorem Drawn.substitutedAll (hd : Drawn groups d origins (fun _ => []) top) {nodes : List Nat}
    {trees : List NavNode} (h : List.Forall₂ (d.builder.Stands known) nodes trees)
    {items : List SidebarItem} {parent : Option Nat}
    (hnodes : List.Forall₂ (MadeFor origins parent) nodes items) :
    List.Forall₂ (Substituted groups known) items trees := by
  cases h with
  | nil =>
    cases hnodes
    exact .nil
  | cons hhead htail =>
    cases hnodes with
    | cons hnode hnodes => exact .cons (hd.substituted hhead hnode) (hd.substitutedAll htail hnodes)
termination_by sizeOf trees

end

/-! ## Ways down -/

/-- A node on a way down was made for an item that the sidebar leads to, and that is written in the
nearest group. -/
theorem Drawn.exists_item (hd : Drawn groups d origins (fun _ => []) top) {path : List Nat}
    {node : Nat} (h : d.builder.Trail path node) :
    ∃ item, MadeFor origins path.head? node item ∧ Reachable groups top item := by
  induction h with
  | root h =>
    obtain ⟨item, htop, hitem⟩ := forall₂_mem_left hd.roots h
    exact ⟨item, hitem, item, htop, .refl⟩
  | child _ _ hslot hnode ih =>
    obtain ⟨outer, houter, first, hfirst, hpath⟩ := ih
    obtain ⟨item, hin, hitem⟩ := forall₂_mem_left (hd.children houter hslot).2 hnode
    exact ⟨item, hitem, first, hfirst, hpath.tail hin⟩

/-- The origins of the groups on a way down contain the origin at its end. -/
theorem Drawn.contains (hd : Drawn groups d origins (fun _ => []) top) {path : List Nat}
    {node n : Nat} (h : d.builder.Trail path node) (hn : n ∈ path) {item outer : SidebarItem}
    {parent owner : Option Nat} (hitem : origins[node]? = some (item, parent))
    (houter : origins[n]? = some (outer, owner)) :
    Relation.TransGen (Contains groups) outer item := by
  induction h generalizing item parent with
  | root h => cases hn
  | @child path children p node label h hnew hslot hnode ih =>
    obtain ⟨between, hbetween, _⟩ := hd.exists_item h
    obtain ⟨item', hin, hitem'⟩ := forall₂_mem_left (hd.children hbetween hslot).2 hnode
    obtain ⟨rfl, _⟩ := hitem'.unique hitem
    rcases List.mem_cons.1 hn with rfl | hn
    · obtain ⟨rfl, _⟩ := hbetween.unique houter
      exact .single hin
    · exact (ih hn hbetween).tail hin

/-- A node that a way down has passed when it ends there is the node of a reference. -/
theorem Drawn.exists_name (hd : Drawn groups d origins (fun _ => []) top) {path : List Nat}
    {node : Nat} (h : d.builder.Trail path node) (hon : node ∈ path) :
    ∃ name, MadeFor origins none node (.reference name) ∧
      Reachable groups top (.reference name) := by
  obtain ⟨rest, hrest, hearlier⟩ := h.suffix hon
  obtain ⟨item, hitem, hreached⟩ := hd.exists_item h
  obtain ⟨item', hitem', _⟩ := hd.exists_item hearlier
  obtain ⟨rfl, hplace⟩ := hitem.unique hitem'
  have key : path.head? ≠ rest.head? := by
    cases h with
    | root h => cases hon
    | @child path _ parent _ _ _ hnew _ _ =>
      have hsuffix : rest <:+ path := by
        rcases List.suffix_cons_iff.1 hrest with heq | hsuffix
        · injection heq with _ heq
          exact ⟨[], heq⟩
        · exact (List.suffix_cons ..).trans hsuffix
      intro heq
      exact hnew (hsuffix.subset (List.mem_of_mem_head? heq.symm))
  cases item with
  | link label target => exact absurd hplace key
  | group label items => exact absurd hplace key
  | reference name => exact ⟨name, hitem, hreached⟩

/-! ## Failures -/

/-- The failure of a sidebar that leads to a named group that contains itself, or to a link that
does not resolve. -/
inductive Broken (groups : Table SidebarGroup) (known : List String) (top : List SidebarItem) :
    Failure → Prop
  | cyclic {name : String} {group : SidebarGroup} (h : Reachable groups top (.reference name))
      (hget : groups.get? name = some group) (hself : SelfReferring groups name) :
      Broken groups known top (.cyclicGroup group.label)
  | dangling {label target : String} (h : Reachable groups top (.link label target))
      (hnone : LinkTarget.resolve? known target = none) :
      Broken groups known top (.danglingLink label target)

/-- The way down on which a builder fails is one to a fault of the sidebar. -/
theorem Drawn.broken (hd : Drawn groups d origins (fun _ => []) top) {e : Failure}
    (h : d.builder.Fails known e) : Broken groups known top e := by
  cases h with
  | cyclic h hon hslot =>
    obtain ⟨name, hname, hreached⟩ := hd.exists_name h hon
    have hself := hd.contains h hon hname hname
    cases hd.slotOf hname hslot with
    | group hlabel _ _ =>
      rw [heading?_reference, Option.map_eq_some_iff] at hlabel
      obtain ⟨group, hget, rfl⟩ := hlabel
      exact .cyclic hreached hget hself
  | dangling h hslot hnone =>
    obtain ⟨item, hitem, hreached⟩ := hd.exists_item h
    cases hd.slotOf hitem hslot with
    | link _ => exact .dangling hreached hnone

end DocCorpus.Sidebar
