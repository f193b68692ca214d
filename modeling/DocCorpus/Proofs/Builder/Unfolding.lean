/-
  The sidebar that a wired builder unfolds to. The arena is a graph that the calls may have wired in
  any way: a group may stand in several places, and in itself. A node stands for the tree that
  unfolding leaves; a node that a root leads to and that leads back to itself, or a link that leads
  nowhere, is a failure, and nothing else is (`build_ofCalls`).
-/
import DocCorpus.Proofs.Builder.Wiring
import DocCorpus.Proofs.Sidebar.Substitution

namespace DocCorpus.NavBuilder

open Sidebar (Shrinks forall₂_mem_left forall₂_unique)

variable {b : NavBuilder} {known : List String} {node inner : Nat} {tree : NavNode} {e : Failure}

/-! ## The arena as a graph -/

/-- A group and one of its children. -/
def Holds (b : NavBuilder) (outer inner : Nat) : Prop :=
  ∃ label children, b.slots[outer]? = some (.group label children) ∧ inner ∈ children

/-- A node that a root leads to. -/
def Leads (b : NavBuilder) (node : Nat) : Prop :=
  ∃ root ∈ b.roots, Relation.ReflTransGen b.Holds root node

theorem exists_group_of_transGen {outer : Nat} (h : Relation.TransGen b.Holds outer inner) :
    ∃ label children, b.slots[outer]? = some (.group label children) := by
  obtain ⟨_, ⟨label, children, hslot, _⟩, _⟩ := Relation.TransGen.head'_iff.1 h
  exact ⟨label, children, hslot⟩

/-- A node and the tree that it unfolds to. -/
inductive Stands (b : NavBuilder) (known : List String) : Nat → NavNode → Prop
  | link {node : Nat} {label target : String} {resolved : LinkTarget}
      (hslot : b.slots[node]? = some (.link label target))
      (h : LinkTarget.resolve? known target = some resolved) :
      Stands b known node (.link label resolved)
  | group {node : Nat} {label : String} {children : List Nat} {nodes : List NavNode}
      (hslot : b.slots[node]? = some (.group label children))
      (h : List.Forall₂ (Stands b known) children nodes) :
      Stands b known node (.group label nodes)

/-- A node in a group that stands for a tree stands for a part of that tree. -/
theorem shrinks_holds (b : NavBuilder) (known : List String) :
    Shrinks b.Holds (Stands b known) := by
  rintro outer inner tree h ⟨label, children, hslot, hmem⟩
  cases h with
  | link hlink h =>
    rw [hslot] at hlink
    cases hlink
  | @group _ label' children' nodes hgroup h =>
    rw [hslot] at hgroup
    injection hgroup with hgroup
    injection hgroup with _ hchildren
    subst hchildren
    obtain ⟨part, hpart, hstands⟩ := forall₂_mem_left h hmem
    have := List.sizeOf_lt_of_mem hpart
    refine ⟨part, hstands, ?_⟩
    rw [NavNode.group.sizeOf_spec]
    omega

theorem Stands.link_iff {label target : String}
    (hslot : b.slots[node]? = some (.link label target)) :
    Stands b known node tree ↔
      ∃ resolved, LinkTarget.resolve? known target = some resolved ∧
        tree = .link label resolved := by
  constructor
  · intro h
    cases h with
    | link hlink h =>
      rw [hslot] at hlink
      cases hlink
      exact ⟨_, h, rfl⟩
    | group hgroup h =>
      rw [hslot] at hgroup
      cases hgroup
  · rintro ⟨resolved, h, rfl⟩
    exact .link hslot h

theorem Stands.group_iff {label : String} {children : List Nat}
    (hslot : b.slots[node]? = some (.group label children)) :
    Stands b known node tree ↔
      ∃ nodes, List.Forall₂ (Stands b known) children nodes ∧ tree = .group label nodes := by
  constructor
  · intro h
    cases h with
    | link hlink h =>
      rw [hslot] at hlink
      cases hlink
    | group hgroup h =>
      rw [hslot] at hgroup
      cases hgroup
      exact ⟨_, h, rfl⟩
  · rintro ⟨nodes, h, rfl⟩
    exact .group hslot h

/-- A node stands for one tree at most. -/
theorem Stands.unique {node : Nat} {tree other : NavNode} (h : Stands b known node tree)
    (h' : Stands b known node other) : tree = other := by
  cases h with
  | link hslot h =>
    obtain ⟨resolved, hresolved, rfl⟩ := (Stands.link_iff hslot).1 h'
    rw [h] at hresolved
    injection hresolved with hresolved
    rw [hresolved]
  | group hslot h =>
    obtain ⟨nodes, hnodes, rfl⟩ := (Stands.group_iff hslot).1 h'
    rw [forall₂_unique (fun part hpart _ _ h h' => ?_) h hnodes]
    have := List.sizeOf_lt_of_mem hpart
    exact h.unique h'
termination_by sizeOf tree
decreasing_by
  subst_vars
  rw [NavNode.group.sizeOf_spec]
  omega

theorem Stands.not_holds_self (h : Stands b known node tree) :
    ¬ Relation.TransGen b.Holds node node :=
  (shrinks_holds b known).not_self (fun _ _ => Stands.unique) h

/-! ## The ways to fail -/

/-- The failure of a group that contains itself. -/
def CyclicAt (b : NavBuilder) (node : Nat) (e : Failure) : Prop :=
  ∃ label children, b.slots[node]? = some (.group label children) ∧
    Relation.TransGen b.Holds node node ∧ e = .cyclicGroup label

/-- The failure of a link that leads nowhere. -/
def DanglingAt (b : NavBuilder) (known : List String) (node : Nat) (e : Failure) : Prop :=
  ∃ label target, b.slots[node]? = some (.link label target) ∧
    LinkTarget.resolve? known target = none ∧ e = .danglingLink label target

/-! ## Ways down -/

/-- A way from the top level down to a node: the groups it passes, the nearest one first, none of
them twice. -/
inductive Trail (b : NavBuilder) : List Nat → Nat → Prop
  | root {node : Nat} (h : node ∈ b.roots) : Trail b [] node
  | child {path children : List Nat} {parent node : Nat} {label : String} (h : Trail b path parent)
      (hnew : parent ∉ path) (hslot : b.slots[parent]? = some (.group label children))
      (hnode : node ∈ children) : Trail b (parent :: path) node

theorem Trail.leads {path : List Nat} (h : Trail b path node) : b.Leads node := by
  induction h with
  | root h => exact ⟨_, h, .refl⟩
  | child _ _ hslot hnode ih =>
    obtain ⟨root, hroot, hpath⟩ := ih
    exact ⟨root, hroot, hpath.tail ⟨_, _, hslot, hnode⟩⟩

theorem Trail.lt (hb : b.Wired) {path : List Nat} (h : Trail b path node) :
    node < b.slots.length := by
  cases h with
  | root h => exact hb.roots_lt node h
  | child _ _ hslot hnode => exact hb.children_lt _ _ _ hslot node hnode

/-- The groups that a way passes contain the node at its end. -/
theorem Trail.holds {path : List Nat} {n : Nat} (h : Trail b path node) (hn : n ∈ path) :
    Relation.TransGen b.Holds n node := by
  induction h with
  | root h => cases hn
  | child _ _ hslot hnode ih =>
    rcases List.mem_cons.1 hn with rfl | hn
    · exact .single ⟨_, _, hslot, hnode⟩
    · exact (ih hn).tail ⟨_, _, hslot, hnode⟩

/-- A node that a way passes is the end of its earlier part. -/
theorem Trail.suffix {path : List Nat} {n : Nat} (h : Trail b path node) (hn : n ∈ path) :
    ∃ rest, n :: rest <:+ path ∧ Trail b rest n := by
  induction h with
  | root h => cases hn
  | child h _ _ _ ih =>
    rcases List.mem_cons.1 hn with rfl | hn
    · exact ⟨_, List.suffix_refl _, h⟩
    · obtain ⟨rest, hrest, htrail⟩ := ih hn
      exact ⟨rest, hrest.trans (List.suffix_cons ..), htrail⟩

/-- The failure that a way down ends in: at a node that it has passed, or at a link that leads
nowhere. -/
inductive Fails (b : NavBuilder) (known : List String) : Failure → Prop
  | cyclic {path : List Nat} {node : Nat} {slot : NavSlot} (h : Trail b path node)
      (hon : node ∈ path) (hslot : b.slots[node]? = some slot) :
      Fails b known (.cyclicGroup slot.label)
  | dangling {path : List Nat} {node : Nat} {label target : String} (h : Trail b path node)
      (hslot : b.slots[node]? = some (.link label target))
      (hnone : LinkTarget.resolve? known target = none) :
      Fails b known (.danglingLink label target)

theorem Fails.exists_leads (h : Fails b known e) :
    ∃ node, b.Leads node ∧ (b.CyclicAt node e ∨ b.DanglingAt known node e) := by
  cases h with
  | @cyclic path node slot h hon hslot =>
    have hself := h.holds hon
    obtain ⟨label, children, hgroup⟩ := exists_group_of_transGen hself
    rw [hslot] at hgroup
    injection hgroup with hgroup
    subst hgroup
    exact ⟨node, h.leads, .inl ⟨label, children, hslot, hself, rfl⟩⟩
  | dangling h hslot hnone => exact ⟨_, h.leads, .inr ⟨_, _, hslot, hnone, rfl⟩⟩

/-! ## Unfolding -/

/-- What comes of unfolding a node. -/
def Unfolds (b : NavBuilder) (known : List String) (node : Nat) : Except Failure NavNode → Prop
  | .error e => b.Fails known e
  | .ok tree => Stands b known node tree

/-- What comes of unfolding several nodes. -/
def UnfoldsAll (b : NavBuilder) (known : List String) (nodes : List Nat) :
    Except Failure (List NavNode) → Prop
  | .error e => b.Fails known e
  | .ok trees => List.Forall₂ (Stands b known) nodes trees

mutual

theorem unfold_unfolds (hb : b.Wired) (known : List String) (path : List Nat) (node : Nat)
    (htrail : b.Trail path node) : Unfolds b known node (unfold b.slots known path node) := by
  have hnode := htrail.lt hb
  obtain ⟨slot, hslot⟩ : ∃ slot, b.slots[node]? = some slot := ⟨_, List.getElem?_eq_getElem hnode⟩
  rw [unfold]
  split
  · next hnone =>
    rw [hslot] at hnone
    cases hnone
  · next slot' hslot' =>
    rw [hslot] at hslot'
    injection hslot' with hslot'
    subst hslot'
    split
    · next hon => exact .cyclic htrail (List.contains_iff_mem.1 hon) hslot
    · next hoff =>
      cases slot with
      | link label target =>
        dsimp only
        split
        · next resolved hresolved => exact .link hslot hresolved
        · next hnone => exact .dangling htrail hslot hnone
      | group label children =>
        have hdecreasing := offPath_cons_lt hnode (eq_false_of_ne_true hoff)
        rw [List.contains_iff_mem] at hoff
        have h := unfoldAll_unfolds hb known (node :: path) children fun _ hchild =>
          .child htrail hoff hslot hchild
        dsimp only
        cases hall : unfoldAll b.slots known (node :: path) children with
        | error e =>
          rw [hall] at h
          exact h
        | ok trees =>
          rw [hall] at h
          exact .group hslot h
termination_by (offPath b.slots path, 0)

theorem unfoldAll_unfolds (hb : b.Wired) (known : List String) (path nodes : List Nat)
    (htrail : ∀ node ∈ nodes, b.Trail path node) :
    UnfoldsAll b known nodes (unfoldAll b.slots known path nodes) := by
  cases nodes with
  | nil =>
    rw [unfoldAll]
    exact .nil
  | cons node rest =>
    rw [unfoldAll]
    have hhead := unfold_unfolds hb known path node (htrail node List.mem_cons_self)
    have htail := unfoldAll_unfolds hb known path rest fun n hn =>
      htrail n (List.mem_cons_of_mem _ hn)
    cases hu : unfold b.slots known path node with
    | error e =>
      rw [hu] at hhead
      exact hhead
    | ok tree =>
      rw [hu] at hhead
      cases hus : unfoldAll b.slots known path rest with
      | error e =>
        rw [hus] at htail
        exact htail
      | ok trees =>
        rw [hus] at htail
        exact .cons hhead htail
termination_by (offPath b.slots path, nodes.length + 1)

end

/-! ## The finished sidebar -/

/-- Building ends at the end of a way down, or with the trees that the roots stand for. -/
theorem build_cases (hb : b.Wired) (known : List String) :
    (∃ e, b.build known = .error e ∧ b.Fails known e) ∨
    ∃ nav, b.build known = .ok nav ∧ List.Forall₂ (Stands b known) b.roots nav.nodes := by
  have h := unfoldAll_unfolds hb known [] b.roots fun _ => .root
  unfold build
  cases hall : unfoldAll b.slots known [] b.roots with
  | error e =>
    rw [hall] at h
    exact .inl ⟨e, rfl, h⟩
  | ok trees =>
    rw [hall] at h
    exact .inr ⟨⟨trees⟩, rfl, h⟩

/-- Where every root stands for a tree, no node below leads back to itself and every link leads
somewhere. -/
theorem sound_of_stands {trees : List NavNode}
    (h : List.Forall₂ (Stands b known) b.roots trees) (hnode : b.Leads node) :
    ¬ Relation.TransGen b.Holds node node ∧
      ∀ label target, b.slots[node]? = some (.link label target) →
        LinkTarget.resolve? known target ≠ none := by
  obtain ⟨root, hroot, hpath⟩ := hnode
  obtain ⟨tree, _, htree⟩ := forall₂_mem_left h hroot
  obtain ⟨part, hpart⟩ := (shrinks_holds b known).within htree hpath
  refine ⟨hpart.not_holds_self, fun label target hslot hnone => ?_⟩
  obtain ⟨resolved, hresolved, _⟩ := (Stands.link_iff hslot).1 hpart
  rw [hnone] at hresolved
  cases hresolved

theorem not_fails_of_stands {trees : List NavNode}
    (h : List.Forall₂ (Stands b known) b.roots trees) (e : Failure) : ¬ b.Fails known e := by
  intro hfail
  obtain ⟨node, hnode, ⟨_, _, _, hself, _⟩ | ⟨label, target, hslot, hnone, _⟩⟩ :=
    hfail.exists_leads
  · exact (sound_of_stands h hnode).1 hself
  · exact (sound_of_stands h hnode).2 label target hslot hnone

theorem build_eq_ok_iff (hb : b.Wired) {nav : Navigation} :
    b.build known = .ok nav ↔ List.Forall₂ (Stands b known) b.roots nav.nodes := by
  rcases build_cases hb known with ⟨e, he, hfail⟩ | ⟨nav', hnav', htrees⟩
  · rw [he]
    exact ⟨fun h => (by cases h), fun h => absurd hfail (not_fails_of_stands h e)⟩
  · rw [hnav']
    constructor
    · intro h
      injection h with h
      rw [← h]
      exact htrees
    · intro h
      obtain ⟨nodes⟩ := nav
      obtain ⟨nodes'⟩ := nav'
      have key : nodes' = nodes := forall₂_unique (fun _ _ _ _ h h' => h.unique h') htrees h
      rw [key]

theorem exists_build_eq_ok_iff (hb : b.Wired) :
    (∃ nav, b.build known = .ok nav) ↔
      (∀ node, b.Leads node → ¬ Relation.TransGen b.Holds node node) ∧
        ∀ node label target, b.Leads node → b.slots[node]? = some (.link label target) →
          LinkTarget.resolve? known target ≠ none := by
  constructor
  · rintro ⟨nav, hnav⟩
    have h := (build_eq_ok_iff hb).1 hnav
    exact ⟨fun node hnode => (sound_of_stands h hnode).1,
      fun node label target hnode => (sound_of_stands h hnode).2 label target⟩
  · rintro ⟨hacyclic, hlinks⟩
    rcases build_cases hb known with ⟨e, _, hfail⟩ | ⟨nav, hnav, _⟩
    · obtain ⟨node, hnode, ⟨_, _, _, hself, _⟩ | ⟨label, target, hslot, hnone, _⟩⟩ :=
        hfail.exists_leads
      · exact absurd hself (hacyclic node hnode)
      · exact absurd hnone (hlinks node label target hnode hslot)
    · exact ⟨nav, hnav⟩

theorem fails_of_build_eq_error (hb : b.Wired) (h : b.build known = .error e) :
    b.Fails known e := by
  rcases build_cases hb known with ⟨e', he, hfail⟩ | ⟨nav, hnav, _⟩
  · rw [he] at h
    injection h with h
    rw [← h]
    exact hfail
  · rw [hnav] at h
    cases h

/-! ## Documents -/

/-- The links that a visit of nodes meets, where a group is visited through its children. -/
inductive Visit (b : NavBuilder) : List Nat → List Nat → Prop
  | nil : Visit b [] []
  | link {node : Nat} {rest links : List Nat} {label target : String}
      (hslot : b.slots[node]? = some (.link label target)) (h : Visit b rest links) :
      Visit b (node :: rest) (node :: links)
  | group {node : Nat} {children rest within links : List Nat} {label : String}
      (hslot : b.slots[node]? = some (.group label children)) (hin : Visit b children within)
      (h : Visit b rest links) : Visit b (node :: rest) (within ++ links)

/-- The document that a link leads to. -/
def documentAt? (b : NavBuilder) (known : List String) (node : Nat) : Option String :=
  match b.slots[node]? with
  | some (.link _ target) =>
    match LinkTarget.resolve? known target with
    | some (.document id) => some id
    | _ => none
  | _ => none

theorem mem_of_documentAt? {id : String} (h : b.documentAt? known node = some id) : id ∈ known := by
  unfold documentAt? at h
  split at h
  · split at h
    · next hresolved =>
      injection h with h
      subst h
      unfold LinkTarget.resolve? at hresolved
      split at hresolved
      · cases hresolved
      · dsimp only at hresolved
        split at hresolved
        · next hmem =>
          injection hresolved with hresolved
          injection hresolved with hresolved
          rw [← hresolved]
          exact List.contains_iff_mem.1 hmem
        · cases hresolved
    · cases h
  · cases h

theorem toList_documentAt? {label target : String} {resolved : LinkTarget}
    (hslot : b.slots[node]? = some (.link label target))
    (h : LinkTarget.resolve? known target = some resolved) :
    (b.documentAt? known node).toList = (NavNode.link label resolved).documentIds := by
  unfold documentAt?
  rw [hslot]
  dsimp only
  rw [h]
  cases resolved with
  | document id =>
    rw [NavNode.documentIds]
    rfl
  | external url =>
    rw [NavNode.documentIds]
    rfl

/-- The documents in the trees of nodes are those of the links that a visit of the nodes meets. -/
theorem exists_visit {nodes : List Nat} {trees : List NavNode}
    (h : List.Forall₂ (Stands b known) nodes trees) :
    ∃ links, b.Visit nodes links ∧ NavNode.idsOf trees = links.filterMap (b.documentAt? known) := by
  cases h with
  | nil => exact ⟨[], .nil, by rw [NavNode.idsOf]; rfl⟩
  | @cons node tree nodes trees hnode hnodes =>
    obtain ⟨links, hvisit, hids⟩ := exists_visit hnodes
    cases hnode with
    | link hslot hresolved =>
      refine ⟨node :: links, .link hslot hvisit, ?_⟩
      rw [NavNode.idsOf, hids, ← toList_documentAt? hslot hresolved]
      cases hdoc : b.documentAt? known node with
      | none => rw [List.filterMap_cons_none hdoc]; rfl
      | some id => rw [List.filterMap_cons_some hdoc]; rfl
    | group hslot hchildren =>
      obtain ⟨within, hwithin, hinner⟩ := exists_visit hchildren
      refine ⟨within ++ links, .group hslot hwithin hvisit, ?_⟩
      rw [NavNode.idsOf, NavNode.documentIds, hinner, hids, List.filterMap_append]
termination_by sizeOf trees
decreasing_by
  all_goals
    subst_vars
    simp only [List.cons.sizeOf_spec, NavNode.group.sizeOf_spec]
    omega

/-- Building after any sequence of calls. Nodes, children and roots are those of the calls that
succeeded, in their order. The sidebar comes out unless a root leads to a group that contains itself
or to a link that leads nowhere, and then holds the trees that the roots stand for; its documents
are known, and are those of the links in the order of a visit. Every failure is that of a node that
a root leads to. -/
theorem build_ofCalls (calls : List NavCall) (known : List String) :
    MadeBy (empty.succeeding calls) (ofCalls calls) ∧
    (∀ node, (ofCalls calls).build known ≠ .error (.validation (.unknownNode node))) ∧
    ((∃ nav, (ofCalls calls).build known = .ok nav) ↔
      (∀ node, (ofCalls calls).Leads node → ¬ Relation.TransGen (ofCalls calls).Holds node node) ∧
        ∀ node label target, (ofCalls calls).Leads node →
          (ofCalls calls).slots[node]? = some (.link label target) →
          LinkTarget.resolve? known target ≠ none) ∧
    (∀ nav, (ofCalls calls).build known = .ok nav ↔
      List.Forall₂ (Stands (ofCalls calls) known) (ofCalls calls).roots nav.nodes) ∧
    (∀ nav, (ofCalls calls).build known = .ok nav →
      (∃ links, (ofCalls calls).Visit (ofCalls calls).roots links ∧
        nav.documentIds = links.filterMap ((ofCalls calls).documentAt? known)) ∧
      ∀ id ∈ nav.documentIds, id ∈ known) ∧
    ∀ e, (ofCalls calls).build known = .error e → ∃ node, (ofCalls calls).Leads node ∧
      ((ofCalls calls).CyclicAt node e ∨ (ofCalls calls).DanglingAt known node e) := by
  have hb := wired_ofCalls calls
  refine ⟨madeBy_ofCalls calls, fun node h => ?_, exists_build_eq_ok_iff hb,
    fun nav => build_eq_ok_iff hb, fun nav h => ?_,
    fun e h => (fails_of_build_eq_error hb h).exists_leads⟩
  · cases fails_of_build_eq_error hb h
  · obtain ⟨links, hvisit, hids⟩ := exists_visit ((build_eq_ok_iff hb).1 h)
    refine ⟨⟨links, hvisit, hids⟩, fun id hid => ?_⟩
    rw [Navigation.documentIds, hids, List.mem_filterMap] at hid
    obtain ⟨node, _, hnode⟩ := hid
    exact mem_of_documentAt? hnode

end DocCorpus.NavBuilder
