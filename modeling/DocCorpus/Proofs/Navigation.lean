/-
  Declared sidebars come out as substitution has them. The finished sidebar holds the trees that
  the declared items stand for; there is none exactly if a name has no group, a named group holds
  itself or a link leads nowhere, and the failure names one of these (`ofDeclaration_substitutes`).
-/
import DocCorpus.Proofs.Sidebar.Unfolding

namespace DocCorpus.Navigation

open Sidebar

variable {items : List SidebarItem} {groups : Table SidebarGroup} {known : List String}

/-! ## Sidebars that stand for trees -/

/-- Whatever a sidebar of items with trees leads to has a tree as well. -/
theorem exists_substituted {trees : List NavNode}
    (h : List.Forall₂ (Substituted groups known) items trees) {item : SidebarItem}
    (hitem : Reachable groups items item) : ∃ tree, Substituted groups known item tree := by
  obtain ⟨top, htop, hpath⟩ := hitem
  obtain ⟨tree, _, htree⟩ := forall₂_mem_left h htop
  exact (shrinks_contains groups known).within htree hpath

theorem declared_of_substituted {trees : List NavNode}
    (h : List.Forall₂ (Substituted groups known) items trees) {name : String}
    (hname : Reachable groups items (.reference name)) : groups.get? name ≠ none := by
  obtain ⟨tree, htree⟩ := exists_substituted h hname
  cases htree with
  | reference hget _ =>
    rw [hget]
    exact Option.some_ne_none _

theorem not_selfReferring_of_substituted {trees : List NavNode}
    (h : List.Forall₂ (Substituted groups known) items trees) {name : String}
    (hname : Reachable groups items (.reference name)) : ¬ SelfReferring groups name := by
  obtain ⟨tree, htree⟩ := exists_substituted h hname
  exact htree.not_contains_self

theorem resolves_of_substituted {trees : List NavNode}
    (h : List.Forall₂ (Substituted groups known) items trees) {label target : String}
    (hlink : Reachable groups items (.link label target)) :
    LinkTarget.resolve? known target ≠ none := by
  obtain ⟨tree, htree⟩ := exists_substituted h hlink
  cases htree with
  | link hresolved =>
    rw [hresolved]
    exact Option.some_ne_none _

/-! ## The outcomes of a declaration -/

/-- A declaration fails over a name without a group; or every name has one, and it fails over a
cycle or a link, or holds the trees of its items. -/
theorem ofDeclaration_cases (items : List SidebarItem) (groups : Table SidebarGroup)
    (known : List String) :
    (∃ e, ofDeclaration items groups known = .error e ∧
      ∃ item ∈ items, Undeclared groups item e) ∨
    (∀ name, Reachable groups items (.reference name) → groups.get? name ≠ none) ∧
      ((∃ e, ofDeclaration items groups known = .error e ∧ Broken groups known items e) ∨
      ∃ nav, ofDeclaration items groups known = .ok nav ∧
        List.Forall₂ (Substituted groups known) items nav.nodes) := by
  obtain ⟨herror, hok⟩ := lowerRoots_drawn items (Drawn.start) (left_entries groups)
  unfold ofDeclaration
  cases hlower : lowerRoots groups.entries ⟨.empty, []⟩ items with
  | error e => exact .inl ⟨e, rfl, herror e hlower⟩
  | ok d =>
    obtain ⟨origins, hd⟩ := hok d hlower
    rw [List.nil_append] at hd
    right
    refine ⟨fun name hname => ?_, ?_⟩
    · obtain ⟨parent, node, hnode⟩ := hd.exists_node hname
      exact hd.declared hnode
    · rw [Outcome.ok_bind]
      rcases NavBuilder.build_cases hd.wired known with ⟨e, he, hfail⟩ | ⟨nav, hnav, htrees⟩
      · exact .inl ⟨e, he, hd.broken hfail⟩
      · exact .inr ⟨nav, hnav, hd.substitutedAll htrees hd.roots⟩

theorem undeclared_of_mem {e : Failure} (h : ∃ item ∈ items, Undeclared groups item e) :
    ∃ name, Reachable groups items (.reference name) ∧ groups.get? name = none ∧
      e = .validation (.unknownGroup name) := by
  obtain ⟨item, hitem, name, hpath, hname, he⟩ := h
  exact ⟨name, ⟨item, hitem, hpath⟩, hname, he⟩

theorem validation_iff :
    (∃ v, ofDeclaration items groups known = .error (.validation v)) ↔
      ∃ name, Reachable groups items (.reference name) ∧ groups.get? name = none := by
  rcases ofDeclaration_cases items groups known with ⟨e, he, hundeclared⟩ | ⟨hdeclared, hrest⟩
  · obtain ⟨name, hname, hget, rfl⟩ := undeclared_of_mem hundeclared
    rw [he]
    exact ⟨fun _ => ⟨name, hname, hget⟩, fun _ => ⟨_, rfl⟩⟩
  · constructor
    · rintro ⟨v, hv⟩
      rcases hrest with ⟨e, he, hfail⟩ | ⟨nav, hnav, _⟩
      · rw [he] at hv
        injection hv with hv
        subst hv
        cases hfail
      · rw [hnav] at hv
        cases hv
    · rintro ⟨name, hname, hget⟩
      exact absurd hget (hdeclared name hname)

/-- A sidebar of items with trees is one where no failure has a cause. -/
theorem not_broken_of_substituted {trees : List NavNode}
    (h : List.Forall₂ (Substituted groups known) items trees) (e : Failure) :
    ¬ Broken groups known items e := by
  intro hfail
  cases hfail with
  | cyclic hname _ hself => exact not_selfReferring_of_substituted h hname hself
  | dangling hlink hnone => exact resolves_of_substituted h hlink hnone

theorem ok_iff_substituted {nav : Navigation} :
    ofDeclaration items groups known = .ok nav ↔
      List.Forall₂ (Substituted groups known) items nav.nodes := by
  rcases ofDeclaration_cases items groups known with
    ⟨e, he, hundeclared⟩ | ⟨_, ⟨e, he, hfail⟩ | ⟨nav', hnav', htrees⟩⟩
  · rw [he]
    refine ⟨fun h => (by cases h), fun h => ?_⟩
    obtain ⟨name, hname, hget, _⟩ := undeclared_of_mem hundeclared
    exact absurd hget (declared_of_substituted h hname)
  · rw [he]
    exact ⟨fun h => (by cases h), fun h => absurd hfail (not_broken_of_substituted h e)⟩
  · rw [hnav']
    constructor
    · intro h
      injection h with h
      rw [← h]
      exact htrees
    · intro h
      obtain ⟨nodes⟩ := nav
      obtain ⟨nodes'⟩ := nav'
      have key : nodes' = nodes := forall₂_unique (fun _ _ _ _ h h' => h.unique h') htrees h
      rw [key]

theorem exists_ok_iff
    (hdeclared : ∀ name, Reachable groups items (.reference name) → groups.get? name ≠ none) :
    (∃ nav, ofDeclaration items groups known = .ok nav) ↔
      (∀ name, Reachable groups items (.reference name) → ¬ SelfReferring groups name) ∧
        ∀ label target, Reachable groups items (.link label target) →
          LinkTarget.resolve? known target ≠ none := by
  constructor
  · rintro ⟨nav, hnav⟩
    have h := ok_iff_substituted.1 hnav
    exact ⟨fun name => not_selfReferring_of_substituted h, fun _ _ => resolves_of_substituted h⟩
  · rintro ⟨hself, hlinks⟩
    rcases ofDeclaration_cases items groups known with
      ⟨e, _, hundeclared⟩ | ⟨_, ⟨e, _, hfail⟩ | ⟨nav, hnav, _⟩⟩
    · obtain ⟨name, hname, hget, _⟩ := undeclared_of_mem hundeclared
      exact absurd hget (hdeclared name hname)
    · cases hfail with
      | cyclic hname _ hrefers => exact absurd hrefers (hself _ hname)
      | dangling hlink hnone => exact absurd hnone (hlinks _ _ hlink)
    · exact ⟨nav, hnav⟩

theorem error_cases {e : Failure} (h : ofDeclaration items groups known = .error e) :
    (∃ name, Reachable groups items (.reference name) ∧ groups.get? name = none ∧
      e = .validation (.unknownGroup name)) ∨
    (∃ name group, Reachable groups items (.reference name) ∧ groups.get? name = some group ∧
      SelfReferring groups name ∧ e = .cyclicGroup group.label) ∨
    ∃ label target, Reachable groups items (.link label target) ∧
      LinkTarget.resolve? known target = none ∧ e = .danglingLink label target := by
  rcases ofDeclaration_cases items groups known with
    ⟨e', he, hundeclared⟩ | ⟨_, ⟨e', he, hfail⟩ | ⟨nav, hnav, _⟩⟩
  · rw [he] at h
    injection h with h
    subst h
    exact .inl (undeclared_of_mem hundeclared)
  · rw [he] at h
    injection h with h
    subst h
    cases hfail with
    | cyclic hname hget hself => exact .inr (.inl ⟨_, _, hname, hget, hself, rfl⟩)
    | dangling hlink hnone => exact .inr (.inr ⟨_, _, hlink, hnone, rfl⟩)
  · rw [hnav] at h
    cases h

/-- Lowering and unfolding a declared sidebar is substitution. A name without a group that the
sidebar leads to is a validation failure, whatever else is wrong; else the sidebar comes out unless
a named group refers to itself or a link leads nowhere, and holds the trees that its items stand
for. Every failure names its cause. -/
theorem ofDeclaration_substitutes (items : List SidebarItem) (groups : Table SidebarGroup)
    (known : List String) :
    ((∃ v, ofDeclaration items groups known = .error (.validation v)) ↔
      ∃ name, Reachable groups items (.reference name) ∧ groups.get? name = none) ∧
    ((∀ name, Reachable groups items (.reference name) → groups.get? name ≠ none) →
      ((∃ nav, ofDeclaration items groups known = .ok nav) ↔
        (∀ name, Reachable groups items (.reference name) → ¬ SelfReferring groups name) ∧
          ∀ label target, Reachable groups items (.link label target) →
            LinkTarget.resolve? known target ≠ none)) ∧
    (∀ nav, ofDeclaration items groups known = .ok nav ↔
      List.Forall₂ (Substituted groups known) items nav.nodes) ∧
    ∀ e, ofDeclaration items groups known = .error e →
      (∃ name, Reachable groups items (.reference name) ∧ groups.get? name = none ∧
        e = .validation (.unknownGroup name)) ∨
      (∃ name group, Reachable groups items (.reference name) ∧ groups.get? name = some group ∧
        SelfReferring groups name ∧ e = .cyclicGroup group.label) ∨
      ∃ label target, Reachable groups items (.link label target) ∧
        LinkTarget.resolve? known target = none ∧ e = .danglingLink label target :=
  ⟨validation_iff, exists_ok_iff, fun _ => ok_iff_substituted, fun _ => error_cases⟩

/-- A group referred to in two places stands in both. -/
theorem ofDeclaration_substitutes_shared :
    ofDeclaration [.reference "guides", .group "Start" [.reference "guides"]]
      (Table.empty.insert "guides" ⟨"Guides", [.link "Intro" "/intro/"]⟩) ["intro"] =
      .ok ⟨[.group "Guides" [.link "Intro" (.document "intro")],
        .group "Start" [.group "Guides" [.link "Intro" (.document "intro")]]]⟩ := by
  have hlink : LinkTarget.resolve? ["intro"] "/intro/" = some (.document "intro") := by rfl
  have hguides : Substituted
      (Table.empty.insert "guides" ⟨"Guides", [.link "Intro" "/intro/"]⟩) ["intro"]
      (.reference "guides") (.group "Guides" [.link "Intro" (.document "intro")]) :=
    .reference rfl (.group (.cons (.link hlink) .nil))
  refine ((ofDeclaration_substitutes _ _ _).2.2.1 _).2 ?_
  exact .cons hguides (.cons (.group (.cons hguides .nil)) .nil)

end DocCorpus.Navigation
