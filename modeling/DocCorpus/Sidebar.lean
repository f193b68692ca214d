/-
  The declared sidebar as a builder. Every reference to a named group stands for one and the same
  node, which is made when the name is first met, before the items of the group; a name that no
  group has is a failure.
-/
import DocCorpus.Configuration
import DocCorpus.Navigation

namespace DocCorpus.Sidebar

/-- The group of a name and the other groups. -/
def take? (name : String) : List (String × SidebarGroup) →
    Option (SidebarGroup × List (String × SidebarGroup))
  | [] => none
  | (n, group) :: rest =>
    if n = name then some (group, rest)
    else (take? name rest).map fun (found, others) => (found, (n, group) :: others)

theorem length_of_take? {name : String} {groups others : List (String × SidebarGroup)}
    {group : SidebarGroup} (h : take? name groups = some (group, others)) :
    others.length + 1 = groups.length := by
  induction groups generalizing others with
  | nil => simp [take?] at h
  | cons g groups ih =>
    obtain ⟨n, g⟩ := g
    simp only [take?] at h
    split at h
    · simp at h
      simp [h]
    · cases hr : take? name groups with
      | none => simp [hr] at h
      | some found =>
        obtain ⟨g', others'⟩ := found
        simp only [hr, Option.map_some, Option.some.injEq, Prod.mk.injEq] at h
        obtain ⟨rfl, rfl⟩ := h
        simp [ih hr]

/-- A builder in the making, and the nodes of the named groups met so far. -/
structure Draft where
  builder : NavBuilder
  named : List (String × Nat)

mutual

/-- Adds the node of a declared item; `groups` holds the named groups that are not met yet, and
may hold groups that are. -/
def lower (groups : List (String × SidebarGroup)) (d : Draft) :
    SidebarItem → Except Failure (Nat × Draft)
  | .link label target =>
    let (node, builder) := d.builder.link label target
    .ok (node, { d with builder })
  | .group label items => do
    let (node, builder) := d.builder.group label
    let d ← lowerItems groups { d with builder } node items
    return (node, d)
  | .reference name =>
    match d.named.lookup name with
    | some node => .ok (node, d)
    | none =>
      match _h : take? name groups with
      | none => .error (.validation (.unknownGroup name))
      | some (group, others) => do
        let (node, builder) := d.builder.group group.label
        let d ← lowerItems others ⟨builder, (name, node) :: d.named⟩ node group.items
        return (node, d)
termination_by item => (groups.length, sizeOf item)
decreasing_by
  · exact .right _ (by simp only [SidebarItem.group.sizeOf_spec]; omega)
  · exact .left _ _ (by have := length_of_take? _h; omega)

/-- Adds the nodes of declared items to a group. -/
def lowerItems (groups : List (String × SidebarGroup)) (d : Draft) (parent : Nat) :
    List SidebarItem → Except Failure Draft
  | [] => .ok d
  | item :: rest => do
    let (node, d) ← lower groups d item
    let builder ← d.builder.attach parent node
    lowerItems groups { d with builder } parent rest
termination_by items => (groups.length, sizeOf items)
decreasing_by
  · exact .right _ (by simp only [List.cons.sizeOf_spec]; omega)
  · exact .right _ (by simp only [List.cons.sizeOf_spec]; omega)

end

/-- Adds the nodes of declared items to the top level. -/
def lowerRoots (groups : List (String × SidebarGroup)) (d : Draft) :
    List SidebarItem → Except Failure Draft
  | [] => .ok d
  | item :: rest => do
    let (node, d) ← lower groups d item
    let builder ← d.builder.root node
    lowerRoots groups { d with builder } rest

end DocCorpus.Sidebar

namespace DocCorpus.Navigation

/-- The sidebar of declared items and named groups over a collection with the identifiers
`known`. -/
def ofDeclaration (items : List SidebarItem) (groups : Table SidebarGroup) (known : List String) :
    Except Failure Navigation := do
  let draft ← Sidebar.lowerRoots groups.entries ⟨.empty, []⟩ items
  draft.builder.build known

end DocCorpus.Navigation
