/-
  The sidebar. A builder holds numbered nodes, links and groups, wired by number, so that a group
  may stand in several places; `build` unfolds it into trees. A group that contains itself and a
  link that leads nowhere are failures.
-/
import DocCorpus.Failure
import DocCorpus.LinkTarget
import DocCorpus.Tree

namespace DocCorpus

/-! ## Trees -/

/-- A node of the finished sidebar. -/
inductive NavNode
  | link (label : String) (target : LinkTarget)
  | group (label : String) (children : List NavNode)

namespace NavNode

def label : NavNode → String
  | .link label _ | .group label _ => label

mutual

/-- The documents that a node leads to, in visiting order. -/
def documentIds : NavNode → List String
  | .link _ (.document id) => [id]
  | .link _ (.external _) => []
  | .group _ children => idsOf children

def idsOf : List NavNode → List String
  | [] => []
  | node :: rest => node.documentIds ++ idsOf rest

end

def indent (level : Nat) : String := String.ofList (List.replicate (2 * level) ' ')

mutual

/-- The outline of a node, one line for each link and group. -/
def outline (level : Nat) : NavNode → String
  | .link label target => indent level ++ "- " ++ label ++ " -> " ++ target.outline ++ "\n"
  | .group label children => indent level ++ "+ " ++ label ++ "\n" ++ outlineOf (level + 1) children

def outlineOf (level : Nat) : List NavNode → String
  | [] => ""
  | node :: rest => node.outline level ++ outlineOf level rest

end

mutual

def toTree : NavNode → Tree
  | .link label target =>
    let (kind, value) :=
      match target with
      | .document id => ("document", id)
      | .external url => ("external", url)
    .table [("type", .text "link"), ("label", .text label),
      ("target", .table [("kind", .text kind), ("value", .text value)])]
  | .group label children =>
    .table [("type", .text "group"), ("label", .text label), ("children", .list (treesOf children))]

def treesOf : List NavNode → List Tree
  | [] => []
  | node :: rest => node.toTree :: treesOf rest

end

end NavNode

/-- The finished sidebar. -/
structure Navigation where
  nodes : List NavNode

namespace Navigation

def isEmpty (n : Navigation) : Bool := n.nodes.isEmpty

def documentIds (n : Navigation) : List String := NavNode.idsOf n.nodes

def outline (n : Navigation) : String := NavNode.outlineOf 0 n.nodes

def toTree (n : Navigation) : Tree := .list (NavNode.treesOf n.nodes)

end Navigation

/-! ## Building -/

/-- A node of the builder; a group holds the numbers of its children. -/
inductive NavSlot
  | link (label target : String)
  | group (label : String) (children : List Nat)

def NavSlot.label : NavSlot → String
  | .link label _ | .group label _ => label

structure NavBuilder where
  slots : List NavSlot
  roots : List Nat

namespace NavBuilder

def empty : NavBuilder := ⟨[], []⟩

/-- The builder with one more node, and the number of that node. -/
def add (b : NavBuilder) (slot : NavSlot) : Nat × NavBuilder :=
  (b.slots.length, { b with slots := b.slots ++ [slot] })

def link (b : NavBuilder) (label target : String) : Nat × NavBuilder := b.add (.link label target)

/-- Adds a group without children. -/
def group (b : NavBuilder) (label : String) : Nat × NavBuilder := b.add (.group label [])

def check (b : NavBuilder) (node : Nat) : Except Failure Unit :=
  if node < b.slots.length then .ok () else .error (.validation (.unknownNode node))

/-- Puts a node at the end of a group. -/
def attach (b : NavBuilder) (parent child : Nat) : Except Failure NavBuilder := do
  b.check child
  match b.slots[parent]? with
  | some (.group label children) =>
    .ok { b with slots := b.slots.set parent (.group label (children ++ [child])) }
  | some (.link label _) => .error (.validation (.linkWithChildren label))
  | none => .error (.validation (.unknownNode parent))

/-- Puts a node at the end of the top level. -/
def root (b : NavBuilder) (node : Nat) : Except Failure NavBuilder := do
  b.check node
  return { b with roots := b.roots ++ [node] }

/-! ### Unfolding -/

/-- How many nodes are not on a path. -/
def offPath (slots : List NavSlot) (path : List Nat) : Nat :=
  (List.range slots.length).countP fun n => !path.contains n

theorem offPath_cons_lt {slots : List NavSlot} {path : List Nat} {node : Nat}
    (hslot : node < slots.length) (hpath : path.contains node = false) :
    offPath slots (node :: path) < offPath slots path := by
  simp only [offPath, List.contains_cons]
  have key : ∀ l : List Nat,
      l.countP (fun n => !(n == node || path.contains n)) + l.countP (fun n => n == node)
        = l.countP fun n => !path.contains n := by
    intro l
    induction l with
    | nil => rfl
    | cons m l ih =>
      simp only [List.countP_cons]
      by_cases hm : m = node
      · subst hm
        simp only [beq_self_eq_true, Bool.true_or, Bool.not_true, hpath, Bool.not_false]
        simp at ih ⊢
        omega
      · have hne : (m == node) = false := by simpa using hm
        simp only [hne, Bool.false_or]
        simp at ih ⊢
        omega
  have hpos : 0 < (List.range slots.length).countP fun n => n == node :=
    List.countP_pos_iff.2 ⟨node, List.mem_range.2 hslot, by simp⟩
  have := key (List.range slots.length)
  omega

mutual

/-- The tree of a node, where `path` holds the groups that it stands in. -/
def unfold (slots : List NavSlot) (known : List String) (path : List Nat) (node : Nat) :
    Except Failure NavNode :=
  match _hs : slots[node]? with
  | none => .error (.validation (.unknownNode node))
  | some slot =>
    if _hp : path.contains node then .error (.cyclicGroup slot.label)
    else
      match slot with
      | .link label target =>
        match LinkTarget.resolve? known target with
        | some resolved => .ok (.link label resolved)
        | none => .error (.danglingLink label target)
      | .group label children =>
        (unfoldAll slots known (node :: path) children).map (NavNode.group label)
termination_by (offPath slots path, 0)
decreasing_by
  exact .left _ _ (offPath_cons_lt (List.getElem?_eq_some_iff.1 _hs).1 (by simpa using _hp))

/-- The trees of several nodes. -/
def unfoldAll (slots : List NavSlot) (known : List String) (path : List Nat) :
    List Nat → Except Failure (List NavNode)
  | [] => .ok []
  | node :: rest => do
    let head ← unfold slots known path node
    let tail ← unfoldAll slots known path rest
    return head :: tail
termination_by nodes => (offPath slots path, nodes.length + 1)
decreasing_by
  · exact .right _ (by omega)
  · exact .right _ (by simp)

end

/-- The finished sidebar over a collection with the identifiers `known`. -/
def build (b : NavBuilder) (known : List String) : Except Failure Navigation :=
  (unfoldAll b.slots known [] b.roots).map Navigation.mk

end NavBuilder
end DocCorpus
