/-
  Metadata read from YAML text. An alias is read as the node it names, so the reading is bounded:
  collections nest at most `depthBound` deep, and there are at most `aliasRatio` times as many
  aliases followed as the text has nodes.
-/
import DocCorpus.Metadata
import DocCorpus.Yaml.Layout
import DocCorpus.Yaml.Node
import DocCorpus.Yaml.Resolution

namespace DocCorpus.Yaml

mutual

/-- The number of starts and ends of nodes. -/
def Node.size : Node → Nat
  | .sequence _ items => itemsSize items + 2
  | .mapping _ members => membersSize members + 2
  | .broken => 0
  | _ => 1

def Node.itemsSize : List Node → Nat
  | [] => 0
  | item :: rest => item.size + itemsSize rest

def Node.membersSize : List (Node × Node) → Nat
  | [] => 0
  | (key, value) :: rest => key.size + value.size + membersSize rest

end

namespace MetadataReading

/-- How deep collections nest at most. -/
def depthBound : Nat := 128

def aliasRatio : Nat := 100

/-- A reading that may still follow some number of aliases. -/
abbrev Reading := StateT Nat (Except FormatFault)

def refuse {α : Type} (fault : ShapeFault) : Reading α := throw (.shape fault)

/-- The node itself or the one that it names. -/
def follow (s : Stream) : Node → Reading Node
  | .aliasOf number => do
    match ← get with
    | 0 => throw .malformed
    | left + 1 =>
      set left
      match s.anchored? number with
      | some node => return node
      | none => throw .malformed
  | node => return node

/-- The text of a key, whatever its tag. -/
def keyText (s : Stream) (key : Node) : Reading String := do
  match ← follow s key with
  | .scalar _ _ text => return text
  | .sequence .. => refuse (.wrongType .sequence "a string")
  | .mapping .. => refuse (.wrongType .map "a string")
  | .aliasOf _ | .broken => throw .malformed

def scalar (tag : Option String) (plain : Bool) (text : String) : Reading MetaValue :=
  match Scalar.value tag plain text with
  | .error expected => refuse (.wrongValue (.text text) expected)
  | .ok value =>
    match value with
    | .null => return .null
    | .boolean b => return .boolean b
    | .integer n =>
      if -(Nat.pow 2 63) ≤ n ∧ n < Nat.pow 2 63 then return .integer (.ofInt n)
      else if 0 ≤ n ∧ n < Nat.pow 2 64 then return .float (.ofInt n)
      else refuse (.wrongType (Scalar.found text value) "a frontmatter value")
    | .float x => return .float x
    | .text => return .text text

/-- A tag of the text's own making is no value. -/
def refuseLocal (tag : Option String) : Reading Unit :=
  if tag.any Scalar.isLocal then refuse (.wrongType .tagged "a frontmatter value") else return ()

mutual

/-- The value of a node with at most `depth` collections inside each other. -/
def value (s : Stream) (depth : Nat) (node : Node) : Reading MetaValue := do
  match ← follow s node with
  | .scalar tag plain text =>
    refuseLocal tag
    scalar tag plain text
  | .sequence tag items =>
    refuseLocal tag
    match depth with
    | 0 => throw .malformed
    | depth + 1 => return .list (← values s depth items)
  | .mapping tag members =>
    refuseLocal tag
    match depth with
    | 0 => throw .malformed
    | depth + 1 => return .map (← entries s depth [] members)
  | .aliasOf _ | .broken => throw .malformed
termination_by (depth, 0)

def values (s : Stream) (depth : Nat) : List Node → Reading (List MetaValue)
  | [] => return []
  | item :: rest => do
    let head ← value s depth item
    let tail ← values s depth rest
    return head :: tail
termination_by items => (depth, items.length + 1)

/-- The entries of a mapping after those of some keys. A repeated key is refused once its value is
read. -/
def entries (s : Stream) (depth : Nat) (before : List String) :
    List (Node × Node) → Reading (List (String × MetaValue))
  | [] => return []
  | (key, node) :: rest => do
    let key ← keyText s key
    let head ← value s depth node
    if before.contains key then refuse (.repeatedKey key)
    else
      let tail ← entries s depth (key :: before) rest
      return (key, head) :: tail
termination_by members => (depth, members.length + 1)

end

/-- The metadata of a root: a mapping, or nothing. -/
def root (s : Stream) : Option Node → Reading Metadata
  | none => return .empty
  | some node => do
    match ← follow s node with
    | .mapping _ members => return ⟨← entries s (depthBound - 1) [] members⟩
    | .scalar tag plain text =>
      match Scalar.value tag plain text with
      | .error expected => refuse (.wrongValue (.text text) expected)
      | .ok .null => return .empty
      | .ok value => refuse (.wrongType (Scalar.found text value) "a mapping with string keys")
    | .sequence .. => refuse (.wrongType .sequence "a mapping with string keys")
    | .aliasOf _ | .broken => throw .malformed

end MetadataReading

/-- The metadata that a text stands for. Of several faults the first in the text counts; a second
document is one after all of the first. -/
def readMetadata (text : String) : Except FormatFault Metadata := do
  let s := Stream.ofTokens (Token.all text.toList)
  let aliases := MetadataReading.aliasRatio * s.root.elim 0 Node.size
  let (data, _) ← (MetadataReading.root s s.root).run aliases
  if s.intact then return data else throw .malformed

end DocCorpus.Yaml
