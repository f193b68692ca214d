/-
  YAML nodes composed of tokens. A node ends in `broken` where the tokens stop making sense, so
  that what precedes the place can still be read. Anchored nodes are kept apart by number; an
  alias holds the number of its node.
-/
import DocCorpus.Yaml.Token

namespace DocCorpus.Yaml

inductive Node
  | scalar (tag : Option String) (plain : Bool) (text : String)
  | sequence (tag : Option String) (items : List Node)
  | mapping (tag : Option String) (members : List (Node × Node))
  | aliasOf (number : Nat)
  | broken
  deriving Inhabited

/-- A node with an anchor. -/
structure Anchored where
  number : Nat
  /-- How many anchors precede its own. -/
  order : Nat
  node : Node

/-- How far the tokens are composed. -/
structure Composer where
  tokens : List Token
  /-- The handles of tags and what they stand for. -/
  shorthands : List (String × String)
  /-- The anchor names in use, with their numbers. -/
  names : List (String × Nat)
  anchors : Nat
  anchored : List Anchored

abbrev Composing := StateM Composer

namespace Composing

/-- The next token; none where the tokens stop. -/
def peek? : Composing (Option Token) := fun c => (c.tokens.head?, c)

def skip : Composing Unit := modify fun c => { c with tokens := c.tokens.tail }

/-- Gives up: no token follows. -/
def stop {α : Type} (result : α) : Composing α := fun c => (result, { c with tokens := [] })

/-- A node that is left out. -/
def omitted : Node := .scalar none true ""

/-! ## Anchors and tags -/

/-- The anchor and the tag in front of a node, in either order. -/
def marks : Composing (Option String × Option (String × String)) := fun c =>
  match c.tokens with
  | .anchor name :: .tag handle suffix :: rest =>
    ((some name, some (handle, suffix)), { c with tokens := rest })
  | .tag handle suffix :: .anchor name :: rest =>
    ((some name, some (handle, suffix)), { c with tokens := rest })
  | .anchor name :: rest => ((some name, none), { c with tokens := rest })
  | .tag handle suffix :: rest => ((none, some (handle, suffix)), { c with tokens := rest })
  | _ => ((none, none), c)

/-- The whole text of a tag; none inside for a node without one, none for a handle that stands
for nothing. -/
def tagText? (tag : Option (String × String)) : Composing (Option (Option String)) := fun c =>
  match tag with
  | none => (some none, c)
  | some ("", suffix) => (some (some suffix), c)
  | some (handle, suffix) =>
    ((c.shorthands.lookup handle).map fun start => some (start ++ suffix), c)

/-- Numbers an anchor by how many names are in use before it. Using a name again does not make
them more, so the next name takes the same number, and aliases of both mean the later node. -/
def enterAnchor (name : String) : Composing (Nat × Nat) := fun c =>
  let number := c.names.length
  let names := (name, number) :: c.names.filter (·.1 ≠ name)
  ((number, c.anchors), { c with names, anchors := c.anchors + 1 })

/-- Composes a node under an anchor, if there is one. -/
def anchored (anchor : Option String) (node : Composing Node) : Composing Node :=
  match anchor with
  | none => node
  | some name => do
    let (number, order) ← enterAnchor name
    let node ← node
    modify fun c => { c with anchored := ⟨number, order, node⟩ :: c.anchored }
    return node

def nodeOfAlias (name : String) : Composing Node := do
  match (← get).names.lookup name with
  | some number => return .aliasOf number
  | none => stop .broken

/-! ## Nodes -/

/-- Where a node stands, which decides the tokens before which it is left out. -/
inductive Site
  | blockItem
  | indentlessItem
  | blockMember
  | flowItem
  | flowMember
  deriving DecidableEq

/-- Whether a token means that the node before it is left out. -/
def Site.omits (s : Site) (t : Token) : Bool :=
  match s, t with
  | .blockItem, .blockEntry | .blockItem, .blockEnd => true
  | .indentlessItem, .blockEntry | .indentlessItem, .key => true
  | .indentlessItem, .value | .indentlessItem, .blockEnd => true
  | .blockMember, .key | .blockMember, .value | .blockMember, .blockEnd => true
  | .flowItem, .flowEntry | .flowItem, .flowSequenceEnd => true
  | .flowMember, .flowEntry | .flowMember, .flowMappingEnd => true
  | _, _ => false

mutual

/-- A node. Only in block style may it be a block collection, and only as the value or the key of
a block mapping a sequence that is not indented. -/
def node (block indentless : Bool) : Nat → Composing Node
  | 0 => stop .broken
  | fuel + 1 => do
    match ← peek? with
    | some (.aliasOf name) =>
      skip
      nodeOfAlias name
    | _ =>
      let (anchor, tag) ← marks
      let some tag ← tagText? tag | stop .broken
      match ← peek? with
      | some .blockEntry =>
        if indentless then
          anchored anchor (return .sequence tag (← indentlessItems fuel))
        else if anchor.isSome ∨ tag.isSome then anchored anchor (return .scalar tag true "")
        else stop .broken
      | some (.scalar plain text) =>
        skip
        anchored anchor (return .scalar tag plain text)
      | some .flowSequence =>
        skip
        anchored anchor (return .sequence tag (← flowItems fuel true))
      | some .flowMapping =>
        skip
        anchored anchor (return .mapping tag (← flowMembers fuel true))
      | some token =>
        if block ∧ token = .blockSequence then do
          skip
          anchored anchor (return .sequence tag (← blockItems fuel))
        else if block ∧ token = .blockMapping then do
          skip
          anchored anchor (return .mapping tag (← blockMembers fuel))
        else if anchor.isSome ∨ tag.isSome then anchored anchor (return .scalar tag true "")
        else stop .broken
      | none => stop .broken

/-- A node that is left out before some tokens. -/
def nodeAt (site : Site) : Nat → Composing Node
  | 0 => stop .broken
  | fuel + 1 => do
    match ← peek? with
    | none => return .broken
    | some token =>
      if site.omits token then return omitted
      else
        match site with
        | .blockItem | .indentlessItem => node true false fuel
        | .blockMember => node true true fuel
        | .flowItem | .flowMember => node false false fuel

def blockItems : Nat → Composing (List Node)
  | 0 => stop [.broken]
  | fuel + 1 => do
    match ← peek? with
    | some .blockEntry =>
      skip
      let item ← nodeAt .blockItem fuel
      return item :: (← blockItems fuel)
    | some .blockEnd =>
      skip
      return []
    | _ => stop [.broken]

/-- The items of a sequence that is not indented. Any other token ends it. -/
def indentlessItems : Nat → Composing (List Node)
  | 0 => stop [.broken]
  | fuel + 1 => do
    match ← peek? with
    | some .blockEntry =>
      skip
      let item ← nodeAt .indentlessItem fuel
      return item :: (← indentlessItems fuel)
    | some _ => return []
    | none => return [.broken]

def blockMembers : Nat → Composing (List (Node × Node))
  | 0 => stop [(.broken, .broken)]
  | fuel + 1 => do
    match ← peek? with
    | some .key =>
      skip
      let key ← nodeAt .blockMember fuel
      let value ← valueAt .blockMember fuel
      return (key, value) :: (← blockMembers fuel)
    | some .blockEnd =>
      skip
      return []
    | _ => stop [(.broken, .broken)]

/-- The value of a member, if a colon announces one. -/
def valueAt (site : Site) : Nat → Composing Node
  | 0 => stop .broken
  | fuel + 1 => do
    match ← peek? with
    | none => return .broken
    | some .value =>
      skip
      nodeAt site fuel
    | some _ => return omitted

def flowItems : Nat → Bool → Composing (List Node)
  | 0, _ => stop [.broken]
  | fuel + 1, first => do
    if !first then
      match ← peek? with
      | some .flowEntry => skip
      | some .flowSequenceEnd => pure ()
      | _ => stop ()
    match ← peek? with
    | some .flowSequenceEnd =>
      skip
      return []
    | some .key =>
      skip
      let key ← pairKey fuel
      let value ← valueAt .flowItem fuel
      return .mapping none [(key, value)] :: (← flowItems fuel false)
    | some _ =>
      let item ← node false false fuel
      return item :: (← flowItems fuel false)
    | none => return [.broken]

/-- The key of a pair that stands as an item. Where it is left out, the token that tells so is
passed over, so no value can follow. -/
def pairKey : Nat → Composing Node
  | 0 => stop .broken
  | fuel + 1 => do
    match ← peek? with
    | none => return .broken
    | some token =>
      if token = .value ∨ Site.flowItem.omits token then
        skip
        return omitted
      else node false false fuel

def flowMembers : Nat → Bool → Composing (List (Node × Node))
  | 0, _ => stop [(.broken, .broken)]
  | fuel + 1, first => do
    if !first then
      match ← peek? with
      | some .flowEntry => skip
      | some .flowMappingEnd => pure ()
      | _ => stop ()
    match ← peek? with
    | some .flowMappingEnd =>
      skip
      return []
    | some .key =>
      skip
      let key ← memberKey fuel
      let value ← valueAt .flowMember fuel
      return (key, value) :: (← flowMembers fuel false)
    | some _ =>
      let key ← node false false fuel
      let value := if (← peek?).isSome then omitted else .broken
      return (key, value) :: (← flowMembers fuel false)
    | none => return [(.broken, .broken)]

/-- The key of a member of a flow mapping. -/
def memberKey : Nat → Composing Node
  | 0 => stop .broken
  | fuel + 1 => do
    if (← peek?) = some .value then return omitted else nodeAt .flowMember fuel

end

/-! ## Documents -/

/-- The handles that need no directive. -/
def standardShorthands : List (String × String) :=
  [("!", "!"), ("!!", "tag:yaml.org,2002:")]

/-- Reads directives. A second version and a second meaning for a handle are refused. -/
def directives : Nat → Bool → List (String × String) → Composing Unit
  | 0, _, _ => stop ()
  | fuel + 1, versioned, shorthands => do
    match ← peek? with
    | some (.version major minor) =>
      if versioned ∨ major ≠ 1 ∨ (minor ≠ 1 ∧ minor ≠ 2) then stop ()
      else
        skip
        directives fuel true shorthands
    | some (.shorthand handle start) =>
      if (shorthands.lookup handle).isSome then stop ()
      else
        skip
        directives fuel versioned ((handle, start) :: shorthands)
    | _ => modify fun c => { c with shorthands := shorthands ++ standardShorthands }

/-- Whether a token stands between documents. -/
def isBetween : Token → Bool
  | .version .. | .shorthand .. | .documentStart | .documentEnd | .streamEnd => true
  | _ => false

/-- The root of the first document; none if the stream is empty. -/
def document (fuel : Nat) : Composing (Option Node) := do
  match ← peek? with
  | some .streamEnd => return none
  | some .documentStart | some (.version ..) | some (.shorthand ..) =>
    directives fuel false []
    match ← peek? with
    | some .documentStart =>
      skip
      match ← peek? with
      | none => return some .broken
      | some token => if isBetween token then return some omitted else node true false fuel
    | _ => stop (some .broken)
  | _ => node true false fuel

end Composing

/-- The first document of a stream. -/
structure Stream where
  root : Option Node
  anchored : List Anchored
  /-- Whether nothing but document ends follows. -/
  intact : Bool

namespace Stream

/-- The anchored node with a number, the last one if there are several. -/
def anchored? (s : Stream) (number : Nat) : Option Node :=
  let named := s.anchored.filter (·.number = number)
  (named.find? fun a => named.all (·.order ≤ a.order)).map (·.node)

def ofTokens (tokens : List Token) : Stream :=
  let (root, rest) :=
    (Composing.document (4 * tokens.length + 4)).run
      ⟨tokens, Composing.standardShorthands, [], 0, []⟩
  ⟨root, rest.anchored, rest.tokens.dropWhile (· = .documentEnd) = [.streamEnd]⟩

end Stream
end DocCorpus.Yaml
