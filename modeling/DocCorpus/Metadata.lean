/-
  Document metadata: an ordered mapping from keys to typed values. `insert` refuses a key that is
  present. A number that is not finite has no place in an export; `firstNonFinite?` finds the
  first one and the path that leads to it.
-/
import DocCorpus.Failure

namespace DocCorpus

inductive MetaValue
  | null
  | boolean (b : Bool)
  | integer (n : Int64)
  | float (x : Binary64)
  | text (s : String)
  | list (items : List MetaValue)
  | map (entries : List (String × MetaValue))
  deriving Inhabited

/-- An ordered mapping of metadata keys. -/
structure Metadata where
  entries : List (String × MetaValue)

namespace MetaValue

def text? : MetaValue → Option String
  | .text s => some s
  | _ => none

end MetaValue

namespace Metadata

def empty : Metadata := ⟨[]⟩

def keys (m : Metadata) : List String := m.entries.map Prod.fst

def get? (m : Metadata) (key : String) : Option MetaValue := m.entries.lookup key

/-- The value of a key, if it is a text. -/
def getText? (m : Metadata) (key : String) : Option String := (m.get? key).bind MetaValue.text?

def contains (m : Metadata) (key : String) : Bool := (m.get? key).isSome

def size (m : Metadata) : Nat := m.entries.length

def isEmpty (m : Metadata) : Bool := m.entries.isEmpty

/-- Adds a key at the end; a key that is present is a failure. -/
def insert (m : Metadata) (key : String) (value : MetaValue) : Except Failure Metadata :=
  if m.contains key then .error (.validation (.repeatedMetadataKey key))
  else .ok ⟨m.entries ++ [(key, value)]⟩

theorem insert_eq_error {m : Metadata} {key : String} (value : MetaValue)
    (h : m.contains key = true) :
    m.insert key value = .error (.validation (.repeatedMetadataKey key)) := by
  simp [insert, h]

/-- The mapping of a list of entries, inserted in order. -/
def ofEntries (entries : List (String × MetaValue)) : Except Failure Metadata :=
  entries.foldlM (fun m (key, value) => m.insert key value) empty

end Metadata

/-! ## Numbers that are not finite -/

/-- One step from a value to a value inside it. -/
inductive MetaStep
  | key (name : String)
  | position (index : Nat)

namespace MetaValue

mutual

/-- The path to the first number that is not finite, in depth-first order, with the number. -/
def firstNonFinite? : MetaValue → Option (List MetaStep × Binary64)
  | .float x => if x.isFinite then none else some ([], x)
  | .list items => firstInItems? 0 items
  | .map entries => firstInEntries? entries
  | _ => none

def firstInItems? (index : Nat) : List MetaValue → Option (List MetaStep × Binary64)
  | [] => none
  | item :: rest =>
    match item.firstNonFinite? with
    | some (path, x) => some (.position index :: path, x)
    | none => firstInItems? (index + 1) rest

def firstInEntries? : List (String × MetaValue) → Option (List MetaStep × Binary64)
  | [] => none
  | (name, value) :: rest =>
    match value.firstNonFinite? with
    | some (path, x) => some (.key name :: path, x)
    | none => firstInEntries? rest

end

end MetaValue

namespace MetaStep

/-- The text of a path: keys are joined by dots and positions stand in brackets. A dot precedes a
text that is neither empty nor starts with a bracket. -/
def pathText : List MetaStep → String
  | [] => ""
  | step :: rest =>
    let tail := pathText rest
    let dotted := if tail = "" ∨ tail.toList.head? = some '[' then tail else "." ++ tail
    match step with
    | .key name => name ++ dotted
    | .position index => s!"[{index}]" ++ dotted

end MetaStep

namespace Metadata

def firstNonFinite? (m : Metadata) : Option (List MetaStep × Binary64) :=
  MetaValue.firstInEntries? m.entries

/-- The key path of the first value that an export cannot hold. -/
def unrepresentable? (m : Metadata) : Option String :=
  m.firstNonFinite?.map fun (path, _) => MetaStep.pathText path

end Metadata
end DocCorpus
