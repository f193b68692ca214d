/-
  Snapshots: the documents of an exported JSON text, read back. A document may stand as an object
  or as an array of its fields; unknown members are passed over, and no member may be repeated.
-/
import DocCorpus.Document
import DocCorpus.Json.Reader

namespace DocCorpus

open Json (Source)

/-- How deep arrays and objects may be nested in a snapshot. -/
def snapshotLevels : Nat := 127

namespace MetaValue

/-- The number of a metadata value: an integer if it is a signed 64-bit one. -/
def ofNumber : Json.Number → MetaValue
  | .integer n => if Int64.minValue.toInt ≤ n ∧ n ≤ Int64.maxValue.toInt then .integer (.ofInt n)
      else .float (.ofInt n)
  | .float x => .float x

mutual

/-- The metadata value of a JSON value with at most `levels` levels of arrays and objects. -/
def ofSource (levels : Nat) : Source → Except FormatFault MetaValue
  | .null => .ok .null
  | .boolean b => .ok (.boolean b)
  | .number n =>
    match n.value? with
    | some number => .ok (ofNumber number)
    | none => .error .malformed
  | .string (some s) => .ok (.text s)
  | .array items =>
    match levels with
    | 0 => .error .malformed
    | levels + 1 => (itemsOfSources levels items).map .list
  | .object members =>
    match levels with
    | 0 => .error .malformed
    | levels + 1 => (entriesOfMembers levels [] members).map .map
  | .string none | .broken => .error .malformed

def itemsOfSources (levels : Nat) : List Source → Except FormatFault (List MetaValue)
  | [] => .ok []
  | item :: rest => do
    let head ← ofSource levels item
    let tail ← itemsOfSources levels rest
    return head :: tail

/-- The entries of an object after those with the keys `seen`. A repeated key is a fault once its
value is read. -/
def entriesOfMembers (levels : Nat) (seen : List String) :
    List (Option String × Source) → Except FormatFault (List (String × MetaValue))
  | [] => .ok []
  | (none, _) :: _ => .error .malformed
  | (some key, value) :: rest => do
    let head ← ofSource levels value
    if seen.contains key then .error (.shape (.repeatedKey key))
    else
      let tail ← entriesOfMembers levels (key :: seen) rest
      return (key, head) :: tail

end

end MetaValue

namespace Metadata

/-- The metadata of a JSON object with at most `levels` levels, its own included. -/
def ofSource (levels : Nat) (s : Source) : Except FormatFault Metadata :=
  match s, levels with
  | .object _, 0 => .error .malformed
  | .object members, levels + 1 => (MetaValue.entriesOfMembers levels [] members).map Metadata.mk
  | s, _ => .error (s.mismatch "a mapping with string keys")

end Metadata

namespace Document

/-- The members of a document read so far. -/
structure Draft where
  id : Option String
  data : Option Metadata
  body : Option String

namespace Draft

def take (levels : Nat) (d : Draft) (key : String) (value : Source) :
    Except FormatFault Draft :=
  match key with
  | "id" =>
    match d.id with
    | some _ => .error (.shape (.repeatedField "id"))
    | none => value.text.map fun id => { d with id := some id }
  | "data" =>
    match d.data with
    | some _ => .error (.shape (.repeatedField "data"))
    | none => (Metadata.ofSource levels value).map fun data => { d with data := some data }
  | "body" =>
    match d.body with
    | some _ => .error (.shape (.repeatedField "body"))
    | none => value.text.map fun body => { d with body := some body }
  | _ => value.skip.map fun _ => d

def finish (d : Draft) : Except FormatFault Document :=
  match d.id with
  | none => .error (.shape (.missingField "id"))
  | some id => .ok (.make id (d.data.getD .empty) (d.body.getD ""))

end Draft

/-- A document written as an array of its fields. -/
def ofFields (levels : Nat) : List Source → Except FormatFault Document
  | [] => .error (.shape (.wrongLength 0 "struct Document with 3 elements"))
  | [id] => return .make (← id.text) .empty ""
  | [id, data] => return .make (← id.text) (← Metadata.ofSource levels data) ""
  | id :: data :: body :: rest => do
    let document := Document.make (← id.text) (← Metadata.ofSource levels data) (← body.text)
    if rest.isEmpty then .ok document else .error .malformed

def ofSource (levels : Nat) (s : Source) : Except FormatFault Document :=
  match s, levels with
  | .array _, 0 | .object _, 0 => .error .malformed
  | .array items, levels + 1 => ofFields levels items
  | .object members, levels + 1 => do
    let draft ← Source.foldMembers (Draft.take levels) ⟨none, none, none⟩ members
    draft.finish
  | s, _ => .error (s.mismatch "struct Document")

end Document

namespace Snapshot

/-- The documents of a JSON value. -/
def documents (s : Source) : Except FormatFault (List Document) :=
  match s with
  | .array items => items.mapM (Document.ofSource (snapshotLevels - 1))
  | s => .error (s.mismatch "a sequence")

/-- The documents of a snapshot text. -/
def parse (s : String) : Except FormatFault (List Document) := do
  let (source, ended) := Source.ofText s
  let documents ← documents source
  if ended then .ok documents else .error .malformed

end Snapshot
end DocCorpus
