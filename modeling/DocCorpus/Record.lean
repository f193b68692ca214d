/-
  Records read from value trees. A record is described by its fields; a tree holds it as a table,
  whose other members are passed over, or as the list of its fields in order. The first value of
  the wrong shape is reported, and then the first field that is missing.
-/
import DocCorpus.Table
import DocCorpus.Tree

namespace DocCorpus

/-- What becomes of list items beyond the last field of a record. -/
inductive Surplus
  | refused
  | ignored

/-- A field of a record: how its value enters the record, and whether it may be left out. -/
structure RecordField (α : Type) where
  name : String
  optional : Bool
  read : Tree → α → Except ShapeFault α

/-- A record type: its name in messages, its fields, and the record before any field is read. -/
structure RecordType (α : Type) where
  name : String
  fields : List (RecordField α)
  blank : α

namespace RecordType

variable {α : Type}

/-- A member of a table entered into the record; a member that is no field changes nothing. -/
def enter (r : RecordType α) (record : α) (member : String × Tree) : Except ShapeFault α :=
  match r.fields.find? (·.name = member.1) with
  | some field => field.read member.2 record
  | none => .ok record

def readTable (r : RecordType α) (members : List (String × Tree)) : Except ShapeFault α := do
  let record ← members.foldlM r.enter r.blank
  match r.fields.find? fun field => !field.optional && (members.lookup field.name).isNone with
  | some field => .error (.missingField field.name)
  | none => .ok record

/-- Items entered into the fields from the one at `position` on. -/
def enterItems (r : RecordType α) (record : α) (position : Nat) :
    List (RecordField α) → List Tree → Except ShapeFault α
  | field :: fields, item :: items => do
    let record ← field.read item record
    enterItems r record (position + 1) fields items
  | field :: fields, [] =>
    if field.optional then enterItems r record (position + 1) fields []
    else
      .error (.wrongLength position s!"struct {r.name} with {r.fields.length} elements")
  | [], _ => .ok record

def readList (r : RecordType α) (surplus : Surplus) (items : List Tree) : Except ShapeFault α := do
  let record ← enterItems r r.blank 0 r.fields items
  match surplus with
  | .ignored => .ok record
  | .refused =>
    if items.length ≤ r.fields.length then .ok record
    else .error (.wrongLength items.length "fewer elements in array")

def read (r : RecordType α) (surplus : Surplus) : Tree → Except ShapeFault α
  | .table members => r.readTable members
  | .list items => r.readList surplus items
  | t => .error (.wrongType t.found s!"struct {r.name}")

end RecordType

/-! ## Field values -/

namespace Tree

def readText : Tree → Except ShapeFault String
  | .text s => .ok s
  | t => .error (.wrongType t.found "a string")

def readFlag : Tree → Except ShapeFault Bool
  | .boolean b => .ok b
  | t => .error (.wrongType t.found "a boolean")

/-- A text or nothing. -/
def readText? : Tree → Except ShapeFault (Option String)
  | .null => .ok none
  | t => t.readText.map some

def readList {α : Type} (item : Tree → Except ShapeFault α) : Tree → Except ShapeFault (List α)
  | .list items => items.mapM item
  | t => .error (.wrongType t.found "a sequence")

def readTable {α : Type} (value : Tree → Except ShapeFault α) :
    Tree → Except ShapeFault (Table α)
  | .table members =>
    members.foldlM (fun table (key, t) => (value t).map (table.insert key)) .empty
  | t => .error (.wrongType t.found "a map")

end Tree
end DocCorpus
