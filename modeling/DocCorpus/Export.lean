/-
  The JSON export of a collection: an array of documents, each with its identifier, its metadata
  and its body. A document whose metadata holds a number that is not finite cannot be exported.
-/
import DocCorpus.Document
import DocCorpus.Json.Writer

namespace DocCorpus

namespace MetaValue

mutual

/-- The tree of a value, or the first number that has none. -/
def toTree : MetaValue → Except Binary64 Tree
  | .null => .ok .null
  | .boolean b => .ok (.boolean b)
  | .integer n => .ok (.integer n.toInt)
  | .float x => if x.isFinite then .ok (.float x) else .error x
  | .text s => .ok (.text s)
  | .list items => (itemsToTree items).map .list
  | .map entries => (entriesToTree entries).map .table

def itemsToTree : List MetaValue → Except Binary64 (List Tree)
  | [] => .ok []
  | item :: rest => do
    let head ← item.toTree
    let tail ← itemsToTree rest
    return head :: tail

def entriesToTree : List (String × MetaValue) → Except Binary64 (List (String × Tree))
  | [] => .ok []
  | (key, value) :: rest => do
    let head ← value.toTree
    let tail ← entriesToTree rest
    return (key, head) :: tail

end

end MetaValue

def Metadata.toTree (m : Metadata) : Except Binary64 Tree :=
  (MetaValue.entriesToTree m.entries).map .table

def Document.toTree (d : Document) : Except Binary64 Tree := do
  let data ← d.data.toTree
  return .table [("id", .text d.id), ("data", data), ("body", .text d.body)]

namespace Export

/-- The failure that a document's metadata causes, if it does. -/
def refusal? (d : Document) : Option Failure :=
  d.data.unrepresentable?.map fun path => .notSerializable d.id (.notFinite path)

/-- The name under which the writer reports a failure. -/
def wholeCollection : String := "<collection>"

/-- The export of a list of documents, in their order, ended by a line feed. -/
def serialize (documents : List Document) : Except Failure String :=
  match documents.findSome? refusal? with
  | some failure => .error failure
  | none =>
    match documents.mapM Document.toTree with
    | .ok items => .ok (Json.pretty (.list items) ++ "\n")
    | .error x => .error (.notSerializable wholeCollection (.writer x))

end Export
end DocCorpus
