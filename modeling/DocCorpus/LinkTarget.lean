/-
  Where a link leads: to a document of the collection, or to a web address. The target of a link
  may be written with slashes around it, a fragment or a query; `normalize` leaves the identifier.
-/
import DocCorpus.Identifier
import DocCorpus.WebAddress

namespace DocCorpus

inductive LinkTarget
  | document (id : String)
  | external (url : String)

namespace LinkTarget

/-- The characters of the identifier that a target names: without blanks around it, the part from
a fragment or query on, and slashes around the rest. What leaves nothing names the index. -/
def normalizeChars (target : List Char) : List Char :=
  let path := Text.before (fun c => c == '#' || c == '?') (Text.trim target)
  match Identifier.normalizeChars path with
  | [] => "index".toList
  | id => id

def normalize (target : String) : String := String.ofList (normalizeChars target.toList)

def isExternal (target : String) : Bool := WebAddress.isAddress (Text.trim target.toList)

/-- Where a target leads, if it is a web address or names a known document. -/
def resolve? (known : List String) (target : String) : Option LinkTarget :=
  if isExternal target then some (.external (String.ofList (Text.trim target.toList)))
  else
    let id := normalize target
    if known.contains id then some (.document id) else none

/-- The target in an outline. -/
def outline : LinkTarget → String
  | .document id => "/" ++ id ++ "/"
  | .external url => url

end LinkTarget
end DocCorpus
