/-
  JSON text read as far as it goes. A `Source` holds the values in the order of the text, and ends
  in `broken` where the text stops being JSON. Whoever reads a source therefore meets the faults
  of shape that precede that place first.
-/
import DocCorpus.Json.Lexeme
import DocCorpus.Tree

namespace DocCorpus.Json

inductive Source
  | null
  | boolean (b : Bool)
  | number (n : Numeral)
  | string (content : Option String)
  | array (items : List Source)
  | object (members : List (Option String × Source))
  | broken

namespace Source

mutual

/-- The value that the lexemes start with, and the lexemes after it. -/
def ofLexemes : Nat → List Lexeme → Source × List Lexeme
  | 0, _ => (.broken, [])
  | fuel + 1, lexemes =>
    match lexemes with
    | .null :: rest => (.null, rest)
    | .boolean b :: rest => (.boolean b, rest)
    | .number n :: rest => (.number n, rest)
    | .string s :: rest => (.string s, rest)
    | .mark '[' :: .mark ']' :: rest => (.array [], rest)
    | .mark '[' :: rest =>
      let (items, rest) := itemsOf fuel rest
      (.array items, rest)
    | .mark '{' :: .mark '}' :: rest => (.object [], rest)
    | .mark '{' :: rest =>
      let (members, rest) := membersOf fuel rest
      (.object members, rest)
    | _ => (.broken, [])

/-- The items up to the closing bracket. -/
def itemsOf : Nat → List Lexeme → List Source × List Lexeme
  | 0, _ => ([.broken], [])
  | fuel + 1, lexemes =>
    let (item, rest) := ofLexemes fuel lexemes
    match rest with
    | .mark ']' :: rest => ([item], rest)
    | .mark ',' :: rest =>
      let (items, rest) := itemsOf fuel rest
      (item :: items, rest)
    | _ => ([item, .broken], [])

/-- The members up to the closing brace. -/
def membersOf : Nat → List Lexeme → List (Option String × Source) × List Lexeme
  | 0, _ => ([(none, .broken)], [])
  | fuel + 1, lexemes =>
    match lexemes with
    | .string key :: .mark ':' :: rest =>
      let (value, rest) := ofLexemes fuel rest
      match rest with
      | .mark '}' :: rest => ([(key, value)], rest)
      | .mark ',' :: rest =>
        let (members, rest) := membersOf fuel rest
        ((key, value) :: members, rest)
      | _ => ([(key, value), (none, .broken)], [])
    | .string key :: _ => ([(key, .broken)], [])
    | _ => ([(none, .broken)], [])

end

/-- The source of a whole text, and whether nothing follows its value. -/
def ofText (s : String) : Source × Bool :=
  let lexemes := Lexeme.all s.toList
  let (source, rest) := ofLexemes (2 * lexemes.length + 2) lexemes
  (source, rest.isEmpty)

mutual

/-- Whether the text of the value is JSON throughout. -/
def intact : Source → Bool
  | .array items => intactItems items
  | .object members => intactMembers members
  | .broken => false
  | _ => true

def intactItems : List Source → Bool
  | [] => true
  | item :: rest => item.intact && intactItems rest

def intactMembers : List (Option String × Source) → Bool
  | [] => true
  | (_, value) :: rest => value.intact && intactMembers rest

end

/-- The fault of finding this value where another type was expected. -/
def mismatch (expected : String) (s : Source) : FormatFault :=
  let fault := fun found => FormatFault.shape (.wrongType found expected)
  match s with
  | .null => fault .null
  | .boolean b => fault (.boolean b)
  | .number n =>
    match n.value? with
    | some (.integer n) => fault (.integer n)
    | some (.float x) => fault (.float x)
    | none => .malformed
  | .string (some s) => fault (.text s)
  | .array _ => fault .sequence
  | .object _ => fault .map
  | .string none | .broken => .malformed

def text (s : Source) : Except FormatFault String :=
  match s with
  | .string (some s) => .ok s
  | s => .error (s.mismatch "a string")

/-- A value that is passed over has to be JSON, and nothing else. -/
def skip (s : Source) : Except FormatFault Unit :=
  if s.intact then .ok () else .error .malformed

/-- The members of an object taken into a record one after the other. -/
def foldMembers {σ : Type} (step : σ → String → Source → Except FormatFault σ) (record : σ) :
    List (Option String × Source) → Except FormatFault σ
  | [] => .ok record
  | (none, _) :: _ => .error .malformed
  | (some key, value) :: rest => do
    let record ← step record key value
    foldMembers step record rest

/-! ## Value trees -/

mutual

/-- The tree of a value, if the text is JSON throughout and every number has a value. -/
def tree? : Source → Option Tree
  | .null => some .null
  | .boolean b => some (.boolean b)
  | .number n =>
    match n.value? with
    | some (.integer n) => some (.integer n)
    | some (.float x) => some (.float x)
    | none => none
  | .string s => s.map .text
  | .array items => (itemTrees? items).map .list
  | .object members => (memberTrees? members).map .table
  | .broken => none

def itemTrees? : List Source → Option (List Tree)
  | [] => some []
  | item :: rest => do
    let head ← item.tree?
    let tail ← itemTrees? rest
    return head :: tail

def memberTrees? : List (Option String × Source) → Option (List (String × Tree))
  | [] => some []
  | (none, _) :: _ => none
  | (some key, value) :: rest => do
    let head ← value.tree?
    let tail ← memberTrees? rest
    return (key, head) :: tail

end

end Source

/-- The tree of a JSON text. -/
def read? (s : String) : Option Tree :=
  match Source.ofText s with
  | (source, true) => source.tree?
  | (_, false) => none

end DocCorpus.Json
