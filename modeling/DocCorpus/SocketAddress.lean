/-
  Addresses to serve at: a host of four or of sixteen bytes, and a port. A host of sixteen bytes
  stands in brackets and may carry the number of its scope.
-/
import DocCorpus.Number.Digit
import DocCorpus.Text.Split

namespace DocCorpus

inductive HostAddress
  | fourBytes (bytes : List Nat)
  /-- Eight groups of two bytes each, and a scope. -/
  | sixteenBytes (groups : List Nat) (scope : Nat)
  deriving DecidableEq

structure SocketAddress where
  host : HostAddress
  port : Nat
  deriving DecidableEq

namespace SocketAddress

/-- A decimal number below a limit. -/
def below? (limit : Nat) (digits : List Char) : Option Nat :=
  (Digit.natural? 10 digits).filter (· < limit)

/-- A byte, without needless zeros in front. -/
def byte? (digits : List Char) : Option Nat :=
  if digits.length > 1 ∧ digits.head? = some '0' then none else below? 256 digits

/-- Four bytes with dots between them. -/
def bytes? (s : List Char) : Option (List Nat) :=
  let parts := s.splitOn '.'
  if parts.length = 4 then parts.mapM byte? else none

/-- Two bytes in up to four hexadecimal digits. -/
def group? (digits : List Char) : Option Nat :=
  if digits.length ≤ 4 then Digit.natural? 16 digits else none

/-- Bytes taken two by two. -/
def groupsOfBytes : List Nat → List Nat
  | a :: b :: rest => (256 * a + b) :: groupsOfBytes rest
  | _ => []

/-- The groups that parts stand for. Where `dotted`, the last part may be four bytes with dots. -/
def groupsOf? (dotted : Bool) : List (List Char) → Option (List Nat)
  | [] => some []
  | [last] =>
    match group? last with
    | some group => some [group]
    | none => if dotted then (bytes? last).map groupsOfBytes else none
  | part :: rest => do
    let group ← group? part
    let groups ← groupsOf? dotted rest
    return group :: groups

/-- The parts between colons; an empty text has none. -/
def parts (s : List Char) : List (List Char) := if s = [] then [] else s.splitOn ':'

/-- Eight groups with colons between them, where two colons stand for one group of zeros or
more. -/
def groups? (s : List Char) : Option (List Nat) :=
  match Text.cutAt? [':', ':'] s with
  | none => (groupsOf? true (parts s)).filter (·.length = 8)
  | some (front, back) => do
    let front ← groupsOf? false (parts front)
    let back ← groupsOf? true (parts back)
    let missing := 8 - (front.length + back.length)
    if missing = 0 then none else return front ++ List.replicate missing 0 ++ back

def sixteenBytes? (s : List Char) : Option HostAddress :=
  match Text.cutFirst? '%' s with
  | none => (groups? s).map (.sixteenBytes · 0)
  | some (address, scope) => do
    let groups ← groups? address
    let scope ← below? (Nat.pow 2 32) scope
    return .sixteenBytes groups scope

/-- The texts of the host and of the port. -/
def split? : List Char → Option (Option HostAddress × List Char)
  | '[' :: rest =>
    match Text.cutFirst? ']' rest with
    | some (host, ':' :: port) => some (sixteenBytes? host, port)
    | _ => none
  | s => (Text.cutFirst? ':' s).map fun (host, port) => ((bytes? host).map .fourBytes, port)

/-- The address that a text spells. -/
def ofText? (text : String) : Option SocketAddress := do
  let (host, port) ← split? text.toList
  let host ← host
  let port ← below? (Nat.pow 2 16) port
  return ⟨host, port⟩

end SocketAddress
end DocCorpus
