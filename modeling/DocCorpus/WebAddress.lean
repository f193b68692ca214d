/-
  Web addresses: absolute addresses of the schemes `http` and `https` that name a host. Line breaks
  and tabs inside an address mean nothing, and any number of slashes may follow the scheme.
-/
import DocCorpus.Text.Blank
import DocCorpus.WebAddress.Host
import DocCorpus.WebAddress.HostName

namespace DocCorpus.WebAddress

/-- Characters that are passed over wherever they stand. -/
def isSkipped (c : Char) : Bool := c == '\t' || c == '\n' || c == '\r'

/-- A slash of either kind. -/
def isSlash (c : Char) : Bool := c == '/' || c == '\\'

/-- Whether a character ends the part of an address that names the host. -/
def endsAuthority (c : Char) : Bool := isSlash c || c == '?' || c == '#'

/-- What follows a scheme; its letters may be in either case. -/
def afterScheme? : List Char → List Char → Option (List Char)
  | [], s => some s
  | _ :: _, [] => none
  | a :: scheme, c :: s => if a = c.toLower then afterScheme? scheme s else none

/-- The authority of an address: what stands between the scheme and the path. -/
def authority? (s : List Char) : Option (List Char) :=
  let s := (Text.strip (fun c => c.toNat ≤ 0x20) s).filter fun c => !isSkipped c
  ((afterScheme? "https:".toList s).or (afterScheme? "http:".toList s)).map fun rest =>
    (rest.dropWhile isSlash).takeWhile fun c => !endsAuthority c

/-- The host and port of an authority: what follows the last `@`. -/
def location (authority : List Char) : List Char :=
  match Text.cutLast? '@' authority with
  | some (_, location) => location
  | none => authority

/-- The host and what follows it. A colon ends the host except between brackets. -/
def host (bracketed : Bool) : List Char → List Char × List Char
  | [] => ([], [])
  | c :: rest =>
    if c = ':' ∧ !bracketed then ([], c :: rest)
    else
      let bracketed := if c = '[' then true else if c = ']' then false else bracketed
      let (name, after) := host bracketed rest
      (c :: name, after)

/-- Whether a text is empty, or a colon and a number of at most 16 bits or none. -/
def isPort : List Char → Bool
  | [] => true
  | ':' :: digits => digits.all Char.isDigit && Decimal.natFrom 0 digits < Nat.pow 2 16
  | _ => false

def isHost : List Char → Bool
  | [] => false
  | '[' :: rest =>
    match Text.cutLast? ']' rest with
    | some (address, []) => Host.isSixteenBytes address
    | _ => false
  | name =>
    match HostName.canonical? name with
    | none => false
    | some [] => false
    | some name => !Host.endsInNumber name || Host.isFourBytes name

/-- Whether a text is a web address. -/
def isAddress (s : List Char) : Bool :=
  match authority? s with
  | none => false
  | some authority =>
    let (name, after) := host false (location authority)
    isHost name && isPort after

end DocCorpus.WebAddress
