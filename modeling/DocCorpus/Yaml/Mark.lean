/-
  Marks on nodes and on documents: anchor names, tags and directives. A tag is held as its octets,
  one character for each, so an escaped octet needs no decoding.
-/
import DocCorpus.Number.Digit
import DocCorpus.Yaml.Cursor
import DocCorpus.Yaml.Token

namespace DocCorpus.Yaml.Mark

/-! ## Anchors -/

/-- The name after `&` or `*` and the place after it. -/
def name? (p : Cursor) : Option (String × Cursor) :=
  let (name, q) := p.takeWhile isNameChar
  let closes :=
    match q.rest with
    | c :: _ => "?:,]\x7d%@\x60".toList.contains c
    | [] => false
  if name = [] ∨ !(atGap q.rest || closes) then none else some (String.ofList name, q)

/-! ## Tags -/

/-- A character of a tag, apart from name characters. Commas and brackets belong to tags in angle
brackets and to directives. -/
def isTagMark (bracketed : Bool) (c : Char) : Bool :=
  ";/?:@&=+$.!~*'()".toList.contains c || (bracketed && (c == ',' || c == '[' || c == ']'))

/-- The octet that an escape at the start of a text gives. -/
def octet? : List Char → Option Nat
  | '%' :: a :: b :: _ => Digit.natural? 16 [a, b]
  | _ => none

/-- The number of octets in an encoded character that starts with this one. -/
def octetCount? (n : Nat) : Option Nat :=
  if n < 0x80 then some 1
  else if 0xc0 ≤ n ∧ n < 0xe0 then some 2
  else if 0xe0 ≤ n ∧ n < 0xf0 then some 3
  else if 0xf0 ≤ n ∧ n < 0xf8 then some 4
  else none

/-- The octets of the escapes that continue an encoded character. -/
def continuation? : Nat → List Char → Option (List Char)
  | 0, _ => some []
  | n + 1, s =>
    match octet? s with
    | none => none
    | some octet =>
      if octet < 0x80 ∨ 0xc0 ≤ octet then none
      else (continuation? n (s.drop 3)).map (Char.ofNat octet :: ·)

/-- The octets of the escapes of one character. -/
def escaped? (s : List Char) : Option (List Char) := do
  let first ← octet? s
  let count ← octetCount? first
  (continuation? (count - 1) (s.drop 3)).map (Char.ofNat first :: ·)

/-- The tag characters at the start of a text of at most `fuel` characters, and how many
characters of the text they take. -/
def tagText? (bracketed : Bool) : Nat → List Char → Option (List Char × Nat)
  | 0, _ => some ([], 0)
  | fuel + 1, s =>
    match s with
    | [] => some ([], 0)
    | c :: rest =>
      if c = '%' then
        match escaped? s with
        | none => none
        | some octets =>
          (tagText? bracketed fuel (s.drop (3 * octets.length))).map fun (text, n) =>
            (octets ++ text, n + 3 * octets.length)
      else if isNameChar c || isTagMark bracketed c then
        (tagText? bracketed fuel rest).map fun (text, n) => (c :: text, n + 1)
      else some ([], 0)

/-- The tag characters at a place and the place after them. -/
def tagTextAt? (bracketed : Bool) (p : Cursor) : Option (List Char × Cursor) :=
  (tagText? bracketed p.rest.length p.rest).map fun (text, n) => (text, p.advance n)

/-- A handle: an exclamation mark, name characters and perhaps a second mark. -/
def handle (p : Cursor) : List Char × Cursor :=
  let (name, q) := p.skip.takeWhile isNameChar
  if q.rest.head? = some '!' then ('!' :: name ++ ['!'], q.skip) else ('!' :: name, q)

/-- The handle and the suffix of the tag at a place. A tag in angle brackets has no handle, and
neither has a lone exclamation mark. -/
def tag? (flow : Bool) (p : Cursor) : Option (Token × Cursor) := do
  let (handle, suffix, q) ←
    match p.rest with
    | '!' :: '<' :: _ => do
      let (text, q) ← tagTextAt? true (p.advance 2)
      if text = [] ∨ q.rest.head? ≠ some '>' then none else some ([], text, q.skip)
    | _ => do
      let (handle, q) := handle p
      let (text, r) ← tagTextAt? false q
      if handle.length > 1 ∧ handle.getLast? = some '!' then
        if text = [] then none else some (handle, text, r)
      else if handle.length = 1 ∧ text = [] then some ([], ['!'], r)
      else some (['!'], handle.tail ++ text, r)
  if atGap q.rest || (flow && q.rest.head? == some ',') then
    some (.tag (String.ofList handle) (String.ofList suffix), q)
  else none

/-! ## Directives -/

/-- A version number has at most nine digits. -/
def number? (p : Cursor) : Option (Nat × Cursor) :=
  let (digits, q) := p.takeWhile Char.isDigit
  if digits.length > 9 then none else (Digit.natural? 10 digits).map fun n => (n, q)

def version? (p : Cursor) : Option (Token × Cursor) := do
  let (major, q) ← number? (p.takeWhile isWhite).2
  if q.rest.head? ≠ some '.' then none
  else
    let (minor, r) ← number? q.skip
    return (.version major minor, r)

def shorthand? (p : Cursor) : Option (Token × Cursor) := do
  let p := (p.takeWhile isWhite).2
  if p.rest.head? ≠ some '!' then none
  else
    let (handle, q) := handle p
    let white := q.rest.head?.any isWhite
    if !white || (handle.length > 1 && handle.getLast? != some '!') then none
    else
      let (text, r) ← tagTextAt? true (q.takeWhile isWhite).2
      if text = [] ∨ !atGap r.rest then none
      else return (.shorthand (String.ofList handle) (String.ofList text), r)

/-- The directive at a percent sign and the start of the next line. -/
def directive? (p : Cursor) : Option (Token × Cursor) := do
  let (name, q) := p.skip.takeWhile isNameChar
  if !atGap q.rest then none
  else
    let (token, q) ←
      if name = "YAML".toList then version? q
      else if name = "TAG".toList then shorthand? q
      else none
    let q := (q.takeWhile isWhite).2
    let q := if q.rest.head? = some '#' then (q.takeWhile fun c => !isBreak c).2 else q
    if atBreak q.rest then return (token, q.takeBreak.2) else none

end DocCorpus.Yaml.Mark
