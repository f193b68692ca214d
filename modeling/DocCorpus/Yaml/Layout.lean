/-
  The layout of YAML text, which turns it into tokens. A collection in block style is told by the
  column its entries start at, and a key by the colon after it; so a token that may turn out to be
  a key waits until its line ends. Tokens wait behind such a token and are handed on in order.
-/
import DocCorpus.Yaml.Block
import DocCorpus.Yaml.Mark
import DocCorpus.Yaml.Plain
import DocCorpus.Yaml.Quoted
import DocCorpus.Yaml.Token

namespace DocCorpus.Yaml

/-- Where a key may have started. -/
structure KeyStart where
  /-- Whether a key has to stand here, because an entry of a block mapping starts here. -/
  required : Bool
  /-- The number of the token that would be the key's first. -/
  token : Nat
  place : Cursor

/-- How far a text is read, and what bears on the tokens to come. -/
structure Layout where
  place : Cursor
  /-- How many tokens have been handed on. -/
  handed : Nat
  waiting : List Token
  /-- The columns of the open block collections, the innermost first. -/
  columns : List Nat
  /-- Where a key may have started outside all flow collections. -/
  blockKey : Option KeyStart
  /-- The same for each open flow collection, the innermost first. -/
  flowKeys : List (Option KeyStart)
  /-- Whether a key may start here. -/
  keyAllowed : Bool
  ended : Bool

namespace Layout

def start (s : List Char) : Layout := ⟨.ofText s, 0, [], [], none, [], true, false⟩

def inFlow (l : Layout) : Bool := !l.flowKeys.isEmpty

/-! ## Keys -/

/-- The greatest distance between the start of a key and its colon. -/
def keyReach : Nat := 1024

/-- The innermost place where a key may have started. -/
def openKey (l : Layout) : Option KeyStart :=
  match l.flowKeys with
  | [] => l.blockKey
  | key :: _ => key

def setOpenKey (l : Layout) (key : Option KeyStart) : Layout :=
  match l.flowKeys with
  | [] => { l with blockKey := key }
  | _ :: keys => { l with flowKeys := key :: keys }

/-- A key start that is still in reach; one that is required must not be out of reach. -/
def keepKey? (here : Cursor) (key : Option KeyStart) : Option (Option KeyStart) :=
  match key with
  | none => some none
  | some k =>
    if k.place.line < here.line ∨ k.place.index + keyReach < here.index then
      if k.required then none else some none
    else some (some k)

/-- Gives up the key starts that are out of reach. -/
def dropStaleKeys? (l : Layout) : Option Layout := do
  let blockKey ← keepKey? l.place l.blockKey
  let flowKeys ← l.flowKeys.mapM (keepKey? l.place)
  return { l with blockKey, flowKeys }

/-- Gives up the innermost key start. -/
def dropKey? (l : Layout) : Option Layout :=
  if l.openKey.any (·.required) then none else some (l.setOpenKey none)

/-- Notes that a key may start with the next token. -/
def noteKey? (l : Layout) : Option Layout :=
  if l.keyAllowed then do
    let required := !l.inFlow && l.columns.head? == some l.place.column
    let l ← l.dropKey?
    return l.setOpenKey (some ⟨required, l.handed + l.waiting.length, l.place⟩)
  else some l

/-! ## Tokens and indentation -/

def put (l : Layout) (t : Token) : Layout := { l with waiting := l.waiting ++ [t] }

/-- Puts a token in front of the one with the given number. -/
def putAt (l : Layout) (number : Nat) (t : Token) : Layout :=
  { l with waiting := l.waiting.insertIdx (number - l.handed) t }

/-- Opens a block collection at a column further in, with its first token before the token of the
given number. -/
def indent (l : Layout) (column number : Nat) (t : Token) : Layout :=
  if l.inFlow || l.columns.head?.any (column ≤ ·) then l
  else { l.putAt number t with columns := column :: l.columns }

/-- Opens a block collection at the current column. -/
def indentHere (l : Layout) (t : Token) : Layout :=
  l.indent l.place.column (l.handed + l.waiting.length) t

/-- Closes the block collections that lie further in than a column; all of them without one. -/
def outdent (l : Layout) (column : Option Nat) : Layout :=
  if l.inFlow then l
  else
    let closes := fun (c : Nat) => column.all (· < c)
    let closed := l.columns.takeWhile closes
    { l with
      waiting := l.waiting ++ List.replicate closed.length .blockEnd
      columns := l.columns.dropWhile closes }

/-! ## One token -/

/-- Passes over white space, comments and line breaks. A tab must not stand where a key may start
outside flow collections. -/
def skipGap : Nat → Layout → Layout
  | 0, l => l
  | fuel + 1, l =>
    let tabs := l.inFlow || !l.keyAllowed
    let (_, p) := l.place.takeWhile fun c => c == ' ' || (tabs && c == '\t')
    let p := if p.rest.head? = some '#' then (p.takeWhile fun c => !isBreak c).2 else p
    if p.rest.head?.any isBreak then
      skipGap fuel { l with place := p.takeBreak.2, keyAllowed := l.keyAllowed || !l.inFlow }
    else { l with place := p }

/-- A token that is one mark of `n` characters. -/
def mark (l : Layout) (n : Nat) (t : Token) : Layout :=
  { l.put t with place := l.place.advance n }

/-- The end of the text, which also ends its last line. -/
def streamEnd? (l : Layout) : Option Layout := do
  let l ← (l.outdent none).dropKey?
  let place := if l.place.column = 0 then l.place else l.place.nextLine 0
  return { l.put .streamEnd with place, keyAllowed := false, ended := true }

def directive? (l : Layout) : Option Layout := do
  let l ← (l.outdent none).dropKey?
  let (t, p) ← Mark.directive? l.place
  return { l.put t with place := p, keyAllowed := false }

def documentMark? (l : Layout) (t : Token) : Option Layout := do
  let l ← (l.outdent none).dropKey?
  return { l.mark 3 t with keyAllowed := false }

def openFlow? (l : Layout) (t : Token) : Option Layout := do
  let l ← l.noteKey?
  return { l.mark 1 t with flowKeys := none :: l.flowKeys, keyAllowed := true }

def closeFlow? (l : Layout) (t : Token) : Option Layout := do
  let l ← l.dropKey?
  return { l.mark 1 t with flowKeys := l.flowKeys.tail, keyAllowed := false }

def flowEntry? (l : Layout) : Option Layout := do
  let l ← l.dropKey?
  return { l.mark 1 .flowEntry with keyAllowed := true }

def blockEntry? (l : Layout) : Option Layout :=
  if !l.inFlow && !l.keyAllowed then none
  else do
    let l ← (l.indentHere .blockSequence).dropKey?
    return { l.mark 1 .blockEntry with keyAllowed := true }

def key? (l : Layout) : Option Layout :=
  if !l.inFlow && !l.keyAllowed then none
  else do
    let l ← (l.indentHere .blockMapping).dropKey?
    return { l.mark 1 .key with keyAllowed := !l.inFlow }

/-- A colon. It makes the noted start of a key one; without a noted start the key is empty. -/
def value? (l : Layout) : Option Layout :=
  match l.openKey with
  | some k =>
    let l := (l.putAt k.token .key).indent k.place.column k.token .blockMapping
    some { (l.setOpenKey none).mark 1 .value with keyAllowed := false }
  | none =>
    if !l.inFlow && !l.keyAllowed then none
    else some { (l.indentHere .blockMapping).mark 1 .value with keyAllowed := !l.inFlow }

/-- A token that may be the start of a key, with the place after it. -/
def keyPart? (l : Layout) (read? : Cursor → Option (Token × Cursor)) : Option Layout := do
  let l ← l.noteKey?
  let (t, p) ← read? l.place
  return { l.put t with place := p, keyAllowed := false }

def blockScalar? (l : Layout) (literal : Bool) : Option Layout := do
  let l ← l.dropKey?
  let (text, p) ← Block.read? literal l.columns.head? l.place.skip
  return { l.put (.scalar false (String.ofList text)) with place := p, keyAllowed := true }

def quotedScalar? (l : Layout) (quote : Char) : Option Layout :=
  l.keyPart? fun p =>
    (Quoted.read? quote p.skip).map fun (text, q) => (.scalar false (String.ofList text), q)

/-- A plain scalar. A key may follow it on a line of its own. -/
def plainScalar? (l : Layout) : Option Layout := do
  let l ← l.noteKey?
  let left := l.columns.head?.elim 0 (· + 1)
  let (text, broken, p) ← Plain.read? l.inFlow left l.place
  return { l.put (.scalar true (String.ofList text)) with place := p, keyAllowed := broken }

/-- Whether a plain scalar may start with a character before the given rest. -/
def startsPlain (inFlow : Bool) (c : Char) (rest : List Char) : Bool :=
  let marks := "-?:,[]\x7b\x7d#&*!|>'\"%@\x60".toList
  !(isWhite c || isBreak c || marks.contains c) ||
    (c == '-' && !rest.head?.any isWhite) ||
    (!inFlow && (c == '?' || c == ':') && !atGap rest)

/-- The token that starts with the character `c`, before the given rest. -/
def token? (l : Layout) (c : Char) (rest : List Char) : Option Layout :=
  let documentMark := l.place.atDocumentMark
  let alone := atGap rest
  if l.place.column = 0 ∧ c = '%' then l.directive?
  else if documentMark then l.documentMark? (if c = '-' then .documentStart else .documentEnd)
  else if c = '[' then l.openFlow? .flowSequence
  else if c = '\x7b' then l.openFlow? .flowMapping
  else if c = ']' then l.closeFlow? .flowSequenceEnd
  else if c = '\x7d' then l.closeFlow? .flowMappingEnd
  else if c = ',' then l.flowEntry?
  else if c = '-' ∧ alone then l.blockEntry?
  else if c = '?' ∧ (l.inFlow ∨ alone) then l.key?
  else if c = ':' ∧ (l.inFlow ∨ alone) then l.value?
  else if c = '*' then
    l.keyPart? fun p => (Mark.name? p.skip).map fun (name, q) => (.aliasOf name, q)
  else if c = '&' then
    l.keyPart? fun p => (Mark.name? p.skip).map fun (name, q) => (.anchor name, q)
  else if c = '!' then l.keyPart? (Mark.tag? l.inFlow)
  else if c = '|' ∧ !l.inFlow then l.blockScalar? true
  else if c = '>' ∧ !l.inFlow then l.blockScalar? false
  else if c = '\'' ∨ c = '"' then l.quotedScalar? c
  else if startsPlain l.inFlow c rest then l.plainScalar?
  else none

/-- Reads one more token. -/
def step? (l : Layout) : Option Layout := do
  let l ← (skipGap (l.place.rest.length + 1) l).dropStaleKeys?
  match l.place.rest with
  | [] => l.streamEnd?
  | c :: rest => (l.outdent (some l.place.column)).token? c rest

/-! ## All tokens -/

/-- How many of the waiting tokens stand before all starts of keys. -/
def readyCount (l : Layout) : Nat :=
  let starts := (l.blockKey :: l.flowKeys).filterMap (·.map (·.token - l.handed))
  starts.foldl min l.waiting.length

/-- The tokens from here on. They stop short where the text is not YAML: then those that wait are
lost too. -/
def tokensFrom : Nat → Layout → List Token
  | 0, _ => []
  | fuel + 1, l =>
    match l.step?.bind dropStaleKeys? with
    | none => []
    | some l =>
      let ready := l.readyCount
      let rest := { l with waiting := l.waiting.drop ready, handed := l.handed + ready }
      l.waiting.take ready ++ if l.ended then [] else tokensFrom fuel rest

end Layout

/-- The tokens of a text. They end with the end of the stream only if the whole text is YAML, as
far as tokens can tell. -/
def Token.all (s : List Char) : List Token :=
  let text := if s.head? = some '\ufeff' then s.tail else s
  if text.all isAllowed then Layout.tokensFrom (text.length + 2) (.start text) else []

end DocCorpus.Yaml
