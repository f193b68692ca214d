/-
  Keys and values in TOML text. Arrays and tables in braces nest fewer than `depthBound` deep.
-/
import DocCorpus.Toml.Moment
import DocCorpus.Toml.Numeral
import DocCorpus.Toml.Section
import DocCorpus.Toml.Text

namespace DocCorpus.Toml

/-- A bound on the depth of values and on the length of dotted keys. -/
def depthBound : Nat := 80

/-! ## Keys -/

def isKeyChar (c : Char) : Bool := c.isAlphanum || c == '-' || c == '_'

/-- One key: a string on one line or bare characters. -/
def simpleKey? (s : List Char) : Option (List Char × List Char) :=
  match s with
  | '"' :: rest => Text.basic? rest
  | '\'' :: rest => Text.literal? rest
  | s =>
    let name := s.takeWhile isKeyChar
    if name = [] then none else some (name, s.drop name.length)

/-- The keys between dots, with white space around them, in a text of at most `fuel`
characters. -/
def dottedKeys? : Nat → List Char → Option (List String × List Char)
  | 0, _ => none
  | fuel + 1, s => do
    let (name, rest) ← simpleKey? (dropWhite s)
    let key := String.ofList name
    match dropWhite rest with
    | '.' :: rest =>
      let (keys, rest) ← dottedKeys? fuel rest
      return (key :: keys, rest)
    | rest => return ([key], rest)

/-- The keys that lead to a table, the last key, and what follows them. -/
def key? (s : List Char) : Option (List String × String × List Char) := do
  let (keys, rest) ← dottedKeys? (s.length + 1) s
  if depthBound ≤ keys.length then none
  else return (keys.dropLast, ← keys.getLast?, rest)

/-! ## Values -/

/-- The member that holds the text of a moment: a moment stands as a table with this member. -/
def momentKey : String := "$__toml_private_datetime"

def ofMoment (s : List Char) : Tree := .table [(momentKey, .text (String.ofList s))]

/-- A character of numbers, moments and names of values. -/
def isScalarChar (c : Char) : Bool :=
  c.isAlphanum || c == '+' || c == '-' || c == '_' || c == '.' || c == ':'

/-- A date with the time that a single space parts from it. -/
def parted? (date s : List Char) : Option (Tree × List Char) :=
  match Moment.date? date, s with
  | some (date, []), ' ' :: rest =>
    let clock := rest.takeWhile isScalarChar
    (Moment.clock? clock).map fun time =>
      (ofMoment (date ++ 'T' :: time), rest.drop clock.length)
  | _, _ => none

/-- The number, moment or truth value at the start of a text, and what follows it. -/
def scalar? (s : List Char) : Option (Tree × List Char) :=
  let word := s.takeWhile isScalarChar
  let rest := s.drop word.length
  if word = "true".toList then some (.boolean true, rest)
  else if word = "false".toList then some (.boolean false, rest)
  else
    match parted? word rest with
    | some found => some found
    | none =>
      match Moment.read? word with
      | some moment => some (ofMoment moment, rest)
      | none => (Numeral.read? word).map fun t => (t, rest)

mutual

/-- The value at the start of a text, inside `depth` others, and what follows it. -/
def value? : Nat → Nat → List Char → Option (Tree × List Char)
  | 0, _, _ => none
  | fuel + 1, depth, s =>
    match s with
    | [] => none
    | c :: rest =>
      if c = '"' ∨ c = '\'' then
        (Text.read? s).map fun (text, rest) => (.text (String.ofList text), rest)
      else if c = '[' then
        if depthBound ≤ depth + 1 then none
        else (items? fuel (depth + 1) rest).map fun (items, rest) => (.list items, rest)
      else if c = '\x7b' then
        if depthBound ≤ depth + 1 then none
        else
          match dropWhite rest with
          | '\x7d' :: rest => some (.table [], rest)
          | rest =>
            (pairs? fuel (depth + 1) [] rest).map fun (members, rest) =>
              (.table (membersToTrees members), rest)
      else scalar? s

/-- The items of an array up to its closing bracket. -/
def items? : Nat → Nat → List Char → Option (List Tree × List Char)
  | 0, _, _ => none
  | fuel + 1, depth, s =>
    match dropGap s with
    | ']' :: rest => some ([], rest)
    | rest => do
      let (item, rest) ← value? fuel depth rest
      match dropGap rest with
      | ']' :: rest => return ([item], rest)
      | ',' :: rest =>
        let (items, rest) ← items? fuel depth rest
        return (item :: items, rest)
      | _ => none

/-- The members of a table in braces, after some of them, up to the closing brace. -/
def pairs? : Nat → Nat → Members → List Char → Option (Members × List Char)
  | 0, _, _, _ => none
  | fuel + 1, depth, members, s => do
    let (path, key, rest) ← key? s
    let '=' :: rest := rest | none
    let (t, rest) ← value? fuel depth (dropWhite rest)
    let members ← members.insert? path key t .declared
    match dropWhite rest with
    | '\x7d' :: rest => return (members, rest)
    | ',' :: rest => pairs? fuel depth members rest
    | _ => none

end

end DocCorpus.Toml
