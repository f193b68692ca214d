/-
  Dates and times in TOML text. A moment is checked and brought to one spelling: a capital T, and
  a fraction of a second without zeros at its end.
-/
import DocCorpus.Number.Digit

namespace DocCorpus.Toml.Moment

/-- Two digits at the start of a text that write a number within bounds. -/
def pair? (least most : Nat) : List Char → Option (Nat × List Char)
  | a :: b :: rest =>
    match Digit.natural? 10 [a, b] with
    | some n => if least ≤ n ∧ n ≤ most then some (n, rest) else none
    | none => none
  | _ => none

def isLeapYear (year : Nat) : Bool := year % 4 == 0 && (year % 100 != 0 || year % 400 == 0)

def daysIn (year month : Nat) : Nat :=
  if month = 2 then (if isLeapYear year then 29 else 28)
  else if month ∈ [4, 6, 9, 11] then 30
  else 31

/-- The date at the start of a text, and what follows it. -/
def date? (s : List Char) : Option (List Char × List Char) := do
  let year ← Digit.natural? 10 (s.take 4)
  let '-' :: rest := s.drop 4 | none
  let (month, rest) ← pair? 1 12 rest
  let '-' :: rest := rest | none
  let (_, rest) ← pair? 1 (daysIn year month) rest
  return (s.take 10, rest)

/-- A fraction of a second, of which nine digits count. -/
def fraction? : List Char → Option (List Char × List Char)
  | '.' :: rest =>
    let digits := rest.takeWhile Char.isDigit
    let counted := ((digits.take 9).reverse.dropWhile (· == '0')).reverse
    if digits = [] then none
    else some (if counted = [] then [] else '.' :: counted, rest.drop digits.length)
  | rest => some ([], rest)

/-- The time at the start of a text, and what follows it. -/
def time? (s : List Char) : Option (List Char × List Char) := do
  let (_, rest) ← pair? 0 23 s
  let ':' :: rest := rest | none
  let (_, rest) ← pair? 0 59 rest
  let ':' :: rest := rest | none
  let (_, rest) ← pair? 0 60 rest
  let (fraction, rest) ← fraction? rest
  return (s.take 8 ++ fraction, rest)

/-- The distance from universal time at the start of a text, if there is one. -/
def offset? : List Char → Option (List Char × List Char)
  | [] => some ([], [])
  | c :: rest =>
    if c = 'Z' ∨ c = 'z' then some (['Z'], rest)
    else if c = '+' ∨ c = '-' then do
      let (hours, after) ← pair? 0 23 rest
      let ':' :: after := after | none
      let (minutes, after) ← pair? 0 59 after
      let sign := if hours = 0 ∧ minutes = 0 then '+' else c
      return (sign :: rest.take 5, after)
    else some ([], c :: rest)

/-- A time with its distance from universal time, and nothing else. -/
def clock? (s : List Char) : Option (List Char) := do
  let (time, rest) ← time? s
  let (offset, rest) ← offset? rest
  if rest = [] then return time ++ offset else none

/-- A whole text that is a moment, in its one spelling. -/
def read? (s : List Char) : Option (List Char) :=
  match date? s with
  | some (date, []) => some date
  | some (date, c :: rest) =>
    if c = 'T' ∨ c = 't' then (clock? rest).map (date ++ 'T' :: ·) else none
  | none =>
    match time? s with
    | some (time, []) => some time
    | _ => none

end DocCorpus.Toml.Moment
