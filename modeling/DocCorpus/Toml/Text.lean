/-
  Strings in TOML text: basic ones, in which a backslash starts an escape, and literal ones. Three
  quotes around a string let it run over several lines.
-/
import DocCorpus.Number.Digit
import DocCorpus.Toml.Gap

namespace DocCorpus.Toml.Text

def shortEscape? (c : Char) : Option Char :=
  match c with
  | 'b' => some '\x08'
  | 't' => some '\t'
  | 'n' => some '\n'
  | 'f' => some '\x0c'
  | 'r' => some '\r'
  | '"' => some '"'
  | '\\' => some '\\'
  | _ => none

/-- The number of hexadecimal digits that an escape takes. -/
def codeLength? (c : Char) : Option Nat :=
  match c with
  | 'u' => some 4
  | 'U' => some 8
  | _ => none

/-- The character that an escape stands for, and the number of characters after the backslash. -/
def escape? : List Char → Option (Char × Nat)
  | [] => none
  | c :: rest =>
    match codeLength? c with
    | some n =>
      if rest.length < n then none
      else
        ((Digit.natural? 16 (rest.take n)).filter Nat.isValidChar).map fun e =>
          (Char.ofNat e, n + 1)
    | none => (shortEscape? c).map fun e => (e, 1)

/-! ## One line -/

/-- The text up to the closing quote of a basic string, and what follows it. -/
def basic? (s : List Char) : Option (List Char × List Char) :=
  match s with
  | [] => none
  | c :: rest =>
    if c = '"' then some ([], rest)
    else if c = '\\' then
      match escape? rest with
      | none => none
      | some (e, n) => (basic? (rest.drop n)).map fun (text, rest) => (e :: text, rest)
    else if isPrintable c then (basic? rest).map fun (text, rest) => (c :: text, rest)
    else none
termination_by s.length
decreasing_by all_goals simp +arith

/-- The text up to the closing quote of a literal string, and what follows it. -/
def literal? : List Char → Option (List Char × List Char)
  | [] => none
  | c :: rest =>
    if c = '\'' then some ([], rest)
    else if isPrintable c then (literal? rest).map fun (text, rest) => (c :: text, rest)
    else none

/-! ## Several lines -/

/-- The text after white space and line ends. -/
def dropBlankLines : List Char → List Char
  | [] => []
  | '\n' :: rest => dropBlankLines rest
  | '\r' :: '\n' :: rest => dropBlankLines rest
  | c :: rest => if isWhite c then dropBlankLines rest else c :: rest

/-- The text after the gap that a backslash at the end of a line hides. -/
def afterFold? (s : List Char) : Option (List Char) :=
  (afterLineEnd? (dropWhite s)).map dropBlankLines

/-- The text up to three closing quotes, and what follows them. One or two quotes more belong to
the text, and a backslash at the end of a line of a basic string hides the gap that follows. The
text is at most `fuel` characters long. -/
def lines? (quote : Char) : Nat → List Char → Option (List Char × List Char)
  | 0, _ => none
  | fuel + 1, s =>
    let quotes := s.takeWhile (· == quote)
    if 3 ≤ quotes.length then
      let kept := min (quotes.length - 3) 2
      some (quotes.take kept, s.drop (kept + 3))
    else
      let next := fun (text rest : List Char) =>
        (lines? quote fuel rest).map fun (more, rest) => (text ++ more, rest)
      match s with
      | [] => none
      | '\n' :: rest => next ['\n'] rest
      | '\r' :: '\n' :: rest => next ['\n'] rest
      | c :: rest =>
        if c = '\\' ∧ quote = '"' then
          match afterFold? rest with
          | some rest => next [] rest
          | none =>
            match escape? rest with
            | none => none
            | some (e, n) => next [e] (rest.drop n)
        else if isPrintable c then next [c] rest
        else none

/-- A string that starts with three quotes; a line end right after them is no part of it. -/
def afterTriple? (quote : Char) (s : List Char) : Option (List Char × List Char) :=
  let s := (afterLineEnd? s).getD s
  lines? quote (s.length + 1) s

/-- The string at the start of a text, and what follows it. -/
def read? : List Char → Option (List Char × List Char)
  | '"' :: '"' :: '"' :: rest => afterTriple? '"' rest
  | '\'' :: '\'' :: '\'' :: rest => afterTriple? '\'' rest
  | '"' :: rest => basic? rest
  | '\'' :: rest => literal? rest
  | _ => none

end DocCorpus.Toml.Text
