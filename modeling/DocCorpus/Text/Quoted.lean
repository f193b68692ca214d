/-
  Quoted text in messages: the text between double quotes, with the characters that would break
  or hide it spelled out.
-/
import DocCorpus.Text.Printable

namespace DocCorpus

/-- What a quotation spells out besides the double quote, the backslash and what cannot be
printed. -/
structure QuoteStyle where
  apostrophe : Bool

namespace QuoteStyle

/-- Values of a data format in messages: an apostrophe stands for itself. -/
def value : QuoteStyle := ⟨false⟩

/-- Paths in messages: an apostrophe is spelled out too. -/
def path : QuoteStyle := ⟨true⟩

/-- The number of a character, in lower-case hexadecimal digits. -/
def numbered (c : Char) : List Char :=
  ['\\', 'u', '{'] ++ Nat.toDigits 16 c.toNat ++ ['}']

def spell (style : QuoteStyle) (c : Char) : List Char :=
  if c = '\x00' then ['\\', '0']
  else if c = '\t' then ['\\', 't']
  else if c = '\r' then ['\\', 'r']
  else if c = '\n' then ['\\', 'n']
  else if c = '\\' ∨ c = '"' ∨ (c = '\'' ∧ style.apostrophe) then ['\\', c]
  else if graphemeExtenders.has c ∨ unprintableChars.has c then numbered c
  else [c]

/-- The text in double quotes. -/
def quote (style : QuoteStyle) (s : String) : String :=
  "\"" ++ String.ofList (s.toList.flatMap style.spell) ++ "\""

end QuoteStyle
end DocCorpus
