/-
  Percent-encoded text: a percent sign and two hexadecimal digits stand for a byte, any other
  character for itself.
-/
import DocCorpus.Number.Digit

namespace DocCorpus.Percent

/-- The byte that two hexadecimal digits spell. -/
def byte? (a b : Char) : Option UInt8 := (Digit.natural? 16 [a, b]).map UInt8.ofNat

/-- The bytes of a text with its encoded bytes decoded. -/
def bytes : List Char → List UInt8
  | '%' :: a :: b :: rest =>
    match byte? a b with
    | some byte => byte :: bytes rest
    | none => (String.singleton '%').toUTF8.toList ++ bytes (a :: b :: rest)
  | c :: rest => (String.singleton c).toUTF8.toList ++ bytes rest
  | [] => []

/-- The decoded text, if its bytes are one. -/
def decode? (s : List Char) : Option (List Char) :=
  (String.fromUTF8? ⟨(bytes s).toArray⟩).map String.toList

end DocCorpus.Percent
