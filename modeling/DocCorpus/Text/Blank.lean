/-
  Blank characters and what is done with them: trimming a text and cutting it into words.
  Trimming leaves a text that neither starts nor ends with a blank (`head_trim`, `last_trim`), and
  takes nothing from such a text (`strip_eq_self`).
-/
import DocCorpus.Text.CharSet

namespace DocCorpus

/-- Characters with the Unicode property White_Space. -/
def blankChars : CharSet := ⟨[
    (0x9, 0xd), (0x20, 0x20), (0x85, 0x85), (0xa0, 0xa0), (0x1680, 0x1680), (0x2000, 0x200a),
    (0x2028, 0x2029), (0x202f, 0x202f), (0x205f, 0x205f), (0x3000, 0x3000)]⟩

def isBlank (c : Char) : Bool := blankChars.has c

namespace Text

/-- The text without the longest tail whose characters satisfy `p`. -/
def dropEnd (p : Char → Bool) (s : List Char) : List Char :=
  (s.reverse.dropWhile p).reverse

/-- The text without the longest head and the longest tail whose characters satisfy `p`. -/
def strip (p : Char → Bool) (s : List Char) : List Char :=
  dropEnd p (s.dropWhile p)

def trimStart (s : List Char) : List Char := s.dropWhile isBlank

def trimEnd (s : List Char) : List Char := dropEnd isBlank s

def trim (s : List Char) : List Char := strip isBlank s

/-- The maximal runs of characters outside `p`, where `word` holds the current run backwards. -/
def runs (p : Char → Bool) (word : List Char) : List Char → List (List Char)
  | [] => if word = [] then [] else [word.reverse]
  | c :: rest =>
    if p c then
      if word = [] then runs p [] rest else word.reverse :: runs p [] rest
    else runs p (c :: word) rest

/-- The words of a text: its maximal runs of characters that are not blank. -/
def words (s : List Char) : List (List Char) := runs isBlank [] s

/-! ## Trimming -/

theorem dropWhile_head {p : Char → Bool} {s : List Char} {c : Char}
    (h : (s.dropWhile p).head? = some c) : p c = false := by
  induction s with
  | nil => simp at h
  | cons d s ih =>
    by_cases hd : p d
    · exact ih (by simpa [List.dropWhile_cons, hd] using h)
    · simp [hd] at h
      simpa [h] using hd

theorem dropEnd_last {p : Char → Bool} {s : List Char} {c : Char}
    (h : (dropEnd p s).getLast? = some c) : p c = false := by
  rw [dropEnd, List.getLast?_reverse] at h
  exact dropWhile_head h

theorem dropEnd_head {p : Char → Bool} {s : List Char} {c : Char}
    (h : (dropEnd p s).head? = some c) : s.head? = some c := by
  have hs : ∃ t, s = dropEnd p s ++ t := by
    refine ⟨(s.reverse.takeWhile p).reverse, ?_⟩
    rw [dropEnd, ← List.reverse_append, List.takeWhile_append_dropWhile, List.reverse_reverse]
  obtain ⟨t, ht⟩ := hs
  rw [ht, List.head?_append, h]
  rfl

theorem head_strip {p : Char → Bool} {s : List Char} {c : Char}
    (h : (strip p s).head? = some c) : p c = false :=
  dropWhile_head (dropEnd_head h)

theorem last_strip {p : Char → Bool} {s : List Char} {c : Char}
    (h : (strip p s).getLast? = some c) : p c = false :=
  dropEnd_last h

theorem dropWhile_eq_self {p : Char → Bool} {s : List Char}
    (h : ∀ c, s.head? = some c → p c = false) : s.dropWhile p = s := by
  cases s with
  | nil => rfl
  | cons c s => simp [h c rfl]

theorem dropEnd_eq_self {p : Char → Bool} {s : List Char}
    (h : ∀ c, s.getLast? = some c → p c = false) : dropEnd p s = s := by
  rw [dropEnd, dropWhile_eq_self (by simpa using h), List.reverse_reverse]

/-- Nothing is taken from a text whose ends are outside `p`. -/
theorem strip_eq_self {p : Char → Bool} {s : List Char}
    (head : ∀ c, s.head? = some c → p c = false) (last : ∀ c, s.getLast? = some c → p c = false) :
    strip p s = s := by
  rw [strip, dropWhile_eq_self head, dropEnd_eq_self last]

theorem strip_strip (p : Char → Bool) (s : List Char) : strip p (strip p s) = strip p s :=
  strip_eq_self (fun _ => head_strip) (fun _ => last_strip)

theorem head_trim {s : List Char} {c : Char} (h : (trim s).head? = some c) :
    isBlank c = false :=
  head_strip h

theorem last_trim {s : List Char} {c : Char} (h : (trim s).getLast? = some c) :
    isBlank c = false :=
  last_strip h

end Text
end DocCorpus
