/-
  Cutting a text in two: at a character, at the first occurrence of a mark, or after a fixed head
  or before a fixed tail. The parts make up the text again (`dropHead?_eq_some`,
  `dropTail?_eq_some`, `cutAt?_eq_some`).
-/

namespace DocCorpus.Text

/-- What follows `head` in a text that starts with it. -/
def dropHead? : List Char → List Char → Option (List Char)
  | [], s => some s
  | _ :: _, [] => none
  | a :: head, c :: s => if a = c then dropHead? head s else none

/-- What precedes `tail` in a text that ends with it. -/
def dropTail? (tail s : List Char) : Option (List Char) :=
  (dropHead? tail.reverse s.reverse).map List.reverse

def startsWith (head s : List Char) : Bool := (dropHead? head s).isSome

def endsWith (tail s : List Char) : Bool := (dropTail? tail s).isSome

/-- The text before the first character that satisfies `p`. -/
def before (p : Char → Bool) (s : List Char) : List Char := s.takeWhile fun c => !p c

/-- The parts before and after the last `sep`. -/
def cutLast? (sep : Char) (s : List Char) : Option (List Char × List Char) :=
  match s.reverse.dropWhile (· ≠ sep) with
  | [] => none
  | _ :: front => some (front.reverse, (s.reverse.takeWhile (· ≠ sep)).reverse)

/-- The parts before and after the first `sep`. -/
def cutFirst? (sep : Char) (s : List Char) : Option (List Char × List Char) :=
  match s.dropWhile (· ≠ sep) with
  | [] => none
  | _ :: back => some (s.takeWhile (· ≠ sep), back)

/-- The parts before and after the first occurrence of `mark`. -/
def cutAt? (mark : List Char) : List Char → Option (List Char × List Char)
  | [] => if mark = [] then some ([], []) else none
  | c :: rest =>
    match dropHead? mark (c :: rest) with
    | some back => some ([], back)
    | none => (cutAt? mark rest).map fun (front, back) => (c :: front, back)

theorem dropHead?_eq_some {head s rest : List Char} :
    dropHead? head s = some rest ↔ s = head ++ rest := by
  induction head generalizing s with
  | nil => simp [dropHead?]
  | cons a head ih =>
    cases s with
    | nil => simp [dropHead?]
    | cons c s =>
      by_cases h : a = c
      · simp [dropHead?, h, ih]
      · simp [dropHead?, h, Ne.symm h]

theorem dropTail?_eq_some {tail s front : List Char} :
    dropTail? tail s = some front ↔ s = front ++ tail := by
  unfold dropTail?
  rw [Option.map_eq_some_iff]
  simp only [dropHead?_eq_some]
  constructor
  · rintro ⟨front', hs, rfl⟩
    rw [← List.reverse_reverse s, hs, List.reverse_append, List.reverse_reverse]
  · rintro rfl
    exact ⟨front.reverse, List.reverse_append, List.reverse_reverse front⟩

theorem endsWith_append (s tail : List Char) : endsWith tail (s ++ tail) = true := by
  unfold endsWith
  rw [dropTail?_eq_some.2 rfl]
  rfl

theorem cutAt?_eq_some {mark s front back : List Char} (h : cutAt? mark s = some (front, back)) :
    s = front ++ (mark ++ back) := by
  induction s generalizing front with
  | nil =>
    by_cases hm : mark = []
    · simp [cutAt?, hm] at h
      simp [hm, h]
    · simp [cutAt?, hm] at h
  | cons c s ih =>
    simp only [cutAt?] at h
    split at h
    · rename_i rest hd
      simp only [Option.some.injEq, Prod.mk.injEq] at h
      obtain ⟨rfl, rfl⟩ := h
      simpa using dropHead?_eq_some.1 hd
    · cases hr : cutAt? mark s with
      | none => simp [hr] at h
      | some parts =>
        obtain ⟨front', back'⟩ := parts
        simp only [hr, Option.map_some, Option.some.injEq, Prod.mk.injEq] at h
        obtain ⟨rfl, rfl⟩ := h
        simp [ih hr]

end DocCorpus.Text
