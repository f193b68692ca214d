/-
  Asides of a text. A line is read in one of three ways: as text, in code, or in an aside
  (`Reading.after`), and what is left of a text without its asides is told line by line
  (`Reading.left_cons`, `Reading.left_append`). Where no fence stands in an aside, only lines that
  are no fences are lost (`PlainAsides.thinned_left`).
-/
import DocCorpus.Proofs.Minify.Comments

namespace DocCorpus.Minify

/-! ## How a line is read -/

/-- What a line stands in: the text, fenced code, or an aside with a number of asides around it. -/
inductive Reading
  | text
  | code
  | aside (outer : Nat)
  deriving DecidableEq

namespace Reading

def depth : Reading → Nat
  | .text => 0
  | .code => 0
  | .aside outer => outer + 1

def inCode : Reading → Bool
  | .text => false
  | .code => true
  | .aside _ => false

/-- What the line behind the end of an aside stands in. -/
def closed : Nat → Reading
  | 0 => .text
  | outer + 1 => .aside outer

/-- What the line behind a line stands in. -/
def after : Reading → List Char → Reading
  | .text, line =>
    if isFence line then .code else if opensAside line then .aside 0 else .text
  | .code, line => if isFence line then .text else .code
  | .aside outer, line =>
    if opensAside line then .aside (outer + 1)
    else if closesAside line then closed outer
    else .aside outer

/-- Whether a line is left when asides are taken. -/
def keeps : Reading → List Char → Bool
  | .text, line => !opensAside line
  | .code, _ => true
  | .aside _, _ => false

/-- What the line behind some lines stands in, if the first one stands in the text. -/
def ofLines (ls : List (List Char)) : Reading := ls.foldl after .text

/-- The lines that are left when asides are taken. -/
def left (r : Reading) (ls : List (List Char)) : List (List Char) :=
  outsideAsides r.depth r.inCode ls

variable (r : Reading) {line : List Char} {ls ls' : List (List Char)}

theorem left_nil : r.left [] = [] := rfl

theorem left_cons (line : List Char) (ls : List (List Char)) :
    r.left (line :: ls) =
      if r.keeps line then line :: (r.after line).left ls else (r.after line).left ls := by
  unfold left
  cases r with
  | text =>
    cases hfence : isFence line with
    | true =>
      have hopens := not_opensAside_of_isFence hfence
      simp [outsideAsides, after, keeps, depth, inCode, hfence, hopens]
    | false =>
      cases hopens : opensAside line <;>
        simp [outsideAsides, after, keeps, depth, inCode, hfence, hopens]
  | code =>
    cases hfence : isFence line with
    | true =>
      have hopens := not_opensAside_of_isFence hfence
      simp [outsideAsides, after, keeps, depth, inCode, hfence, hopens]
    | false => simp [outsideAsides, after, keeps, depth, inCode, hfence]
  | aside outer =>
    cases hopens : opensAside line with
    | true => simp [outsideAsides, after, keeps, depth, inCode, hopens]
    | false =>
      cases hcloses : closesAside line with
      | true =>
        cases outer <;> simp [outsideAsides, after, closed, keeps, depth, inCode, hopens, hcloses]
      | false => simp [outsideAsides, after, keeps, depth, inCode, hopens, hcloses]

theorem inCode_closed (outer : Nat) : (closed outer).inCode = false := by
  cases outer <;> rfl

/-- No fence is seen in an aside. -/
theorem inCode_after_aside (outer : Nat) (line : List Char) :
    ((Reading.aside outer).after line).inCode = false := by
  simp only [after]
  split
  · rfl
  · split
    · exact inCode_closed outer
    · rfl

/-- What is left of a text is left of its parts, each read behind the ones before it. -/
theorem left_append (ls ls' : List (List Char)) :
    r.left (ls ++ ls') = r.left ls ++ (ls.foldl after r).left ls' := by
  induction ls generalizing r with
  | nil => rfl
  | cons line ls ih =>
    rw [List.cons_append, left_cons, left_cons, List.foldl_cons, ih]
    split <;> rfl

theorem left_sublist (ls : List (List Char)) : (r.left ls).Sublist ls := by
  induction ls generalizing r with
  | nil => exact .slnil
  | cons line ls ih =>
    rw [left_cons]
    split
    · exact (ih _).cons_cons line
    · exact (ih _).cons line

/-- The fences that are left tell where the lines behind them stand. -/
theorem codeAfter_left (ls : List (List Char)) :
    codeAfter r.inCode (r.left ls) = (ls.foldl after r).inCode := by
  induction ls generalizing r with
  | nil => rfl
  | cons line ls ih =>
    rw [left_cons, List.foldl_cons, ← ih]
    cases r with
    | text =>
      cases hopens : opensAside line with
      | true =>
        have hfence := not_isFence_of_opensAside hopens
        simp [keeps, after, inCode, hfence, hopens]
      | false =>
        cases hfence : isFence line <;>
          simp [keeps, after, inCode, codeAfter_cons, hfence, hopens]
    | code =>
      cases hfence : isFence line <;> simp [keeps, after, inCode, codeAfter_cons, hfence]
    | aside outer =>
      rw [inCode_after_aside]
      rfl

/-- No fence stands in an aside. -/
def PlainAsides (ls : List (List Char)) : Prop :=
  ∀ i (h : i < ls.length), 0 < ((ls.take i).foldl after r).depth → isFence ls[i] = false

instance (ls : List (List Char)) : Decidable (r.PlainAsides ls) :=
  inferInstanceAs (Decidable (∀ i (h : i < ls.length),
    0 < ((ls.take i).foldl after r).depth → isFence ls[i] = false))

/-- Where no fence stands in an aside, no fence is lost. -/
theorem PlainAsides.thinned_left (h : r.PlainAsides ls) : Thinned (r.left ls) ls := by
  induction ls generalizing r with
  | nil => exact .nil
  | cons line ls ih =>
    have hrest : Thinned ((r.after line).left ls) ls :=
      ih _ fun i hi => h (i + 1) (Nat.succ_lt_succ hi)
    rw [left_cons]
    split
    · exact .keep List.infix_rfl rfl hrest
    · next hkeeps =>
      refine .drop ?_ hrest
      cases r with
      | text => exact not_isFence_of_opensAside (by simpa [keeps] using hkeeps)
      | code => exact absurd rfl hkeeps
      | aside outer => exact h 0 (Nat.zero_lt_succ _) (Nat.zero_lt_succ outer)

/-- Behind every aside the fences, those in asides included, tell whether a line stands in code. -/
def InStep (inCode : Bool) (ls : List (List Char)) : Prop :=
  ∀ i < ls.length, ((ls.take i).foldl after r).depth = 0 →
    codeAfter inCode (ls.take i) = ((ls.take i).foldl after r).inCode

instance (inCode : Bool) (ls : List (List Char)) : Decidable (r.InStep inCode ls) :=
  inferInstanceAs (Decidable (∀ i < ls.length, ((ls.take i).foldl after r).depth = 0 →
    codeAfter inCode (ls.take i) = ((ls.take i).foldl after r).inCode))

variable {r} {inCode : Bool}

/-- The lines outside code that are left were outside code before. -/
theorem InStep.outsideLines_left (h : r.InStep inCode ls) :
    (outsideLines r.inCode (r.left ls)).Sublist (outsideLines inCode ls) := by
  induction ls generalizing r inCode with
  | nil => exact .slnil
  | cons line ls ih =>
    have hrest := @ih (r.after line) (inCode ^^ isFence line) fun i hi =>
      h (i + 1) (Nat.succ_lt_succ hi)
    have hfirst : r.depth = 0 → inCode = r.inCode := h 0 (Nat.zero_lt_succ _)
    cases r with
    | aside outer =>
      have hleft : (aside outer).left (line :: ls) = ((aside outer).after line).left ls := by
        rw [left_cons, if_neg (show ¬ (aside outer).keeps line = true from Bool.false_ne_true)]
      rw [inCode_after_aside] at hrest
      rw [hleft, outsideLines_cons]
      split
      · exact hrest
      · next hplain =>
        rw [Bool.not_eq_true, Bool.or_eq_false_iff] at hplain
        obtain ⟨rfl, hfence⟩ := hplain
        rw [hfence] at hrest
        exact hrest.cons line
    | text =>
      obtain rfl : inCode = false := hfirst rfl
      rw [left_cons, outsideLines_cons]
      cases hopens : opensAside line with
      | true =>
        have hfence := not_isFence_of_opensAside hopens
        simpa [keeps, after, Reading.inCode, hfence, hopens] using hrest.cons line
      | false =>
        cases hfence : isFence line <;>
          simpa [keeps, after, outsideLines_cons, Reading.inCode, hfence, hopens] using hrest
    | code =>
      obtain rfl : inCode = true := hfirst rfl
      rw [left_cons, outsideLines_cons]
      cases hfence : isFence line <;>
        simpa [keeps, after, outsideLines_cons, Reading.inCode, hfence] using hrest

end Reading

theorem stripAsides_eq (s : List Char) :
    stripAsides s = Text.unlines (Reading.text.left (Text.lines s)) := rfl

/-! ## Fenced code -/

variable {inner : List (List Char)} {opening closing : List Char}

theorem left_code (h : ∀ line ∈ inner, isFence line = false) (hclosing : isFence closing = true)
    (rest : List (List Char)) :
    Reading.code.left (inner ++ closing :: rest) =
      inner ++ closing :: Reading.text.left rest := by
  induction inner with
  | nil =>
    rw [List.nil_append, Reading.left_cons]
    simp [Reading.keeps, Reading.after, hclosing]
  | cons line inner ih =>
    obtain ⟨hline, hinner⟩ := List.forall_mem_cons.1 h
    rw [List.cons_append, Reading.left_cons]
    simp [Reading.keeps, Reading.after, hline, ih hinner]

/-- Fenced code in the text is left as it is. -/
theorem Fenced.left_cons (h : Fenced opening inner closing) (rest : List (List Char)) :
    Reading.text.left (opening :: (inner ++ closing :: rest)) =
      opening :: (inner ++ closing :: Reading.text.left rest) := by
  have hopens := not_opensAside_of_isFence h.opens
  rw [Reading.left_cons]
  simp [Reading.keeps, Reading.after, h.opens, hopens, left_code h.one h.closes]

end DocCorpus.Minify
