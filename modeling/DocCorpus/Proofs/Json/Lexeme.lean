/-
  Lexemes of written text. What is read first depends on no more of a text than it takes: a string
  ends at its quote, and a number at a character that no number goes on with (`Ends`). A space
  between two lexemes is passed over, and the length of a text is fuel enough to scan it
  (`all_of_isSpace`, `all_of_first?`).

  * `first?_string`: the written form of a string is one lexeme with that content.
  * `first?_integer`: the digits of an integer are one number, of that value within 64 bits
    (`value?_ofInt`).
  * `first?_number_append`: a text that is one number stays one number before whatever ends it.
-/
import DocCorpus.Json.Lexeme
import DocCorpus.Json.Writer
import Mathlib.Data.List.TakeWhile

namespace DocCorpus.Json

/-! ## Digits -/

/-- No number goes on with the text. -/
def Ends (rest : List Char) : Prop :=
  ∀ c, rest.head? = some c → c.isDigit = false ∧ c ≠ '.' ∧ c ≠ 'e' ∧ c ≠ 'E'

theorem ends_cons {c : Char} (rest : List Char)
    (hc : c.isDigit = false ∧ c ≠ '.' ∧ c ≠ 'e' ∧ c ≠ 'E') : Ends (c :: rest) := by
  intro d hd
  obtain rfl : c = d := by simpa using hd
  exact hc

/-- A reading whose first part is mapped leaves the same rest. -/
theorem eq_some_of_map {α β : Type} {f : α → β} {x : Option (α × List Char)} {b : β}
    {r : List Char} (h : x.map (fun (a, rest) => (f a, rest)) = some (b, r)) :
    ∃ a, x = some (a, r) ∧ f a = b := by
  obtain ⟨⟨a, r'⟩, hx, he⟩ := Option.map_eq_some_iff.1 h
  obtain ⟨rfl, rfl⟩ : f a = b ∧ r' = r := by simpa using he
  exact ⟨a, hx, rfl⟩

namespace Lexeme

theorem digits_append {rest : List Char} (hr : Ends rest) (s : List Char) :
    digits (s ++ rest) = ((digits s).1, (digits s).2 ++ rest) := by
  induction s with
  | nil =>
    cases rest with
    | nil => rfl
    | cons c rest => simp [digits, (hr c rfl).1]
  | cons c s ih =>
    simp only [digits, Prod.mk.injEq] at ih
    cases hc : c.isDigit <;> simp [digits, hc, ih.1, ih.2]

theorem digits_of_all {ds rest : List Char} (hds : ∀ c ∈ ds, c.isDigit = true) (hr : Ends rest) :
    digits (ds ++ rest) = (ds, rest) := by
  have hall : digits ds = (ds, []) := by
    simp only [digits, Prod.mk.injEq]
    exact ⟨List.takeWhile_eq_self_iff.2 hds, List.dropWhile_eq_nil_iff.2 hds⟩
  rw [digits_append hr, hall, List.nil_append]

theorem places?_append {rest s r : List Char} {p : Option (List Char)} (hr : Ends rest)
    (h : places? s = some (p, r)) : places? (s ++ rest) = some (p, r ++ rest) := by
  unfold places? at h
  split at h
  · rename_i t
    simp only [List.cons_append, places?, digits_append hr]
    by_cases hds : (digits t).1 = []
    · simp [hds] at h
    · simp only [if_neg hds, Option.some.injEq, Prod.mk.injEq] at h ⊢
      exact ⟨h.1, by rw [h.2]⟩
  · rename_i hpoint
    obtain ⟨rfl, rfl⟩ : none = p ∧ s = r := by simpa using h
    unfold places?
    split
    · rename_i t ht
      exfalso
      cases s with
      | nil => exact (hr '.' (by simpa using congrArg List.head? ht)).2.1 rfl
      | cons c s =>
        obtain ⟨rfl, -⟩ : c = '.' ∧ s ++ rest = t := by simpa using ht
        exact hpoint s rfl
    · rfl

theorem sign_append {s : List Char} (hs : s ≠ []) (rest : List Char) :
    Decimal.sign (s ++ rest) = ((Decimal.sign s).1, (Decimal.sign s).2 ++ rest) := by
  cases s with
  | nil => exact absurd rfl hs
  | cons c s =>
    by_cases hm : c = '-'
    · subst hm; rfl
    · by_cases hp : c = '+'
      · subst hp; rfl
      · simp [Decimal.sign, hm, hp]

theorem power?_append {rest s r : List Char} {p : Option (Bool × List Char)} (hr : Ends rest)
    (h : power? s = some (p, r)) : power? (s ++ rest) = some (p, r ++ rest) := by
  cases s with
  | nil =>
    obtain ⟨rfl, rfl⟩ : none = p ∧ [] = r := by simpa [power?] using h
    cases rest with
    | nil => rfl
    | cons c rest => simp [power?, (hr c rfl).2.2.1, (hr c rfl).2.2.2]
  | cons c s =>
    by_cases he : c = 'e' ∨ c = 'E'
    · simp only [power?, if_pos he] at h
      -- a power without digits is no power, so something stands after the letter
      have hs : s ≠ [] := by rintro rfl; simp [Decimal.sign, digits] at h
      simp only [List.cons_append, power?, if_pos he, sign_append hs, digits_append hr]
      by_cases hds : (digits (Decimal.sign s).2).1 = []
      · simp [hds] at h
      · simp only [if_neg hds, Option.some.injEq, Prod.mk.injEq] at h ⊢
        exact ⟨h.1, by rw [h.2]⟩
    · obtain ⟨rfl, rfl⟩ : none = p ∧ c :: s = r := by simpa [power?, he] using h
      simp [power?, he]

theorem number?_append {negative : Bool} {rest s r : List Char} {n : Numeral} (hr : Ends rest)
    (h : number? negative s = some (n, r)) :
    number? negative (s ++ rest) = some (n, r ++ rest) := by
  simp only [number?, digits_append hr] at h ⊢
  by_cases hwhole :
      (digits s).1 = [] ∨ (digits s).1.head? = some '0' ∧ (digits s).1.length > 1
  · simp [if_pos hwhole] at h
  · simp only [if_neg hwhole] at h ⊢
    simp only [Option.bind_eq_bind, Option.bind_eq_some_iff, Option.pure_def, Option.some.injEq,
      Prod.mk.injEq, Prod.exists] at h ⊢
    obtain ⟨places, s₁, hplaces, power, s₂, hpower, rfl, rfl⟩ := h
    exact ⟨places, _, places?_append hr hplaces, power, _, power?_append hr hpower, rfl, rfl⟩

theorem isDigit_of_number? {negative : Bool} {c : Char} {s r : List Char} {n : Numeral}
    (h : number? negative (c :: s) = some (n, r)) : c.isDigit = true := by
  cases hc : c.isDigit with
  | true => rfl
  | false => simp [number?, digits, hc] at h

/-- A lexeme that starts with a digit is a number. -/
theorem first?_of_isDigit {c : Char} (hc : c.isDigit = true) (s : List Char) :
    first? (c :: s) = (number? false (c :: s)).map fun (n, rest) => (.number n, rest) := by
  have hne : ∀ d : Char, d.isDigit = false → c ≠ d := by
    rintro d hd rfl
    rw [hc] at hd
    exact nomatch hd
  have hn := hne 'n' (by decide)
  have ht := hne 't' (by decide)
  have hf := hne 'f' (by decide)
  have hquote := hne '"' (by decide)
  have hminus := hne '-' (by decide)
  have hmark : ¬(c = '[' ∨ c = ']' ∨ c = '{' ∨ c = '}' ∨ c = ',' ∨ c = ':') := by
    simp only [hne '[' (by decide), hne ']' (by decide), hne '{' (by decide),
      hne '}' (by decide), hne ',' (by decide), hne ':' (by decide), or_self, not_false_eq_true]
  rw [first?.eq_def]
  split <;> simp_all

theorem first?_number_append {rest s r : List Char} {n : Numeral} (hr : Ends rest)
    (h : first? s = some (.number n, r)) : first? (s ++ rest) = some (.number n, r ++ rest) := by
  rw [first?.eq_def] at h
  split at h
  case h_5 t =>
    obtain ⟨m, hnum, hm⟩ := eq_some_of_map h
    cases hm
    simp [first?, number?_append hr hnum]
  case h_6 c t _ _ _ _ _ =>
    split at h
    · simp at h
    · obtain ⟨m, hnum, hm⟩ := eq_some_of_map h
      cases hm
      rw [List.cons_append, first?_of_isDigit (isDigit_of_number? hnum), ← List.cons_append,
        number?_append hr hnum]
      rfl
  all_goals simp at h

/-! ## Integers -/

end Lexeme

/-- The numeral of the digits of an integer. -/
def Numeral.ofInt (n : Int) : Numeral := ⟨decide (n < 0), Nat.toDigits 10 n.natAbs, none, none⟩

theorem digitChar_ne_zero : ∀ d, d < 10 → 0 < d → d.digitChar ≠ '0' := by decide

theorem head?_toDigits_ne_zero {n : Nat} (h : 0 < n) : (Nat.toDigits 10 n).head? ≠ some '0' := by
  induction n using Nat.strongRecOn with
  | ind n ih =>
    by_cases hn : n < 10
    · rw [Nat.toDigits_of_lt_base hn]
      simpa using digitChar_ne_zero n hn h
    · rw [Nat.toDigits_of_base_le (by decide) (by omega), List.head?_append]
      cases hd : (Nat.toDigits 10 (n / 10)).head? with
      | none => simp [Nat.toDigits_ne_nil] at hd
      | some c =>
        rw [Option.some_or, ← hd]
        exact ih (n / 10) (by omega) (by omega)

namespace Lexeme

theorem number?_toDigits {rest : List Char} (hr : Ends rest) (negative : Bool) (n : Nat) :
    number? negative (Nat.toDigits 10 n ++ rest) =
      some (⟨negative, Nat.toDigits 10 n, none, none⟩, rest) := by
  have hds : digits (Nat.toDigits 10 n ++ rest) = (Nat.toDigits 10 n, rest) :=
    digits_of_all (fun c hc => Nat.isDigit_of_mem_toDigits (by decide) (by decide) hc) hr
  have hlead : ¬(Nat.toDigits 10 n = [] ∨
      (Nat.toDigits 10 n).head? = some '0' ∧ (Nat.toDigits 10 n).length > 1) := by
    rintro (h | ⟨h, hlen⟩)
    · exact Nat.toDigits_ne_nil h
    · rcases Nat.eq_zero_or_pos n with rfl | hn
      · simp [Nat.toDigits_zero] at hlen
      · exact head?_toDigits_ne_zero hn h
  have hplaces := places?_append (s := []) (r := []) (p := none) hr rfl
  have hpower := power?_append (s := []) (r := []) (p := none) hr rfl
  rw [List.nil_append] at hplaces hpower
  simp only [number?, hds, if_neg hlead, hplaces, hpower, Option.bind_eq_bind, Option.bind_some,
    Option.pure_def]

theorem first?_integer {rest : List Char} (hr : Ends rest) (n : Int) :
    first? (integer n ++ rest) = some (.number (.ofInt n), rest) := by
  unfold integer
  split
  · rename_i hn
    simp [first?, number?_toDigits hr, Numeral.ofInt, hn]
  · rename_i hn
    obtain ⟨c, ds, hcs⟩ := List.exists_cons_of_ne_nil (Nat.toDigits_ne_nil (b := 10) (n := n.natAbs))
    have hc : c.isDigit = true :=
      Nat.isDigit_of_mem_toDigits (b := 10) (n := n.natAbs) (by decide) (by decide) (by simp [hcs])
    have hnum := number?_toDigits hr false n.natAbs
    rw [hcs, List.cons_append] at hnum ⊢
    rw [first?_of_isDigit hc, hnum]
    simp [Numeral.ofInt, hn, hcs]

end Lexeme

namespace Numeral

theorem le_natFrom (n : Nat) (ds : List Char) : n ≤ Decimal.natFrom n ds := by
  induction ds generalizing n with
  | nil => exact Nat.le_refl n
  | cons c ds ih =>
    have := ih (10 * n + Decimal.digitValue c)
    simp only [Decimal.natFrom, List.foldl_cons] at this ⊢
    omega

/-- Digits that fit a word are read in full. -/
theorem readWhole_eq (n : Nat) (ds : List Char) (h : Decimal.natFrom n ds < wordBound) :
    readWhole ⟨n, 0⟩ ds = ⟨Decimal.natFrom n ds, 0⟩ := by
  induction ds generalizing n with
  | nil => rfl
  | cons c ds ih =>
    have hle := le_natFrom (10 * n + Decimal.digitValue c) ds
    have hn : 10 * n + Decimal.digitValue c < wordBound := Nat.lt_of_le_of_lt hle h
    simp only [readWhole, if_pos hn]
    exact ih _ h

theorem natFrom_toDigits (n : Nat) : Decimal.natFrom 0 (Nat.toDigits 10 n) = n :=
  Nat.ofDigitChars_ten_toDigits

/-- An integer that fits 64 bits, signed or not, is read as that integer. -/
theorem value?_ofInt {n : Int} (hlow : -(Nat.pow 2 63 : Nat) ≤ n) (hhigh : n < (wordBound : Nat)) :
    (ofInt n).value? = some (.integer n) := by
  simp only [wordBound, Nat.pow_eq] at hlow hhigh
  have hbound : n.natAbs < wordBound := by simp only [wordBound, Nat.pow_eq]; omega
  have hread : readWhole ⟨0, 0⟩ (Nat.toDigits 10 n.natAbs) = ⟨n.natAbs, 0⟩ := by
    have := readWhole_eq 0 (Nat.toDigits 10 n.natAbs)
    rw [natFrom_toDigits] at this
    exact this hbound
  by_cases hn : n < 0
  · have hfit : ¬(n.natAbs = 0 ∨ Nat.pow 2 63 < n.natAbs) := by
      simp only [Nat.pow_eq]; omega
    have habs : -(n.natAbs : Int) = n := by omega
    simp only [value?, ofInt, hread, decide_eq_true hn, if_neg hfit]
    rw [if_neg fun h => h rfl, if_neg fun h => h trivial, habs]
  · have habs : (n.natAbs : Int) = n := by omega
    simp only [value?, ofInt, hread, decide_eq_false hn]
    rw [if_neg fun h => h rfl, if_pos (by decide), habs]

end Numeral
/-! ## Strings -/

namespace Lexeme

theorem unit?_control : ∀ n, n < 0x20 →
    unit? '0' '0' (Nat.digitChar (n / 16)) (Nat.digitChar (n % 16)) = some n := by decide

/-- A character is spelled by a short escape, by its number, or by itself. -/
theorem spell_cases (c : Char) :
    (∃ e, spell c = ['\\', e] ∧ e ≠ 'u' ∧ shortEscape? e = some c) ∨
    (c.toNat < 0x20 ∧ spell c =
      ['\\', 'u', '0', '0', Nat.digitChar (c.toNat / 16), Nat.digitChar (c.toNat % 16)]) ∨
    (c ≠ '"' ∧ c ≠ '\\' ∧ ¬c.toNat < 0x20 ∧ spell c = [c]) := by
  unfold spell
  by_cases hcontrol : c.toNat < 0x20
  · split_ifs with h₁ h₂ h₃ h₄ h₅ h₆ h₇
    case neg => exact .inr (.inl ⟨hcontrol, rfl⟩)
    all_goals subst c; exact .inl ⟨_, rfl, by decide, rfl⟩
  · split_ifs with h₁ h₂ h₃ h₄ h₅ h₆ h₇
    case neg => exact .inr (.inr ⟨h₁, h₂, hcontrol, rfl⟩)
    all_goals subst c; exact .inl ⟨_, rfl, by decide, rfl⟩

/-- The spelling of a character is read as one piece, which stands for that character. -/
theorem pieces?_spell (c : Char) : ∃ p : Piece,
    (∀ tail, pieces? (spell c ++ tail) = (pieces? tail).map fun (ps, rest) => (p :: ps, rest)) ∧
      ∀ ps, content? (p :: ps) = (content? ps).map (c :: ·) := by
  rcases spell_cases c with ⟨e, hspell, hu, he⟩ | ⟨hc, hspell⟩ | ⟨hquote, hback, hc, hspell⟩
  · refine ⟨.plain c, fun tail => ?_, fun ps => by simp [content?]⟩
    simp [hspell, pieces?, hu, he]
  · refine ⟨.unit c.toNat, fun tail => ?_, fun ps => ?_⟩
    · simp [hspell, pieces?, unit?_control _ hc]
    · have hhigh : isHigh c.toNat = false := by simp [isHigh]; omega
      have hlow : isLow c.toNat = false := by simp [isLow]; omega
      rw [content?.eq_def]
      simp [hhigh, hlow]
  · refine ⟨.plain c, fun tail => ?_, fun ps => by simp [content?]⟩
    simp [hspell, pieces?, hback, hc]

theorem pieces?_string (s : List Char) : ∃ ps,
    (∀ rest, pieces? (s.flatMap spell ++ '"' :: rest) = some (ps, rest)) ∧
      content? ps = some s := by
  induction s with
  | nil => exact ⟨[], fun rest => rfl, rfl⟩
  | cons c s ih =>
    obtain ⟨ps, hps, hcontent⟩ := ih
    obtain ⟨p, hp, hpc⟩ := pieces?_spell c
    refine ⟨p :: ps, fun rest => ?_, by rw [hpc, hcontent]; rfl⟩
    rw [List.flatMap_cons, List.append_assoc, hp, hps]
    rfl

theorem first?_string (s : String) (rest : List Char) :
    first? (Json.string s ++ rest) = some (.string (some s), rest) := by
  obtain ⟨ps, hps, hcontent⟩ := pieces?_string s.toList
  simp [Json.string, first?, hps, hcontent]

/-! ## Scanning -/

theorem length_pieces? {s r : List Char} {ps : List Piece} (h : pieces? s = some (ps, r)) :
    r.length < s.length := by
  fun_induction pieces? s generalizing ps r with
  | case1 | case3 | case5 | case7 => exact nomatch h
  | case2 rest =>
    obtain ⟨rfl, rfl⟩ : [] = ps ∧ rest = r := by simpa using h
    simp
  | case4 a b c d rest n _ ih | case6 c rest _ e _ ih | case8 c rest _ _ _ _ ih =>
    obtain ⟨ps', hps, -⟩ := eq_some_of_map h
    have := ih hps
    simp only [List.length_cons]
    omega

theorem suffix_places? {s r : List Char} {p : Option (List Char)} (h : places? s = some (p, r)) :
    r <:+ s := by
  unfold places? at h
  split at h
  · rename_i t
    by_cases hds : (digits t).1 = []
    · simp [hds] at h
    · simp only [if_neg hds, Option.some.injEq, Prod.mk.injEq] at h
      rw [← h.2]
      exact (List.dropWhile_suffix _).trans (List.suffix_cons _ _)
  · obtain ⟨-, rfl⟩ : none = p ∧ s = r := by simpa using h
    exact List.suffix_rfl

theorem suffix_sign (s : List Char) : (Decimal.sign s).2 <:+ s := by
  unfold Decimal.sign
  split <;> simp

theorem suffix_power? {s r : List Char} {p : Option (Bool × List Char)}
    (h : power? s = some (p, r)) : r <:+ s := by
  cases s with
  | nil =>
    obtain ⟨-, rfl⟩ : none = p ∧ [] = r := by simpa [power?] using h
    exact List.suffix_rfl
  | cons c s =>
    by_cases he : c = 'e' ∨ c = 'E'
    · simp only [power?, if_pos he] at h
      by_cases hds : (digits (Decimal.sign s).2).1 = []
      · simp [hds] at h
      · simp only [if_neg hds, Option.some.injEq, Prod.mk.injEq] at h
        rw [← h.2]
        exact ((List.dropWhile_suffix _).trans (suffix_sign s)).trans (List.suffix_cons _ _)
    · obtain ⟨-, rfl⟩ : none = p ∧ c :: s = r := by simpa [power?, he] using h
      exact List.suffix_rfl

/-- A number takes its digits before the point, of which there is one, and maybe more. -/
theorem suffix_number? {negative : Bool} {s r : List Char} {n : Numeral}
    (h : number? negative s = some (n, r)) : (digits s).1 ≠ [] ∧ r <:+ (digits s).2 := by
  simp only [number?] at h
  by_cases hwhole :
      (digits s).1 = [] ∨ (digits s).1.head? = some '0' ∧ (digits s).1.length > 1
  · simp [if_pos hwhole] at h
  · simp only [if_neg hwhole, Option.bind_eq_bind, Option.bind_eq_some_iff, Option.pure_def,
      Option.some.injEq, Prod.mk.injEq, Prod.exists] at h
    obtain ⟨places, s₁, hplaces, power, s₂, hpower, -, rfl⟩ := h
    exact ⟨fun hnil => hwhole (.inl hnil), (suffix_power? hpower).trans (suffix_places? hplaces)⟩

theorem length_number? {negative : Bool} {s r : List Char} {n : Numeral}
    (h : number? negative s = some (n, r)) : r.length < s.length := by
  obtain ⟨hwhole, hrest⟩ := suffix_number? h
  have hdigits : (digits s).1.length + (digits s).2.length = s.length := by
    rw [← List.length_append]
    exact congrArg List.length List.takeWhile_append_dropWhile
  have := List.length_pos_iff.2 hwhole
  have := hrest.length_le
  omega

theorem suffix_first?_number {s r : List Char} {n : Numeral}
    (h : first? s = some (.number n, r)) : r <:+ s := by
  have hsuffix : ∀ {negative t}, number? negative t = some (n, r) → r <:+ t := fun hnum =>
    (suffix_number? hnum).2.trans (List.dropWhile_suffix _)
  rw [first?.eq_def] at h
  split at h
  case h_5 t =>
    obtain ⟨m, hnum, hm⟩ := eq_some_of_map h
    cases hm
    exact (hsuffix hnum).trans (List.suffix_cons _ _)
  case h_6 c t _ _ _ _ _ =>
    split at h
    · simp at h
    · obtain ⟨m, hnum, hm⟩ := eq_some_of_map h
      cases hm
      exact hsuffix hnum
  all_goals simp at h

theorem length_first? {s r : List Char} {lexeme : Lexeme} (h : first? s = some (lexeme, r)) :
    r.length < s.length := by
  rw [first?.eq_def] at h
  split at h
  case h_1 | h_2 | h_3 =>
    simp only [Option.some.injEq, Prod.mk.injEq] at h
    rw [← h.2]
    simp only [List.length_cons]
    omega
  case h_4 t =>
    obtain ⟨⟨ps, r'⟩, hps, he⟩ := Option.map_eq_some_iff.1 h
    obtain ⟨-, rfl⟩ := Prod.mk.inj he
    have := length_pieces? hps
    simp only [List.length_cons]
    omega
  case h_5 t =>
    obtain ⟨n, hn, -⟩ := eq_some_of_map h
    have := length_number? hn
    simp only [List.length_cons]
    omega
  case h_6 c t _ _ _ _ _ =>
    split at h
    · simp only [Option.some.injEq, Prod.mk.injEq] at h
      simp [← h.2]
    · obtain ⟨n, hn, -⟩ := eq_some_of_map h
      exact length_number? hn
  case h_7 => exact nomatch h

/-- Fuel beyond the length of the text changes nothing. -/
theorem scan_eq_scan {f g : Nat} {s : List Char} (hf : s.length ≤ f) (hg : s.length ≤ g) :
    scan f s = scan g s := by
  induction f generalizing g s with
  | zero =>
    obtain rfl : s = [] := List.length_eq_zero_iff.1 (by omega)
    cases g <;> rfl
  | succ f ih =>
    cases g with
    | zero =>
      obtain rfl : s = [] := List.length_eq_zero_iff.1 (by omega)
      rfl
    | succ g =>
      have hdrop := (List.dropWhile_suffix isSpace (l := s)).length_le
      simp only [scan]
      split
      · rfl
      · split
        · rfl
        · rename_i lexeme rest hfirst
          have := length_first? hfirst
          rw [ih (g := g) (by omega) (by omega)]

theorem dropWhile_of_scan_eq_nil {fuel : Nat} {s : List Char} (hfuel : s.length ≤ fuel)
    (h : scan fuel s = []) : s.dropWhile isSpace = [] := by
  cases fuel with
  | zero =>
    obtain rfl : s = [] := List.length_eq_zero_iff.1 (by omega)
    rfl
  | succ fuel =>
    simp only [scan] at h
    split at h
    · assumption
    · split at h <;> simp at h

theorem all_of_isSpace {c : Char} (hc : isSpace c = true) (s : List Char) :
    all (c :: s) = all s := by
  cases s with
  | nil => simp [all, scan, hc]
  | cons d s =>
    have hscan : all (c :: d :: s) = scan (s.length + 2) (d :: s) := by
      simp only [all, List.length_cons, scan, List.dropWhile_cons_of_pos hc]
    rw [hscan]
    exact scan_eq_scan (by simp) (by simp)

theorem all_append_of_isSpace {blank : List Char} (h : ∀ c ∈ blank, isSpace c = true)
    (s : List Char) : all (blank ++ s) = all s := by
  induction blank with
  | nil => rfl
  | cons c blank ih =>
    rw [List.cons_append, all_of_isSpace (h c (by simp)), ih fun d hd => h d (by simp [hd])]

theorem all_of_first? {c : Char} {s r : List Char} {lexeme : Lexeme} (hc : isSpace c = false)
    (h : first? (c :: s) = some (lexeme, r)) : all (c :: s) = lexeme :: all r := by
  have hlen := length_first? h
  have hdrop : (c :: s).dropWhile isSpace = c :: s := by simp [hc]
  simp only [all, List.length_cons, scan, hdrop, h]
  rw [scan_eq_scan (f := s.length) (g := r.length) (Nat.le_of_lt_succ hlen) (Nat.le_refl _)]

end Lexeme
end DocCorpus.Json
