/-
  The range of double-precision arithmetic. A quotient that is no greater than the greatest finite
  number is rounded to a finite number (`exists_ofRatio`), and one of at least 1 to a number of at
  least 1 (`one_le_magnitude_ofRatio`). So integers of 64 bits and powers of ten up to 308 have a
  finite number, and dividing a finite number by such a power leaves it finite.
-/
import DocCorpus.Number.Binary64
import Mathlib.Algebra.Order.Field.Power
import Mathlib.Tactic.NormNum
import Mathlib.Tactic.Positivity

namespace DocCorpus.Binary64

/-- The absolute value of a finite number. -/
def magnitude : Binary64 → ℚ
  | .finite _ m q _ => m * 2 ^ q
  | _ => 0

/-- The greatest finite number. -/
def greatest : ℚ := (2 ^ 53 - 1) * 2 ^ (971 : ℤ)

theorem greatest_lt : greatest < 2 ^ (1024 : ℤ) := by
  unfold greatest
  rw [show (1024 : ℤ) = 53 + 971 by rfl, zpow_add₀ two_ne_zero]
  have hpos : (0 : ℚ) < 2 ^ (971 : ℤ) := by positivity
  exact mul_lt_mul_of_pos_right (by norm_num) hpos

/-! ## Scaling -/

variable {num den : Nat} {q : Int}

theorem two_zpow_toNat (h : 0 ≤ q) : (2 : ℚ) ^ q.toNat = 2 ^ q := by
  rw [← zpow_natCast, Int.toNat_of_nonneg h]

theorem scaleDown_pos (hden : den ≠ 0) (num : Nat) (q : Int) : 0 < (scaleDown num den q).2 := by
  unfold scaleDown
  split
  · exact Nat.mul_pos (Nat.pos_of_ne_zero hden) (Nat.pow_pos (by decide))
  · exact Nat.pos_of_ne_zero hden

theorem ratio_scaleDown (num den : Nat) (q : Int) :
    ((scaleDown num den q).1 : ℚ) / (scaleDown num den q).2 = num / den / 2 ^ q := by
  unfold scaleDown
  split
  · next h =>
    rw [Nat.pow_eq, Nat.cast_mul, Nat.cast_pow, Nat.cast_ofNat, two_zpow_toNat h, div_div]
  · next h =>
    have hneg : 0 ≤ -q := by omega
    rw [Nat.pow_eq, Nat.cast_mul, Nat.cast_pow, Nat.cast_ofNat, two_zpow_toNat hneg, zpow_neg,
      mul_div_right_comm, ← div_eq_mul_inv]

theorem le_scaled_iff (hden : den ≠ 0) {k : Nat} :
    k * (scaleDown num den q).2 ≤ (scaleDown num den q).1 ↔ (k : ℚ) * 2 ^ q ≤ num / den := by
  have hpos : (0 : ℚ) < (scaleDown num den q).2 := by exact_mod_cast scaleDown_pos hden num q
  have hunit : (0 : ℚ) < 2 ^ q := by positivity
  rw [← le_div_iff₀ hunit, ← ratio_scaleDown, le_div_iff₀ hpos]
  exact_mod_cast Iff.rfl

theorem scaled_le_iff (hden : den ≠ 0) {k : Nat} :
    (scaleDown num den q).1 ≤ k * (scaleDown num den q).2 ↔ (num : ℚ) / den ≤ k * 2 ^ q := by
  have hpos : (0 : ℚ) < (scaleDown num den q).2 := by exact_mod_cast scaleDown_pos hden num q
  have hunit : (0 : ℚ) < 2 ^ q := by positivity
  rw [← div_le_iff₀ hunit, ← ratio_scaleDown, div_le_iff₀ hpos]
  exact_mod_cast Iff.rfl

theorem le_quotient_iff (hden : den ≠ 0) {k : Nat} :
    k ≤ (scaleDown num den q).1 / (scaleDown num den q).2 ↔ (k : ℚ) * 2 ^ q ≤ num / den := by
  rw [Nat.le_div_iff_mul_le (scaleDown_pos hden num q), le_scaled_iff hden]

/-! ## The exponent of a quotient -/

theorem two_zpow_log2_le (h : num ≠ 0) : (2 : ℚ) ^ (num.log2 : ℤ) ≤ num := by
  rw [zpow_natCast]
  exact_mod_cast Nat.log2_self_le h

theorem lt_two_zpow_log2 (num : Nat) : (num : ℚ) < 2 ^ ((num.log2 : ℤ) + 1) := by
  have h : (num : ℚ) < 2 ^ (num.log2 + 1) := by exact_mod_cast Nat.lt_log2_self
  exact_mod_cast h

/-- A quotient lies within a factor of two of the power that the lengths of its parts give. -/
theorem ratio_bounds (hnum : num ≠ 0) (hden : den ≠ 0) :
    (2 : ℚ) ^ ((num.log2 : ℤ) - den.log2 - 1) ≤ num / den ∧
      (num : ℚ) / den < 2 ^ ((num.log2 : ℤ) - den.log2 + 1) := by
  have hpos : (0 : ℚ) < den := by exact_mod_cast Nat.pos_of_ne_zero hden
  constructor
  · rw [le_div_iff₀ hpos]
    calc (2 : ℚ) ^ ((num.log2 : ℤ) - den.log2 - 1) * den
        ≤ 2 ^ ((num.log2 : ℤ) - den.log2 - 1) * 2 ^ ((den.log2 : ℤ) + 1) := by
          gcongr
          exact (lt_two_zpow_log2 den).le
      _ = 2 ^ (num.log2 : ℤ) := by
          rw [← zpow_add₀ two_ne_zero]
          congr 1
          omega
      _ ≤ num := two_zpow_log2_le hnum
  · rw [div_lt_iff₀ hpos]
    calc (num : ℚ) < 2 ^ ((num.log2 : ℤ) + 1) := lt_two_zpow_log2 num
      _ = 2 ^ ((num.log2 : ℤ) - den.log2 + 1) * 2 ^ (den.log2 : ℤ) := by
          rw [← zpow_add₀ two_ne_zero]
          congr 1
          omega
      _ ≤ 2 ^ ((num.log2 : ℤ) - den.log2 + 1) * den := by
          gcongr
          exact two_zpow_log2_le hden

/-- The quotient has 53 binary digits before the point at its exponent, or fewer at the least
one. -/
structure Normal (num den : Nat) (q : Int) : Prop where
  least : -1074 ≤ q
  lt : (num : ℚ) / den < 2 ^ (53 + q)
  le : 2 ^ (52 + q) ≤ (num : ℚ) / den ∨ q = -1074

theorem normal_exponentOf (hnum : num ≠ 0) (hden : den ≠ 0) :
    Normal num den (exponentOf num den) := by
  obtain ⟨hlow, hhigh⟩ := ratio_bounds hnum hden
  unfold exponentOf
  dsimp only
  generalize hq : max ((num.log2 : Int) - den.log2 - 53) (-1074) = q
  have hfull : Nat.pow 2 53 ≤ (scaleDown num den q).1 / (scaleDown num den q).2 ↔
      (2 : ℚ) ^ (53 + q) ≤ num / den := by
    rw [le_quotient_iff hden, zpow_add₀ two_ne_zero]
    norm_num
  have hbelow : (num : ℚ) / den < 2 ^ (54 + q) := by
    refine hhigh.trans_le (zpow_le_zpow_right₀ one_le_two ?_)
    omega
  split
  · next h =>
    rw [hfull] at h
    refine ⟨by omega, ?_, .inl ?_⟩
    · rw [show 53 + (q + 1) = 54 + q by omega]
      exact hbelow
    · rw [show 52 + (q + 1) = 53 + q by omega]
      exact h
  · next h =>
    rw [hfull, not_le] at h
    refine ⟨by omega, h, ?_⟩
    by_cases hleast : q = -1074
    · exact .inr hleast
    · left
      have hexp : 52 + q = (num.log2 : Int) - den.log2 - 1 := by omega
      rw [hexp]
      exact hlow

/-! ## Rounding -/

theorem le_divEven (n d : Nat) : n / d ≤ divEven n d := by
  unfold divEven
  dsimp only
  split <;> omega

theorem divEven_le {n d k : Nat} (hd : 0 < d) (h : n ≤ k * d) : divEven n d ≤ k := by
  have hmod := Nat.div_add_mod n d
  have hle : n / d ≤ k := Nat.div_le_of_le_mul (by rwa [Nat.mul_comm])
  unfold divEven
  dsimp only
  rcases hle.lt_or_eq with hlt | heq
  · split <;> omega
  · -- the quotient is exact here, so that there is nothing to round
    have hexact : n % d = 0 := by
      rw [heq, Nat.mul_comm] at hmod
      omega
    rw [hexact, if_neg (by omega)]
    exact hle

/-- The significand that rounding gives at an exponent. -/
def significandAt (num den : Nat) (q : Int) : Nat :=
  divEven (scaleDown num den q).1 (scaleDown num den q).2

theorem significandAt_le (hden : den ≠ 0) {k : Nat} (h : (num : ℚ) / den ≤ k * 2 ^ q) :
    significandAt num den q ≤ k :=
  divEven_le (scaleDown_pos hden num q) ((scaled_le_iff hden).2 h)

theorem le_significandAt (hden : den ≠ 0) {k : Nat} (h : (k : ℚ) * 2 ^ q ≤ num / den) :
    k ≤ significandAt num den q :=
  ((le_quotient_iff hden).2 h).trans (le_divEven _ _)

theorem natCast_two_pow_mul (k : Nat) (q : Int) :
    ((2 ^ k : Nat) : ℚ) * 2 ^ q = 2 ^ ((k : ℤ) + q) := by
  rw [zpow_add₀ two_ne_zero, zpow_natCast, Nat.cast_pow, Nat.cast_ofNat]

theorem Normal.significandAt_le (h : Normal num den q) (hden : den ≠ 0) :
    significandAt num den q ≤ 2 ^ 53 :=
  Binary64.significandAt_le hden (natCast_two_pow_mul 53 q ▸ h.lt.le)

theorem Normal.le_significandAt (h : Normal num den q) (hden : den ≠ 0) :
    2 ^ 52 ≤ significandAt num den q ∨ q = -1074 :=
  h.le.imp_left fun hle => Binary64.le_significandAt hden ((natCast_two_pow_mul 52 q).trans_le hle)

theorem Normal.le_greatest (h : Normal num den q) (hrange : (num : ℚ) / den ≤ greatest) :
    q ≤ 971 := by
  rcases h.le with hle | hleast
  · have hlt : (2 : ℚ) ^ (52 + q) < 2 ^ (1024 : ℤ) := (hle.trans hrange).trans_lt greatest_lt
    have hexp := (zpow_lt_zpow_iff_right₀ one_lt_two).1 hlt
    omega
  · omega

/-- At the greatest exponent nothing is rounded up to the next power of two. -/
theorem significandAt_greatest (hden : den ≠ 0) (h : (num : ℚ) / den ≤ greatest) :
    significandAt num den 971 ≤ 2 ^ 53 - 1 := by
  refine significandAt_le hden (h.trans_eq ?_)
  unfold greatest
  norm_num

theorem ofRatio_of_ne_zero (negative : Bool) (hnum : num ≠ 0) (den : Nat) :
    ofRatio negative num den =
      if significandAt num den (exponentOf num den) = 2 ^ 53 then
        ofParts negative (2 ^ 52) (exponentOf num den + 1)
      else ofParts negative (significandAt num den (exponentOf num den)) (exponentOf num den) := by
  unfold ofRatio
  rw [if_neg hnum]
  rfl

/-- A quotient in the range of finite numbers is rounded to one of them, by its exponent. -/
theorem exists_ofRatio (negative : Bool) (hnum : num ≠ 0) (hden : den ≠ 0)
    (h : (num : ℚ) / den ≤ greatest) :
    ∃ m q canonical, ofRatio negative num den = .finite negative m q canonical ∧
      (m : ℚ) * 2 ^ q =
        significandAt num den (exponentOf num den) * 2 ^ exponentOf num den := by
  have hnormal := normal_exponentOf hnum hden
  rw [ofRatio_of_ne_zero negative hnum den]
  generalize exponentOf num den = q at hnormal
  have hle := hnormal.significandAt_le hden
  have hlow := hnormal.le_significandAt hden
  have hleast := hnormal.least
  have hq := hnormal.le_greatest h
  have htop : q = 971 → significandAt num den q ≤ 2 ^ 53 - 1 := by
    rintro rfl
    exact significandAt_greatest hden h
  generalize significandAt num den q = m at *
  split
  · next hm =>
    have hcanonical : Nat.pow 2 52 < Nat.pow 2 53 ∧ -1074 ≤ q + 1 ∧ q + 1 ≤ 971 ∧
        (Nat.pow 2 52 ≤ Nat.pow 2 52 ∨ q + 1 = -1074) := by
      refine ⟨by decide, by omega, ?_, .inl (Nat.le_refl _)⟩
      by_contra hover
      have := htop (by omega)
      omega
    refine ⟨2 ^ 52, q + 1, hcanonical, dif_pos hcanonical, ?_⟩
    have hexp : ((52 : Nat) : ℤ) + (q + 1) = ((53 : Nat) : ℤ) + q := by omega
    rw [hm, natCast_two_pow_mul, natCast_two_pow_mul, hexp]
  · next hm =>
    have hcanonical : m < Nat.pow 2 53 ∧ -1074 ≤ q ∧ q ≤ 971 ∧
        (Nat.pow 2 52 ≤ m ∨ q = -1074) :=
      ⟨Nat.lt_of_le_of_ne hle hm, hleast, hq, hlow⟩
    exact ⟨m, q, hcanonical, dif_pos hcanonical, rfl⟩

theorem isFinite_zero (negative : Bool) : (zero negative).isFinite = true := rfl

theorem isFinite_ofRatio (negative : Bool) (hden : den ≠ 0) (h : (num : ℚ) / den ≤ greatest) :
    (ofRatio negative num den).isFinite = true := by
  by_cases hnum : num = 0
  · unfold ofRatio
    rw [if_pos hnum]
    exact isFinite_zero negative
  · obtain ⟨m, q, hcanonical, hratio, -⟩ := exists_ofRatio negative hnum hden h
    rw [hratio]
    rfl

theorem one_le_magnitude_ofRatio (negative : Bool) (hden : den ≠ 0) (hone : 1 ≤ (num : ℚ) / den)
    (h : (num : ℚ) / den ≤ greatest) : 1 ≤ (ofRatio negative num den).magnitude := by
  have hnum : num ≠ 0 := by
    rintro rfl
    norm_num at hone
  have hnormal := normal_exponentOf hnum hden
  obtain ⟨m, q, hcanonical, hratio, hvalue⟩ := exists_ofRatio negative hnum hden h
  rw [hratio]
  show 1 ≤ (m : ℚ) * 2 ^ q
  rw [hvalue]
  generalize exponentOf num den = q at hnormal
  have hexp : 0 < 53 + q := by
    rw [← zpow_lt_zpow_iff_right₀ (one_lt_two : (1 : ℚ) < 2), zpow_zero]
    exact hone.trans_lt hnormal.lt
  have hlow : 2 ^ 52 ≤ significandAt num den q := by
    rcases hnormal.le_significandAt hden with hlow | hleast
    · exact hlow
    · omega
  calc (1 : ℚ) ≤ 2 ^ (52 + q) := one_le_zpow₀ one_le_two (by omega)
    _ = ((2 ^ 52 : Nat) : ℚ) * 2 ^ q := (natCast_two_pow_mul 52 q).symm
    _ ≤ significandAt num den q * 2 ^ q := by gcongr

/-! ## Numbers in range -/

theorem magnitude_le_greatest (x : Binary64) : x.magnitude ≤ greatest := by
  have hnonneg : (0 : ℚ) ≤ greatest := by
    unfold greatest
    norm_num
  match x with
  | .nan | .infinite _ => exact hnonneg
  | .finite _ m q hcanonical =>
    obtain ⟨hm, -, hq, -⟩ := hcanonical
    have hm : (m : ℚ) ≤ 2 ^ 53 - 1 := by
      rw [le_sub_iff_add_le]
      exact_mod_cast hm
    show (m : ℚ) * 2 ^ q ≤ (2 ^ 53 - 1) * 2 ^ (971 : ℤ)
    have hpow : (2 : ℚ) ^ q ≤ 2 ^ (971 : ℤ) := zpow_le_zpow_right₀ one_le_two hq
    exact mul_le_mul hm hpow (by positivity) (by norm_num)

theorem fraction_pos (m : Nat) (q : Int) : 0 < (fraction m q).2 := by
  unfold fraction
  split
  · exact Nat.one_pos
  · exact Nat.pow_pos (by decide)

theorem ratio_fraction (m : Nat) (q : Int) :
    ((fraction m q).1 : ℚ) / (fraction m q).2 = m * 2 ^ q := by
  unfold fraction
  split
  · next h =>
    rw [Nat.pow_eq, Nat.cast_mul, Nat.cast_pow, Nat.cast_ofNat, two_zpow_toNat h, Nat.cast_one,
      div_one]
  · next h =>
    have hneg : 0 ≤ -q := by omega
    rw [Nat.pow_eq, Nat.cast_pow, Nat.cast_ofNat, two_zpow_toNat hneg, zpow_neg, div_inv_eq_mul]

/-- A finite number divided by one that is at least 1 is finite. -/
theorem isFinite_div {x y : Binary64} (hx : x.isFinite = true) (hy : 1 ≤ y.magnitude) :
    (x.div y).isFinite = true := by
  match x, y with
  | .nan, _ | .infinite _, _ => exact nomatch hx
  | .finite .., .nan | .finite .., .infinite _ =>
    exact absurd hy (by norm_num [magnitude])
  | .finite s m q hm, .finite t n r hn =>
    have hrange : (m : ℚ) * 2 ^ q ≤ greatest := magnitude_le_greatest (.finite s m q hm)
    have hone : 1 ≤ (n : ℚ) * 2 ^ r := hy
    have hb := fraction_pos m q
    have hd := fraction_pos n r
    rw [← ratio_fraction] at hrange hone
    show (ofRatio false ((fraction m q).1 * (fraction n r).2)
      ((fraction m q).2 * (fraction n r).1)).isFinite = true
    generalize (fraction m q).1 = a at *
    generalize (fraction m q).2 = b at *
    generalize (fraction n r).1 = c at *
    generalize (fraction n r).2 = d at *
    have hdpos : (0 : ℚ) < d := by exact_mod_cast hd
    have hc : (d : ℚ) ≤ c := by rwa [one_le_div hdpos] at hone
    have hcpos : (0 : ℚ) < c := hdpos.trans_le hc
    have hc0 : c ≠ 0 := by
      rintro rfl
      exact absurd hcpos (by norm_num)
    refine isFinite_ofRatio false (Nat.mul_ne_zero hb.ne' hc0) ?_
    have hratio : ((a * d : Nat) : ℚ) / ((b * c : Nat) : ℚ) = a / b * (d / c) := by
      rw [Nat.cast_mul, Nat.cast_mul, mul_div_mul_comm]
    have hle : (d : ℚ) / c ≤ 1 := (div_le_one hcpos).2 hc
    have hnonneg : (0 : ℚ) ≤ a / b := by positivity
    rw [hratio]
    exact (mul_le_of_le_one_right hnonneg hle).trans hrange

theorem isFinite_negate {x : Binary64} (h : x.isFinite = true) : x.negate.isFinite = true := by
  cases x with
  | nan => cases h
  | infinite _ => cases h
  | finite _ _ _ _ => rfl

theorem natCast_le_greatest {n : Nat} (h : n ≤ (2 ^ 53 - 1) * 2 ^ 971) : (n : ℚ) ≤ greatest := by
  have hcast : (n : ℚ) ≤ (((2 ^ 53 - 1) * 2 ^ 971 : Nat) : ℚ) := by exact_mod_cast h
  refine hcast.trans_eq ?_
  unfold greatest
  rw [Nat.cast_mul, Nat.cast_pow, ← zpow_natCast]
  norm_num

theorem isFinite_ofNat {n : Nat} (h : n ≤ (2 ^ 53 - 1) * 2 ^ 971) : (ofNat n).isFinite = true := by
  refine isFinite_ofRatio false Nat.one_ne_zero ?_
  rw [Nat.cast_one, div_one]
  exact natCast_le_greatest h

theorem isFinite_ofInt {n : Int} (h : n.natAbs ≤ (2 ^ 53 - 1) * 2 ^ 971) :
    (ofInt n).isFinite = true := by
  refine isFinite_ofRatio _ Nat.one_ne_zero ?_
  rw [Nat.cast_one, div_one]
  exact natCast_le_greatest h

theorem one_le_magnitude_ofNat {n : Nat} (hone : 1 ≤ n) (h : n ≤ (2 ^ 53 - 1) * 2 ^ 971) :
    1 ≤ (ofNat n).magnitude := by
  refine one_le_magnitude_ofRatio false Nat.one_ne_zero ?_ ?_
  · rw [Nat.cast_one, div_one]
    exact_mod_cast hone
  · rw [Nat.cast_one, div_one]
    exact natCast_le_greatest h

end DocCorpus.Binary64
