/-
  The values of numerals. However a numeral is spelled, the value that it stands for is an integer
  of at most 64 bits or a finite double (`inRange_of_value?`): digits are read into 64 bits, and
  every step of scaling is a quotient by at most 10^308 or a product that is checked.
-/
import DocCorpus.Json.Numeral
import DocCorpus.Proofs.Number.Range

namespace DocCorpus.Json

/-- A number that has a place in metadata: an integer of at most 64 bits, or a finite double. -/
def Number.InRange : Number → Prop
  | .integer n => n.natAbs < Numeral.wordBound
  | .float x => x.isFinite = true

namespace Numeral

/-! ## Powers of ten -/

theorem powerOfTen_le {n : Nat} (h : n ≤ 308) : 10 ^ n ≤ (2 ^ 53 - 1) * 2 ^ 971 := by
  have hten : 10 ^ 308 = 10 ^ 154 * 10 ^ 154 := by rw [← pow_add]
  have htwo : 2 ^ 971 = 2 ^ 250 * 2 ^ 250 * 2 ^ 250 * 2 ^ 221 := by
    rw [← pow_add, ← pow_add, ← pow_add]
  have hgreatest : 10 ^ 308 ≤ (2 ^ 53 - 1) * 2 ^ 971 := by
    rw [hten, htwo]
    norm_num
  exact (pow_le_pow_right₀ (by norm_num) h).trans hgreatest

theorem isFinite_div_powerOfTen {x : Binary64} (hx : x.isFinite = true) {n : Nat} (h : n ≤ 308) :
    (x.div (powerOfTen n)).isFinite = true :=
  Binary64.isFinite_div hx
    (Binary64.one_le_magnitude_ofNat (Nat.one_le_pow n 10 (by decide)) (powerOfTen_le h))

theorem wordBound_le : wordBound ≤ (2 ^ 53 - 1) * 2 ^ 971 := by
  have hpow : 2 ^ 12 ≤ 2 ^ 971 := pow_le_pow_right₀ one_le_two (by norm_num)
  exact (by decide : wordBound ≤ (2 ^ 53 - 1) * 2 ^ 12).trans (Nat.mul_le_mul_left _ hpow)

theorem isFinite_ofNat_of_lt {n : Nat} (h : n < wordBound) : (Binary64.ofNat n).isFinite = true :=
  Binary64.isFinite_ofNat (h.le.trans wordBound_le)

theorem isFinite_ofInt_of_lt {n : Int} (h : n.natAbs < wordBound) :
    (Binary64.ofInt n).isFinite = true :=
  Binary64.isFinite_ofInt (h.le.trans wordBound_le)

/-! ## Scaling -/

/-- A finite number that is scaled stays finite, if scaling gives a number at all. -/
theorem isFinite_scaleBy {fuel : Nat} {x y : Binary64} {e : Int} (hx : x.isFinite = true)
    (h : scaleBy fuel x e = some y) : y.isFinite = true := by
  induction fuel generalizing x e with
  | zero =>
    injection h with h
    exact h ▸ hx
  | succ fuel ih =>
    unfold scaleBy at h
    split at h
    · split at h
      · injection h with h
        exact h ▸ hx
      · cases h
    · split at h
      · -- a product may leave the range, and is given up if it does
        dsimp only at h
        split at h
        · next hfinite =>
          injection h with h
          exact h ▸ hfinite
        · cases h
      · split at h
        · injection h with h
          exact h ▸ isFinite_div_powerOfTen hx (by omega)
        · split at h
          · injection h with h
            exact h ▸ hx
          · exact ih (isFinite_div_powerOfTen hx (Nat.le_refl 308)) h

theorem significand_readWhole_lt {r : Reading} (h : r.significand < wordBound)
    (digits : List Char) : (readWhole r digits).significand < wordBound := by
  induction digits generalizing r with
  | nil => exact h
  | cons c rest ih =>
    unfold readWhole
    dsimp only
    split
    · next hfits => exact ih hfits
    · exact h

theorem significand_readPlaces_lt {r : Reading} (h : r.significand < wordBound)
    (digits : List Char) : (readPlaces r digits).significand < wordBound := by
  induction digits generalizing r with
  | nil => exact h
  | cons c rest ih =>
    unfold readPlaces
    dsimp only
    split
    · next hfits => exact ih hfits
    · exact h

theorem isFinite_scaled {n : Numeral} {r : Reading} {x : Binary64} (hr : r.significand < wordBound)
    (h : n.scaled r = some x) : x.isFinite = true := by
  have hstart := isFinite_ofNat_of_lt hr
  unfold scaled at h
  split at h
  · exact isFinite_scaleBy hstart h
  · dsimp only at h
    split at h
    · split at h
      · cases h
      · injection h with h
        exact h ▸ Binary64.isFinite_zero false
    · exact isFinite_scaleBy hstart h

/-! ## Values -/

theorem inRange_of_map_scaled {n : Numeral} {r : Reading} {v : Number}
    (hr : r.significand < wordBound)
    (h : (n.scaled r).map (fun x => .float (if n.negative then x.negate else x)) = some v) :
    v.InRange := by
  obtain ⟨x, hx, rfl⟩ := Option.map_eq_some_iff.1 h
  have hfinite := isFinite_scaled hr hx
  show (if n.negative then x.negate else x).isFinite = true
  split
  · exact Binary64.isFinite_negate hfinite
  · exact hfinite

/-- The value of a numeral is in range, whatever its digits and its power are. -/
theorem inRange_of_value? {n : Numeral} {v : Number} (h : n.value? = some v) : v.InRange := by
  have hzero : (⟨0, 0⟩ : Reading).significand < wordBound := by decide
  have hwhole := significand_readWhole_lt hzero n.whole
  unfold value? at h
  dsimp only at h
  split at h
  · split at h
    · exact inRange_of_map_scaled hwhole h
    · split at h
      · injection h with h
        subst h
        exact hwhole
      · split at h
        · injection h with h
          subst h
          have hfinite := isFinite_ofNat_of_lt hwhole
          show (if n.negative then _ else _ : Binary64).isFinite = true
          split
          · exact Binary64.isFinite_negate hfinite
          · exact hfinite
        · injection h with h
          subst h
          show (-(readWhole ⟨0, 0⟩ n.whole).significand : Int).natAbs < wordBound
          rw [Int.natAbs_neg]
          exact hwhole
  · next places _ => exact inRange_of_map_scaled (significand_readPlaces_lt hwhole places) h
  · exact inRange_of_map_scaled hwhole h

end Numeral
end DocCorpus.Json
