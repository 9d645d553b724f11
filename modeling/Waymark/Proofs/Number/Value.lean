import Mathlib.Algebra.Order.Floor.Semifield
import Mathlib.Data.Rat.Floor
import Mathlib.Tactic.FieldSimp
import Mathlib.Tactic.Linarith
import Waymark.Number.Decimal
import Waymark.Proofs.Number.Rounding

/-!
# Binary numbers as rationals

Every finite binary number is a rational (`Binary64.value?`), and the order of
numbers is that of the rationals (`Binary64.le_iff`). What is computed with
numbers is rounded; here it is one division, of one by a number up to one. The
product of quotient and divisor differs from one by `roundoff` at most
(`Magnitude.inverse_error`), and so the whole part of the quotient is what it
should be up to that (`Binary64.floorUpTo_inverse`).
-/

namespace Waymark

namespace Magnitude

def value (x : Magnitude) : ℚ := x.units / unitsOfOne

/-- The part by which rounding changes a number at most. -/
def roundoff : ℚ := 1 / Nat.pow 2 53

theorem unitsOfOne_pos' : (0 : ℚ) < unitsOfOne := by
  exact_mod_cast unitsOfOne_pos

theorem roundoff_pos : 0 < roundoff := by
  have hpow : (0 : ℚ) < (Nat.pow 2 53 : Nat) := by exact_mod_cast pow_two_pos 53
  exact one_div_pos.mpr hpow

theorem value_le_iff {x y : Magnitude} : x.value ≤ y.value ↔ x.units ≤ y.units := by
  rw [value, value, div_le_div_iff_of_pos_right unitsOfOne_pos', Nat.cast_le]

theorem value_nonneg (x : Magnitude) : 0 ≤ x.value := by
  unfold value
  positivity

theorem value_pos_iff {x : Magnitude} : 0 < x.value ↔ 0 < x.units := by
  rw [value, div_pos_iff_of_pos_right unitsOfOne_pos', Nat.cast_pos]

theorem value_eq_zero_iff {x : Magnitude} : x.value = 0 ↔ x.units = 0 := by
  rw [value, div_eq_zero_iff, or_iff_left unitsOfOne_pos'.ne', Nat.cast_eq_zero]

theorem value_le_one_iff {x : Magnitude} : x.value ≤ 1 ↔ x.units ≤ unitsOfOne := by
  rw [value, div_le_one unitsOfOne_pos', Nat.cast_le]

theorem one_le_value_iff {x : Magnitude} : 1 ≤ x.value ↔ unitsOfOne ≤ x.units := by
  rw [value, one_le_div unitsOfOne_pos', Nat.cast_le]

theorem inverse_error {x q : Magnitude} (hpos : 0 < x.value) (hle : x.value ≤ 1)
    (h : round? unitsOfOne x.units = some q) : |q.value * x.value - 1| ≤ roundoff := by
  rw [value_pos_iff] at hpos
  rw [value_le_one_iff] at hle
  have hlarge : Nat.pow 2 53 * x.units ≤ unitsOfOne * unitsOfOne := by
    obtain ⟨k, hk⟩ : ∃ k, k = 1074 := ⟨_, rfl⟩
    refine Nat.mul_le_mul ?_ hle
    rw [unitsOfOne_eq hk]
    exact Nat.pow_le_pow_right (by omega) (by omega)
  obtain ⟨hlow, hhigh⟩ := round?_error hpos hlarge h
  have hone := unitsOfOne_pos'
  have hpow : (0 : ℚ) < (Nat.pow 2 53 : Nat) := by exact_mod_cast pow_two_pos 53
  unfold value roundoff
  generalize Nat.pow 2 53 = parts at *
  generalize unitsOfOne = one at *
  have hlow' : (parts : ℚ) * (one * one) ≤ parts * (q.units * x.units) + one * one := by
    exact_mod_cast hlow
  have hhigh' : (parts : ℚ) * (q.units * x.units) ≤ parts * (one * one) + one * one := by
    exact_mod_cast hhigh
  rw [div_mul_div_comm, div_sub_one (mul_pos hone hone).ne', abs_div,
    abs_of_pos (mul_pos hone hone), div_le_div_iff₀ (mul_pos hone hone) hpow, one_mul]
  calc |(q.units * x.units - one * one : ℚ)| * parts
      = |(q.units * x.units - one * one) * (parts : ℚ)| := by rw [abs_mul, abs_of_pos hpow]
    _ ≤ one * one := abs_le.mpr ⟨by linarith, by linarith⟩

end Magnitude

namespace Binary64

/-- The rational that a number is; there is none for an infinity or a not-a-number. -/
def value? : Binary64 → Option ℚ
  | .finite negative size => some (if negative then -size.value else size.value)
  | _ => none

variable {x y : Binary64} {v w : ℚ}

theorem le_iff (hx : x.value? = some v) (hy : y.value? = some w) : x.le y = true ↔ v ≤ w := by
  cases x with
  | finite s a =>
      cases y with
      | finite t b =>
          obtain rfl := Option.some.inj hx
          obtain rfl := Option.some.inj hy
          have ha := a.value_nonneg
          have hb := b.value_nonneg
          cases s <;> cases t
          · simp [le, Magnitude.value_le_iff]
          · have hzero : a.value ≤ -b.value ↔ a.value = 0 ∧ b.value = 0 :=
              ⟨fun h => ⟨by linarith, by linarith⟩, fun h => by linarith [h.1, h.2]⟩
            simp [le, hzero, Magnitude.value_eq_zero_iff]
          · simpa [le] using (neg_nonpos.mpr ha).trans hb
          · simp [le, Magnitude.value_le_iff]
      | _ => cases hy
  | _ => cases hx

theorem value?_zero : zero.value? = some 0 :=
  congrArg some (Magnitude.value_eq_zero_iff.mpr (Nat.zero_mul _))

/-- Unfolded as a function, since with arguments the kernel would try to carry out the division. -/
theorem ofRatio_eq : ofRatio = fun negative num den =>
    match Magnitude.round? num den with
    | some size => .finite negative size
    | none => .infinity negative := rfl

theorem ofRatio_of_some {negative : Bool} {num den : Nat} {size : Magnitude}
    (h : Magnitude.round? num den = some size) :
    ofRatio negative num den = .finite negative size := by
  rw [ofRatio_eq]
  beta_reduce
  rw [h]

theorem ofRatio_of_none {negative : Bool} {num den : Nat}
    (h : Magnitude.round? num den = none) : ofRatio negative num den = .infinity negative := by
  rw [ofRatio_eq]
  beta_reduce
  rw [h]

theorem value?_one : (ofInt 1).value? = some 1 := by
  have hunits {shift : Nat} (h : 52 + shift = 1074) :
      Nat.pow 2 52 * Nat.pow 2 shift = Magnitude.unitsOfOne :=
    (Nat.pow_add 2 52 shift).symm.trans (Magnitude.unitsOfOne_eq h).symm
  obtain ⟨one, hone⟩ : ∃ one : Magnitude, one.units = Magnitude.unitsOfOne :=
    ⟨⟨Nat.pow 2 52, 1022, by decide, by decide, by decide⟩, hunits rfl⟩
  have hround : Magnitude.round? 1 1 = some one := by
    rw [← Magnitude.round?_mul_left Magnitude.unitsOfOne_pos, mul_one, ← Magnitude.round?_units,
      hone]
  have hvalue : one.value = 1 := by
    rw [Magnitude.value, hone, div_self Magnitude.unitsOfOne_pos'.ne']
  change (ofRatio false 1 1).value? = some 1
  rw [ofRatio_of_some hround]
  exact congrArg some hvalue

theorem clampUnit_of_unit (hx : x.value? = some v) (h0 : 0 ≤ v) (h1 : v ≤ 1) :
    x.clampUnit = x := by
  cases x with
  | finite s a => simp [clampUnit, (le_iff value?_zero hx).mpr h0, (le_iff hx value?_one).mpr h1]
  | _ => cases hx

/-! ## One divided by a number -/

/-- The whole part of one divided by a number up to one: with the number it gives no more than one,
and one more would give more than one, up to what is rounded. -/
theorem floorUpTo_inverse {top : Nat} (htop : 0 < top) (hlimit : top ≤ Magnitude.limit)
    (hx : x.value? = some v) (h0 : 0 < v) (h1 : v ≤ 1) :
    0 < x.inverse.floorUpTo top ∧ v * x.inverse.floorUpTo top ≤ 1 + Magnitude.roundoff ∧
      (x.inverse.floorUpTo top = top ∨
        1 - Magnitude.roundoff < v * (x.inverse.floorUpTo top + 1)) := by
  obtain ⟨size, rfl, rfl⟩ : ∃ size, x = finite false size ∧ size.value = v := by
    cases x with
    | finite s a =>
        obtain rfl := Option.some.inj hx
        cases s with
        | false => exact ⟨a, rfl, rfl⟩
        | true => exact absurd h0 (not_lt.mpr (neg_nonpos.mpr a.value_nonneg))
    | _ => cases hx
  have hunits := Magnitude.value_pos_iff.mp h0
  have hmant : size.mant ≠ 0 := by
    intro hzero
    rw [Magnitude.units, hzero, Nat.zero_mul] at hunits
    exact absurd hunits (Nat.lt_irrefl 0)
  have hround := Magnitude.roundoff_pos
  cases h : Magnitude.round? Magnitude.unitsOfOne size.units with
  | none =>
      -- the number is so small that the quotient is an infinity
      have hinverse : (finite false size).inverse.floorUpTo top = top := by
        rw [inverse, if_neg hmant, ofRatio_of_none h]
        rfl
      have hsmall : size.value * Magnitude.limit ≤ 1 := by
        have hle : (Magnitude.limit * size.units : ℚ) ≤ Magnitude.unitsOfOne := by
          exact_mod_cast (Magnitude.round?_eq_none_iff hunits).mp h
        rw [Magnitude.value, div_mul_eq_mul_div, div_le_one Magnitude.unitsOfOne_pos', mul_comm]
        exact hle
      have hmono : size.value * top ≤ size.value * Magnitude.limit :=
        mul_le_mul_of_nonneg_left (by exact_mod_cast hlimit) h0.le
      rw [hinverse]
      exact ⟨htop, by linarith, Or.inl rfl⟩
  | some q =>
      obtain ⟨hlow, hhigh⟩ := abs_le.mp (Magnitude.inverse_error h0 h1 h)
      have hinverse : (finite false size).inverse.floorUpTo top = min top ⌊q.value⌋₊ := by
        rw [inverse, if_neg hmant, ofRatio_of_some h, Magnitude.value, Nat.floor_div_eq_div]
        rfl
      have hone : 1 ≤ q.value := Magnitude.one_le_value_iff.mpr
        (Magnitude.unitsOfOne_le_of_round? hunits (Magnitude.value_le_one_iff.mp h1) h)
      rw [hinverse]
      refine ⟨lt_min htop (Nat.floor_pos.mpr hone), ?_, ?_⟩
      · have hle : ((min top ⌊q.value⌋₊ : Nat) : ℚ) ≤ q.value :=
          (Nat.cast_le.mpr (min_le_right _ _)).trans (Nat.floor_le (by linarith))
        have hmono := mul_le_mul_of_nonneg_left hle h0.le
        linarith
      · rcases le_total top ⌊q.value⌋₊ with hover | hunder
        · exact Or.inl (min_eq_left hover)
        · rw [min_eq_right hunder]
          have hmono := mul_lt_mul_of_pos_left (Nat.lt_floor_add_one q.value) h0
          exact Or.inr (by linarith)

end Binary64

end Waymark
