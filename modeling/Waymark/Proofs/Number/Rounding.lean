import Mathlib.Tactic.Ring
import Waymark.Number.Binary64

/-!
# Rounding ratios

`Magnitude.round?` is given a ratio as two whole numbers. Four things are
known about it here, and nothing else is needed of it elsewhere:

- it looks at the ratio only, so both numbers may be multiplied by the same
  factor (`round?_mul_left`);
- a ratio that is a magnitude is rounded to that magnitude (`round?_units`);
- it fails exactly for the ratios from `Magnitude.limit` up
  (`round?_eq_none_iff`), which lies half a unit above the greatest magnitude;
- unless a ratio is very small, it is rounded by no more than a part in `2^53`
  (`round?_error`), and never from above one to below (`unitsOfOne_le_of_round?`).

The third one rests on `even_le_divNearest_iff`, which says when a quotient is
rounded up to an even number: a tie is, so the bound is part of what is too
large.
-/

namespace Waymark.Magnitude

/-- The least number that is too large: half a unit above the greatest magnitude, where the tie
goes to the power of two that the format does not have. -/
def limit : Nat := (Nat.pow 2 54 - 1) * Nat.pow 2 970

/-! ## Quotients -/

theorem divNearest_mul_left {k : Nat} (hk : 0 < k) (num den : Nat) :
    divNearest (k * num) (k * den) = divNearest num den := by
  have hlow : 2 * (k * (num % den)) < k * den ↔ 2 * (num % den) < den := by
    rw [Nat.mul_left_comm]
    exact Nat.mul_lt_mul_left hk
  have hhigh : k * den < 2 * (k * (num % den)) ↔ den < 2 * (num % den) := by
    rw [Nat.mul_left_comm]
    exact Nat.mul_lt_mul_left hk
  simp only [divNearest, Nat.mul_div_mul_left _ _ hk, Nat.mul_mod_mul_left, hlow, hhigh]

theorem divNearest_of_mul (n : Nat) {den : Nat} (hden : 0 < den) :
    divNearest (n * den) den = n := by
  simp only [divNearest, Nat.mul_div_cancel _ hden, Nat.mul_mod_left, Nat.mul_zero, hden, if_true]

theorem divNearest_bounds (num den : Nat) :
    num / den ≤ divNearest num den ∧ divNearest num den ≤ num / den + 1 := by
  simp only [divNearest]
  split
  · omega
  · split
    · omega
    · split <;> omega

/-- A quotient is rounded up to an even number from half a unit below it on. -/
theorem even_le_divNearest_iff {n num den : Nat} (hden : 0 < den) (heven : n % 2 = 0)
    (hn : 0 < n) : n ≤ divNearest num den ↔ (2 * n - 1) * den ≤ 2 * num := by
  have hsum : num = den * (num / den) + num % den := (Nat.div_add_mod num den).symm
  have hrest := Nat.mod_lt num hden
  obtain ⟨hleast, hmost⟩ := divNearest_bounds num den
  generalize hq : num / den = q at hsum hleast hmost
  generalize hr : num % den = r at hsum hrest
  have hwhole : (2 * n - 1) * den + den = 2 * (den * n) := by
    obtain ⟨m, rfl⟩ : ∃ m, n = m + 1 := ⟨n - 1, by omega⟩
    have hpred : 2 * (m + 1) - 1 = 2 * m + 1 := by omega
    rw [hpred]
    ring
  rcases Nat.lt_trichotomy (q + 1) n with hfar | hnext | hpast
  · -- the next number is still below
    have hstep : den * (q + 2) ≤ den * n := Nat.mul_le_mul_left den hfar
    have hexpand : den * (q + 2) = den * q + 2 * den := by ring
    constructor
    · intro h
      omega
    · intro h
      omega
  · -- the fraction decides, and the even neighbour is the upper one
    subst hnext
    have hodd : q % 2 ≠ 0 := by omega
    have hexpand : den * (q + 1) = den * q + den := by ring
    simp only [divNearest, hq, hr, if_neg hodd]
    constructor
    · intro h
      split at h
      · omega
      · omega
    · intro h
      rw [if_neg (by omega)]
      split <;> omega
  · have hstep : den * n ≤ den * q := Nat.mul_le_mul_left den (by omega)
    constructor
    · intro _
      omega
    · intro _
      omega

/-! ## Shifts -/

theorem pow_two_pos (n : Nat) : 0 < Nat.pow 2 n := Nat.pow_pos (by decide)

theorem unitsOfOne_eq {k : Nat} (hk : k = 1074) : unitsOfOne = Nat.pow 2 k := by
  unfold unitsOfOne
  exact congrArg _ hk.symm

theorem unitsOfOne_pos : 0 < unitsOfOne := by
  unfold unitsOfOne
  apply pow_two_pos

/-- A mantissa with its shift is in the form that the shift of its units gives. -/
theorem shiftFor_units (x : Magnitude) : shiftFor x.units = x.shift := by
  rcases Nat.eq_zero_or_pos x.shift with hzero | hpos
  · have hunits : x.units = x.mant := by
      rw [units, hzero]
      exact Nat.mul_one x.mant
    rw [shiftFor, if_pos (hunits ▸ x.mant_lt), hzero]
  · have hmant : Nat.pow 2 52 ≤ x.mant := x.normal.resolve_left (by omega)
    have hne : x.mant ≠ 0 := by
      intro hzero
      rw [hzero] at hmant
      exact absurd hmant (by decide)
    have htwo : Nat.pow 2 1 ≤ Nat.pow 2 x.shift := Nat.pow_le_pow_right (by omega) hpos
    have hlarge : ¬ x.units < Nat.pow 2 53 := by
      have hprod : Nat.pow 2 52 * Nat.pow 2 1 ≤ x.units := Nat.mul_le_mul hmant htwo
      exact Nat.not_lt.mpr hprod
    have hlog : Nat.log2 x.units = 52 + x.shift := by
      have hunits : x.units ≠ 0 := Nat.mul_ne_zero hne (pow_two_pos _).ne'
      rw [Nat.log2_eq_iff hunits, Nat.pow_add, Nat.add_right_comm, Nat.pow_add]
      exact ⟨Nat.mul_le_mul_right _ hmant, Nat.mul_lt_mul_of_pos_right x.mant_lt (pow_two_pos _)⟩
    rw [shiftFor, if_neg hlarge, hlog]
    omega

theorem pack?_parts (x : Magnitude) : pack? x.mant x.shift = some x :=
  dif_pos ⟨x.mant_lt, x.normal, x.shift_le⟩

/-! ## Ratios -/

theorem round?_mul_left {k : Nat} (hk : 0 < k) (num den : Nat) :
    round? (k * num) (k * den) = round? num den := by
  simp only [round?, Nat.mul_assoc, Nat.mul_div_mul_left _ _ hk, divNearest_mul_left hk]

theorem round?_units (x : Magnitude) : round? x.units unitsOfOne = some x := by
  have hpow : 0 < Nat.pow 2 x.shift := Nat.pow_pos (by decide)
  have hratio : divNearest (x.units * unitsOfOne) (unitsOfOne * Nat.pow 2 x.shift) = x.mant := by
    rw [Nat.mul_comm x.units, divNearest_mul_left unitsOfOne_pos, units, divNearest_of_mul _ hpow]
  simp only [round?, Nat.mul_div_cancel _ unitsOfOne_pos, shiftFor_units, hratio, pack?_parts]

/-! ## Ratios that are too large -/

/-- Shifted as the format asks for, units have 53 bits, or no shift and fewer. -/
theorem shiftFor_bounds (n : Nat) : n < Nat.pow 2 (53 + shiftFor n) ∧
    (shiftFor n = 0 ∨ Nat.pow 2 (52 + shiftFor n) ≤ n) := by
  by_cases hsmall : n < Nat.pow 2 53
  · rw [shiftFor, if_pos hsmall]
    exact ⟨hsmall, Or.inl rfl⟩
  · have hlarge : Nat.pow 2 53 ≤ n := Nat.not_lt.mp hsmall
    have hne : n ≠ 0 := ((pow_two_pos 53).trans_le hlarge).ne'
    have hlog : 53 ≤ Nat.log2 n := (Nat.le_log2 hne).mpr hlarge
    have hover : 53 + (Nat.log2 n - 52) = Nat.log2 n + 1 := by omega
    have hunder : 52 + (Nat.log2 n - 52) = Nat.log2 n := by omega
    rw [shiftFor, if_neg hsmall, hover, hunder]
    exact ⟨Nat.lt_log2_self, Or.inr (Nat.log2_self_le hne)⟩

/-- Units that are shifted so are rounded to a mantissa of 53 bits, or fewer without shift. -/
theorem divNearest_shift_bounds {scaled den shift : Nat}
    (hunder : scaled / den < Nat.pow 2 (53 + shift))
    (hover : shift = 0 ∨ Nat.pow 2 (52 + shift) ≤ scaled / den) :
    divNearest scaled (den * Nat.pow 2 shift) ≤ Nat.pow 2 53 ∧
      (shift = 0 ∨ Nat.pow 2 52 ≤ divNearest scaled (den * Nat.pow 2 shift)) := by
  have hpow := pow_two_pos shift
  obtain ⟨hwhole, hnext⟩ := divNearest_bounds scaled (den * Nat.pow 2 shift)
  rw [← Nat.div_div_eq_div_mul] at hwhole hnext
  constructor
  · have hlt : scaled / den / Nat.pow 2 shift < Nat.pow 2 53 := by
      rw [Nat.div_lt_iff_lt_mul hpow]
      exact hunder.trans_eq (Nat.pow_add 2 53 shift)
    omega
  · refine hover.imp_right fun h => le_trans ?_ hwhole
    rw [Nat.le_div_iff_mul_le hpow]
    exact (Nat.pow_add 2 52 shift).symm.trans_le h

/-- What is rounded is packed unless its shift, or the one that it carries into, is beyond the
format. -/
theorem pack?_eq_none_iff {mant shift : Nat} (hmost : mant ≤ Nat.pow 2 53)
    (hleast : shift = 0 ∨ Nat.pow 2 52 ≤ mant) :
    pack? mant shift = none ↔ 2045 < shift ∨ shift = 2045 ∧ Nat.pow 2 53 ≤ mant := by
  unfold pack?
  split
  · rename_i hfits
    simp only [reduceCtorEq, false_iff]
    omega
  · rename_i hover
    split
    · rename_i hcarry
      simp only [reduceCtorEq, false_iff]
      omega
    · rename_i hlost
      simp only [true_iff]
      omega

/-- In units the limit is half a unit of the last shift below the next power of two. -/
theorem two_mul_limit {n : Nat} (h : n = 2045) :
    2 * (limit * unitsOfOne) = (2 * Nat.pow 2 53 - 1) * Nat.pow 2 n := by
  subst h
  decide +kernel

theorem pow_le_limit {n : Nat} (h : n ≤ 2097) : Nat.pow 2 n ≤ limit * unitsOfOne := by
  refine (Nat.pow_le_pow_right (by omega) h).trans ?_
  decide +kernel

theorem limit_le_pow {n : Nat} (h : 2098 ≤ n) : limit * unitsOfOne ≤ Nat.pow 2 n := by
  refine LE.le.trans ?_ (Nat.pow_le_pow_right (by omega) h)
  decide +kernel

/-- Exactly the ratios from the limit up are too large. -/
theorem round?_eq_none_iff {num den : Nat} (hden : 0 < den) :
    round? num den = none ↔ limit * den ≤ num := by
  have hlimit {n : Nat} : n = 2045 → _ := two_mul_limit (n := n)
  have hlow {n : Nat} : n ≤ 2097 → _ := pow_le_limit (n := n)
  have hhigh {n : Nat} : 2098 ≤ n → _ := limit_le_pow (n := n)
  have hunits : limit * den ≤ num ↔ limit * unitsOfOne * den ≤ num * unitsOfOne := by
    rw [Nat.mul_right_comm]
    exact (Nat.mul_le_mul_right_iff unitsOfOne_pos).symm
  rw [hunits, round?]
  generalize limit * unitsOfOne = top at hlimit hlow hhigh
  generalize num * unitsOfOne = scaled
  obtain ⟨hunder, hover⟩ := shiftFor_bounds (scaled / den)
  generalize shiftFor (scaled / den) = shift at hunder hover
  obtain ⟨hmost, hleast⟩ := divNearest_shift_bounds hunder hover
  simp only [pack?_eq_none_iff hmost hleast]
  rcases Nat.lt_trichotomy shift 2045 with hless | hexact | hmore
  · -- even the next power of two is in the format
    refine iff_of_false (by omega) (Nat.not_le.mpr ?_)
    have hscaled : scaled < Nat.pow 2 (53 + shift) * den := (Nat.div_lt_iff_lt_mul hden).mp hunder
    exact hscaled.trans_le (Nat.mul_le_mul_right den (hlow (by omega)))
  · have hround : Nat.pow 2 53 ≤ divNearest scaled (den * Nat.pow 2 shift) ↔
        (2 * Nat.pow 2 53 - 1) * (den * Nat.pow 2 shift) ≤ 2 * scaled :=
      even_le_divNearest_iff (Nat.mul_pos hden (pow_two_pos shift)) (by decide) (pow_two_pos 53)
    have hdouble : (2 * Nat.pow 2 53 - 1) * (den * Nat.pow 2 shift) = 2 * (top * den) := by
      rw [Nat.mul_left_comm, ← hlimit hexact, Nat.mul_left_comm, Nat.mul_comm den]
    rw [hdouble, Nat.mul_le_mul_left_iff (by omega)] at hround
    rw [hround]
    omega
  · refine iff_of_true (Or.inl hmore) ?_
    have hscaled : Nat.pow 2 (52 + shift) * den ≤ scaled :=
      (Nat.le_div_iff_mul_le hden).mp (hover.resolve_left (by omega))
    exact (Nat.mul_le_mul_right den (hhigh (by omega))).trans hscaled

/-! ## How far a ratio is rounded -/

/-- The rounded quotient is within half of the exact one. -/
theorem divNearest_error {den : Nat} (hden : 0 < den) (num : Nat) :
    2 * num ≤ (2 * divNearest num den + 1) * den ∧
      2 * divNearest num den * den ≤ 2 * num + den := by
  have hsum : num = den * (num / den) + num % den := (Nat.div_add_mod num den).symm
  have hrest := Nat.mod_lt num hden
  have hlow (q : Nat) : (2 * q + 1) * den = 2 * (den * q) + den ∧
      2 * q * den = 2 * (den * q) := ⟨by ring, by ring⟩
  have hhigh (q : Nat) : (2 * (q + 1) + 1) * den = 2 * (den * q) + 3 * den ∧
      2 * (q + 1) * den = 2 * (den * q) + 2 * den := ⟨by ring, by ring⟩
  simp only [divNearest]
  generalize num / den = q at hsum ⊢
  generalize num % den = r at hsum hrest ⊢
  split
  · rw [(hlow q).1, (hlow q).2]
    omega
  · split
    · rw [(hhigh q).1, (hhigh q).2]
      omega
    · split
      · rw [(hlow q).1, (hlow q).2]
        omega
      · rw [(hhigh q).1, (hhigh q).2]
        omega

/-- Packing does not change the number. -/
theorem units_of_pack? {mant shift : Nat} {x : Magnitude} (h : pack? mant shift = some x) :
    x.units = mant * Nat.pow 2 shift := by
  unfold pack? at h
  split at h
  · cases h
    rfl
  · split at h
    · rename_i hcarry
      obtain ⟨rfl, _⟩ := hcarry
      cases h
      change Nat.pow 2 52 * (Nat.pow 2 shift * 2) = Nat.pow 2 52 * 2 * Nat.pow 2 shift
      ring
    · cases h

/-- What is large enough to be shifted is rounded by no more than a part in `2^53`. -/
theorem round?_error {num den : Nat} {x : Magnitude} (hden : 0 < den)
    (hlarge : Nat.pow 2 53 * den ≤ num * unitsOfOne) (h : round? num den = some x) :
    Nat.pow 2 53 * (num * unitsOfOne) ≤ Nat.pow 2 53 * (x.units * den) + num * unitsOfOne ∧
      Nat.pow 2 53 * (x.units * den) ≤ Nat.pow 2 53 * (num * unitsOfOne) + num * unitsOfOne := by
  have hunits := units_of_pack? h
  generalize num * unitsOfOne = scaled at hlarge hunits ⊢
  obtain ⟨hunder, hover⟩ := shiftFor_bounds (scaled / den)
  generalize shiftFor (scaled / den) = shift at hunder hover hunits
  -- half a unit of the last place is a small part of the whole
  have hplace : Nat.pow 2 53 * (den * Nat.pow 2 shift) ≤ 2 * scaled := by
    have hshifted : Nat.pow 2 (52 + shift) * den ≤ scaled := by
      rw [← Nat.le_div_iff_mul_le hden] at hlarge ⊢
      refine hover.resolve_left fun hzero => ?_
      rw [hzero] at hunder
      exact absurd hlarge (Nat.not_le.mpr hunder)
    have hdouble : Nat.pow 2 53 * (den * Nat.pow 2 shift) = 2 * (Nat.pow 2 (52 + shift) * den) := by
      have hpow : Nat.pow 2 (52 + shift) = Nat.pow 2 52 * Nat.pow 2 shift := Nat.pow_add ..
      have hnext : Nat.pow 2 53 = 2 * Nat.pow 2 52 := rfl
      rw [hpow, hnext]
      ring
    omega
  obtain ⟨hleast, hmost⟩ :=
    divNearest_error (Nat.mul_pos hden (pow_two_pos shift)) scaled
  generalize divNearest scaled (den * Nat.pow 2 shift) = mant at hunits hleast hmost
  have hnumber : x.units * den = mant * (den * Nat.pow 2 shift) := by
    rw [hunits]
    ring
  rw [hnumber]
  generalize den * Nat.pow 2 shift = place at *
  generalize Nat.pow 2 53 = parts at *
  have hleast' := Nat.mul_le_mul_left parts hleast
  have hmost' := Nat.mul_le_mul_left parts hmost
  have hexpand : parts * ((2 * mant + 1) * place) =
      2 * (parts * (mant * place)) + parts * place := by ring
  have hexpand' : parts * (2 * mant * place) = 2 * (parts * (mant * place)) := by ring
  have hscaled : parts * (2 * scaled) = 2 * (parts * scaled) := by ring
  rw [hexpand, hscaled] at hleast'
  rw [hexpand', Nat.mul_add, hscaled] at hmost'
  omega

theorem unitsOfOne_le_of_round? {num den : Nat} {x : Magnitude} (hden : 0 < den) (hle : den ≤ num)
    (h : round? num den = some x) : unitsOfOne ≤ x.units := by
  obtain ⟨k, hk⟩ : ∃ k, k = 1074 := ⟨_, rfl⟩
  have hunits := units_of_pack? h
  have hscaled : Nat.pow 2 k ≤ num * unitsOfOne / den := by
    rw [← unitsOfOne_eq hk, Nat.le_div_iff_mul_le hden, Nat.mul_comm]
    exact Nat.mul_le_mul_right unitsOfOne hle
  generalize num * unitsOfOne = scaled at hunits hscaled
  obtain ⟨hunder, hover⟩ := shiftFor_bounds (scaled / den)
  obtain ⟨_, hleast⟩ := divNearest_shift_bounds hunder hover
  generalize shiftFor (scaled / den) = shift at hunder hunits hleast
  have hshift : k < 53 + shift := (Nat.pow_lt_pow_iff_right (by omega)).mp (hscaled.trans_lt hunder)
  calc unitsOfOne = Nat.pow 2 k := unitsOfOne_eq hk
    _ ≤ Nat.pow 2 (52 + shift) := Nat.pow_le_pow_right (by omega) (by omega)
    _ = Nat.pow 2 52 * Nat.pow 2 shift := Nat.pow_add ..
    _ ≤ _ := Nat.mul_le_mul_right _ (hleast.resolve_left (by omega))
    _ = x.units := hunits.symm

end Waymark.Magnitude
