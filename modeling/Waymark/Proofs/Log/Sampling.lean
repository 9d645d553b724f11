import Mathlib.Algebra.Order.Floor.Div
import Waymark.Log.Sampling
import Waymark.Proofs.Number.Value

/-!
# What sampling keeps

Only routine events are sampled: every other signal passes and leaves the
sampler as it was (`Sampler.offer_of_not_routine`), so the routine events fare
as if they were alone (`Sampler.verdicts_routine`). Of these the sampler keeps
the first and then every `k`-th, which makes `⌈n/k⌉` of `n`
(`Sampler.kept_eq_ceilDiv`).

What is asked for is a rate `r`, and `k` is the whole part of `1/r`. The events
kept are never fewer than `r * n`, but each of the gaps between them is short by
the fraction that was cut off, and these parts add up: after `m` full gaps they
are `m * (1/r - k)` events. The number kept is within one of `r * n` as long as
that sum is below one (`ceilDiv_sub_mul_lt_one_iff`): always if `1/r` is a whole
number, and otherwise for a while only. A rate above one half has `k = 1`, and
nothing is left out at all.
-/

namespace Waymark.Log

/-- Whether a signal is one of those of which only a fraction is shown. -/
def Signal.isRoutine : Signal → Bool
  | .span => false
  | .event level => !level.isImportant

def routine (xs : List Signal) : List Signal := xs.filter (·.isRoutine)

namespace Sampler

def verdicts (s : Sampler) (xs : List Signal) : List (Signal × Bool) := xs.zip (s.offerAll xs)

def kept (s : Sampler) (xs : List Signal) : Nat :=
  (s.verdicts xs).countP fun v => v.1.isRoutine && v.2

/-- At every point the routine events kept so far are the fraction `r` of those there were, but
for less than one event. -/
def KeepsFraction (s : Sampler) (r : ℚ) (xs : List Signal) : Prop :=
  ∀ ys, ys <+: xs → |(s.kept ys : ℚ) - r * (routine ys).length| < 1

variable {s : Sampler} {x : Signal} {xs : List Signal}

theorem verdicts_cons (s : Sampler) (x : Signal) (xs : List Signal) :
    s.verdicts (x :: xs) = (x, (s.offer x).1) :: (s.offer x).2.verdicts xs := rfl

theorem kept_cons (s : Sampler) (x : Signal) (xs : List Signal) :
    s.kept (x :: xs) =
      (s.offer x).2.kept xs + if x.isRoutine && (s.offer x).1 then 1 else 0 := by
  rw [kept, verdicts_cons, List.countP_cons, ← kept]

theorem routine_cons (x : Signal) (xs : List Signal) :
    routine (x :: xs) = if x.isRoutine then x :: routine xs else routine xs := List.filter_cons

/-! ## One signal -/

section Offer

variable (hmode : s.mode = .sampled)

include hmode

theorem offer_of_not_routine (hx : x.isRoutine = false) : s.offer x = (true, s) := by
  cases x with
  | span => rfl
  | event level =>
      rw [Signal.isRoutine, Bool.not_eq_false'] at hx
      simp only [offer, hmode, hx, if_true]

theorem offer_of_routine (hx : x.isRoutine = true) (hrate : s.rate.le .zero = false) :
    s.offer x = (isKept (interval s.rate) s.count.toNat, { s with count := s.count + 1 }) := by
  cases x with
  | span => cases hx
  | event level =>
      rw [Signal.isRoutine, Bool.not_eq_true'] at hx
      simp only [offer, hmode, hx, hrate, Bool.false_eq_true, if_false]

theorem offer_of_routine_of_zero (hx : x.isRoutine = true) (hrate : s.rate.le .zero = true) :
    s.offer x = (false, s) := by
  cases x with
  | span => cases hx
  | event level =>
      rw [Signal.isRoutine, Bool.not_eq_true'] at hx
      simp only [offer, hmode, hx, hrate, Bool.false_eq_true, if_false, if_true]

theorem offer_mode (x : Signal) : (s.offer x).2.mode = .sampled := by
  cases hx : x.isRoutine with
  | false => rw [offer_of_not_routine hmode hx, hmode]
  | true =>
      cases hrate : s.rate.le .zero with
      | false => rw [offer_of_routine hmode hx hrate, hmode]
      | true => rw [offer_of_routine_of_zero hmode hx hrate, hmode]

end Offer

/-! ## All signals -/

theorem passes_of_not_routine (hmode : s.mode = .sampled) :
    ∀ v ∈ s.verdicts xs, v.1.isRoutine = false → v.2 = true := by
  induction xs generalizing s with
  | nil => exact List.forall_mem_nil _
  | cons x xs ih =>
      rw [verdicts_cons, List.forall_mem_cons]
      refine ⟨fun hx => ?_, ih (offer_mode hmode x)⟩
      rw [offer_of_not_routine hmode hx]

/-- Routine events fare as if there were no others. -/
theorem verdicts_routine (hmode : s.mode = .sampled) :
    (s.verdicts xs).filter (·.1.isRoutine) = s.verdicts (routine xs) := by
  induction xs generalizing s with
  | nil => rfl
  | cons x xs ih =>
      rw [verdicts_cons, routine_cons, List.filter_cons]
      cases hx : x.isRoutine with
      | false =>
          rw [offer_of_not_routine hmode hx]
          exact ih hmode
      | true =>
          simp only [if_true, verdicts_cons]
          rw [ih (offer_mode hmode x)]

/-- Of the routine events those pass whose number is one to keep. The numbers start from the
count, which must not wrap around. -/
theorem kept_eq_countP {c : Nat} (hmode : s.mode = .sampled) (hrate : s.rate.le .zero = false)
    (hcount : s.count = .ofNat c) (hn : c + (routine xs).length ≤ UInt64.size) :
    s.kept xs = (List.range' c (routine xs).length).countP (isKept (interval s.rate)) := by
  induction xs generalizing s c with
  | nil => rfl
  | cons x xs ih =>
      rw [kept_cons]
      rw [routine_cons] at hn ⊢
      cases hx : x.isRoutine with
      | false =>
          rw [hx, if_neg (by decide)] at hn
          rw [offer_of_not_routine hmode hx]
          exact ih hmode hrate hcount hn
      | true =>
          rw [hx, if_pos rfl, List.length_cons] at hn
          have hnumber : s.count.toNat = c := by
            rw [hcount]
            exact UInt64.toNat_ofNat_of_lt' (by omega)
          have hnext : s.count + 1 = .ofNat (c + 1) := by
            rw [hcount, UInt64.ofNat_add]
            rfl
          have hrest : ({ s with count := s.count + 1 } : Sampler).kept xs =
              (List.range' (c + 1) (routine xs).length).countP (isKept (interval s.rate)) :=
            ih hmode hrate hnext (by omega)
          rw [offer_of_routine hmode hx hrate, hnumber, if_pos rfl, List.length_cons,
            List.range'_succ, List.countP_cons, hrest, Bool.true_and]

theorem kept_of_zero (hmode : s.mode = .sampled) (hrate : s.rate.le .zero = true) :
    s.kept xs = 0 := by
  induction xs with
  | nil => rfl
  | cons x xs ih =>
      rw [kept_cons]
      cases hx : x.isRoutine with
      | false =>
          rw [offer_of_not_routine hmode hx, ih]
          rfl
      | true =>
          rw [offer_of_routine_of_zero hmode hx hrate, ih]
          rfl

theorem succ_ceilDiv {k : Nat} (hk : 0 < k) (n : Nat) : (n + 1) ⌈/⌉ k = n / k + 1 := by
  rw [Nat.ceilDiv_eq_add_pred_div, Nat.add_right_comm, Nat.add_sub_cancel,
    Nat.add_div_right n hk]

/-- Of the numbers from zero on every `k`-th is kept, the first one included. -/
theorem countP_isKept {k : Nat} (hk : 0 < k) (n : Nat) :
    (List.range n).countP (isKept k) = n ⌈/⌉ k := by
  induction n with
  | zero => rw [zero_ceilDiv, List.range_zero, List.countP_nil]
  | succ n ih =>
      rw [List.range_succ, List.countP_append, ih, List.countP_singleton, succ_ceilDiv hk]
      cases n with
      | zero => simp [isKept, hk]
      | succ n =>
          have hkept : isKept k (n + 1) = true ↔ k ∣ n + 1 := by
            simp [isKept, hk, Nat.dvd_iff_mod_eq_zero]
          rw [succ_ceilDiv hk, Nat.succ_div, Nat.add_right_comm, if_congr hkept rfl rfl]

/-- Of `n` routine events the sampler keeps `n` divided by its interval, rounded up. -/
theorem kept_eq_ceilDiv (hmode : s.mode = .sampled) (hrate : s.rate.le .zero = false)
    (hcount : s.count = 0) (hk : 0 < interval s.rate)
    (hn : (routine xs).length ≤ UInt64.size) :
    s.kept xs = (routine xs).length ⌈/⌉ interval s.rate := by
  rw [kept_eq_countP hmode hrate (c := 0) hcount (by omega), ← List.range_eq_range',
    countP_isKept hk]

/-! ## The fraction -/

section Fraction

variable {r : ℚ} {k : Nat}

theorem mul_le_ceilDiv (hr : 0 ≤ r) (hk : 0 < k) (hrk : r * k ≤ 1) (n : Nat) :
    r * n ≤ (n ⌈/⌉ k : Nat) := by
  have hn : (n : ℚ) ≤ k * (n ⌈/⌉ k : Nat) := by exact_mod_cast le_smul_ceilDiv hk
  calc r * n ≤ r * (k * (n ⌈/⌉ k : Nat)) := mul_le_mul_of_nonneg_left hn hr
    _ = r * k * (n ⌈/⌉ k : Nat) := by ring
    _ ≤ 1 * (n ⌈/⌉ k : Nat) := mul_le_mul_of_nonneg_right hrk (Nat.cast_nonneg _)
    _ = (n ⌈/⌉ k : Nat) := one_mul _

/-- Behind a number of full gaps the events kept are ahead by less than one, as long as what was
cut off the gaps is less than one event. -/
theorem gaps_lt_one_iff (hr : 0 < r) (m : Nat) :
    m * (r⁻¹ - k) < 1 ↔ (m : ℚ) < r * (m * k + 1) := by
  rw [← mul_lt_mul_iff_right₀ hr]
  have hsplit : r * (m * (r⁻¹ - k)) = m - r * (m * k) := by
    field_simp
  rw [hsplit]
  constructor <;> intro h <;> linarith

/-- Rounding up keeps within one of the fraction, at every point, exactly if the parts cut off the
gaps do not add up to one. -/
theorem ceilDiv_sub_mul_lt_one_iff (hr : 0 < r) (hk : 0 < k) (hrk : r * k ≤ 1) (n : Nat) :
    (∀ i ≤ n, ((i ⌈/⌉ k : Nat) : ℚ) - r * i < 1) ↔ ((n - 1) / k : Nat) * (r⁻¹ - k) < 1 := by
  constructor
  · intro h
    cases n with
    | zero => simp
    | succ n =>
        -- the worst case is the last event that is kept
        have hlast := h (n / k * k + 1) (Nat.succ_le_succ (Nat.div_mul_le_self n k))
        rw [succ_ceilDiv hk, Nat.mul_div_cancel _ hk] at hlast
        rw [Nat.add_sub_cancel, gaps_lt_one_iff hr]
        push_cast at hlast ⊢
        linarith
  · intro h i hi
    cases i with
    | zero => simp
    | succ i =>
        have hcut : 0 ≤ r⁻¹ - k := by
          rw [sub_nonneg, ← one_div, le_div_iff₀' hr]
          exact hrk
        have hgaps : ((i / k : Nat) : ℚ) ≤ ((n - 1) / k : Nat) :=
          Nat.cast_le.mpr (Nat.div_le_div_right (by omega))
        have hbehind := (gaps_lt_one_iff hr (i / k)).mp
          ((mul_le_mul_of_nonneg_right hgaps hcut).trans_lt h)
        have hnumber : ((i / k : Nat) * k : ℚ) ≤ i := by
          exact_mod_cast Nat.div_mul_le_self i k
        have hmono := mul_le_mul_of_nonneg_left hnumber hr.le
        rw [succ_ceilDiv hk]
        push_cast
        linarith

/-- Every number of routine events up to all of them is reached at some point. -/
theorem exists_prefix_routine {i : Nat} (hi : i ≤ (routine xs).length) :
    ∃ ys, ys <+: xs ∧ (routine ys).length = i := by
  induction xs generalizing i with
  | nil => exact ⟨[], List.prefix_rfl, (Nat.le_zero.mp hi).symm⟩
  | cons x xs ih =>
      rw [routine_cons] at hi
      cases hx : x.isRoutine with
      | false =>
          rw [hx, if_neg (by decide)] at hi
          obtain ⟨ys, hys, rfl⟩ := ih hi
          refine ⟨x :: ys, (List.prefix_cons_inj x).mpr hys, ?_⟩
          rw [routine_cons, hx, if_neg (by decide)]
      | true =>
          rw [hx, if_pos rfl, List.length_cons] at hi
          cases i with
          | zero => exact ⟨[], List.nil_prefix, rfl⟩
          | succ i =>
              obtain ⟨ys, hys, rfl⟩ := ih (Nat.le_of_succ_le_succ hi)
              refine ⟨x :: ys, (List.prefix_cons_inj x).mpr hys, ?_⟩
              rw [routine_cons, hx, if_pos rfl, List.length_cons]

theorem routine_length_mono {ys : List Signal} (h : ys <+: xs) :
    (routine ys).length ≤ (routine xs).length := (h.filter _).length_le

/-- A sampler that keeps every `k`-th routine event keeps the fraction `r` exactly if the parts
cut off the gaps do not add up to one. -/
theorem keepsFraction_iff (hr : 0 < r) (hk : 0 < k) (hrk : r * k ≤ 1)
    (hkept : ∀ ys, ys <+: xs → s.kept ys = (routine ys).length ⌈/⌉ k) :
    s.KeepsFraction r xs ↔ (((routine xs).length - 1) / k : Nat) * (r⁻¹ - k) < 1 := by
  rw [← ceilDiv_sub_mul_lt_one_iff hr hk hrk]
  constructor
  · intro h i hi
    obtain ⟨ys, hys, rfl⟩ := exists_prefix_routine hi
    have hclose := (abs_lt.mp (h ys hys)).2
    rwa [hkept ys hys] at hclose
  · intro h ys hys
    have hlow := mul_le_ceilDiv hr.le hk hrk (routine ys).length
    rw [hkept ys hys, abs_lt]
    exact ⟨by linarith, h _ (routine_length_mono hys)⟩

end Fraction

/-! ## What a new sampler keeps -/

section New

open Text (word64Max)

theorem word64Max_le_limit : word64Max ≤ Magnitude.limit := by decide +kernel

variable {rate : Binary64} {v : ℚ}

theorem rate_new (hrate : rate.value? = some v) (h0 : 0 ≤ v) (h1 : v ≤ 1) :
    (new .sampled rate).rate = rate := Binary64.clampUnit_of_unit hrate h0 h1

theorem rate_le_zero_iff (hrate : rate.value? = some v) : rate.le .zero = true ↔ v ≤ 0 :=
  Binary64.le_iff hrate Binary64.value?_zero

/-- The interval of a rate, up to what is rounded. -/
theorem interval_bounds (hrate : rate.value? = some v) (h0 : 0 < v) (h1 : v ≤ 1) :
    0 < interval rate ∧ v * interval rate ≤ 1 + Magnitude.roundoff ∧
      (interval rate = word64Max ∨ 1 - Magnitude.roundoff < v * (interval rate + 1)) :=
  Binary64.floorUpTo_inverse (by decide) word64Max_le_limit hrate h0 h1

theorem kept_new (hrate : rate.value? = some v) (h0 : 0 < v) (h1 : v ≤ 1)
    (hn : (routine xs).length ≤ UInt64.size) :
    (new .sampled rate).kept xs = (routine xs).length ⌈/⌉ interval rate := by
  have hrate' := rate_new hrate h0.le h1
  have hzero : rate.le .zero = false := by
    rw [Bool.eq_false_iff, Ne, rate_le_zero_iff hrate]
    exact h0.not_ge
  rw [kept_eq_ceilDiv rfl (by rw [hrate', hzero]) rfl, hrate']
  · rw [hrate']
    exact (interval_bounds hrate h0 h1).1
  · exact hn

def threeQuarters : Binary64 :=
  .finite false ⟨3 * Nat.pow 2 51, 1021, by decide, by decide, by decide⟩

theorem value?_threeQuarters : threeQuarters.value? = some (3 / 4) := by
  have hvalue {size : Magnitude} (hmant : size.mant = 3 * Nat.pow 2 51)
      (hshift : size.shift + 53 = 1074) : size.value = 3 / 4 := by
    have hone : Magnitude.unitsOfOne = Nat.pow 2 size.shift * Nat.pow 2 53 :=
      (Magnitude.unitsOfOne_eq hshift).trans (Nat.pow_add 2 size.shift 53)
    have hpow : 4 * Nat.pow 2 51 = Nat.pow 2 53 := by decide
    have hunits : size.units * 4 = 3 * Magnitude.unitsOfOne := by
      rw [Magnitude.units, hmant, hone, ← hpow]
      ring
    rw [Magnitude.value, div_eq_div_iff Magnitude.unitsOfOne_pos'.ne' (by norm_num)]
    exact_mod_cast hunits
  exact congrArg some (hvalue rfl rfl)

theorem interval_threeQuarters : interval threeQuarters = 1 := by
  obtain ⟨hpos, hlow, -⟩ := interval_bounds value?_threeQuarters (by norm_num) (by norm_num)
  have hround : Magnitude.roundoff ≤ 1 / 4 := by
    refine one_div_le_one_div_of_le (by norm_num) ?_
    have hpow : 4 ≤ Nat.pow 2 53 := by decide
    exact_mod_cast hpow
  have hlt : ((interval threeQuarters : Nat) : ℚ) < 2 := by linarith
  have hlt' : interval threeQuarters < 2 := by exact_mod_cast hlt
  omega

/-- Every signal that is not routine passes and changes nothing for the others. At rate zero no
routine event passes; at a greater rate those of number `0`, `k`, `2 * k` and so on do, where `k`
is the whole part of one divided by the rate. If `k` is the whole part of `1/r`, the sampler keeps
`r * n` of `n` routine events at least, and it keeps the fraction `r` exactly if the parts cut off
the gaps between the events kept are less than one event in sum. -/
theorem keeps_one_in_interval (hrate : rate.value? = some v) (h0 : 0 ≤ v) (h1 : v ≤ 1)
    (hn : (routine xs).length < UInt64.size) :
    (∀ e ∈ (new .sampled rate).verdicts xs, e.1.isRoutine = false → e.2 = true) ∧
      ((new .sampled rate).verdicts xs).filter (·.1.isRoutine) =
        (new .sampled rate).verdicts (routine xs) ∧
      (v = 0 → (new .sampled rate).kept xs = 0 ∧ (new .sampled rate).KeepsFraction 0 xs) ∧
      (0 < v →
        0 < interval rate ∧ v * interval rate ≤ 1 + Magnitude.roundoff ∧
          (interval rate = word64Max ∨ 1 - Magnitude.roundoff < v * (interval rate + 1)) ∧
          (new .sampled rate).kept xs = (routine xs).length ⌈/⌉ interval rate ∧
          ∀ r : ℚ, 0 < r → interval rate = min word64Max ⌊r⁻¹⌋₊ →
            r * (routine xs).length ≤ (new .sampled rate).kept xs ∧
              ((new .sampled rate).KeepsFraction r xs ↔
                (((routine xs).length - 1) / interval rate : Nat) *
                  (r⁻¹ - interval rate) < 1)) := by
  refine ⟨passes_of_not_routine rfl, verdicts_routine rfl, ?_, fun hpos => ?_⟩
  · rintro rfl
    have hnone (ys : List Signal) : (new .sampled rate).kept ys = 0 := by
      refine kept_of_zero rfl ?_
      rw [rate_new hrate h0 h1]
      exact (rate_le_zero_iff hrate).mpr le_rfl
    refine ⟨hnone xs, fun ys _ => ?_⟩
    rw [hnone ys, Nat.cast_zero, zero_mul, sub_zero, abs_zero]
    exact one_pos
  · obtain ⟨hk, hlow, hhigh⟩ := interval_bounds hrate hpos h1
    have hkept (ys : List Signal) (hys : ys <+: xs) :
        (new .sampled rate).kept ys = (routine ys).length ⌈/⌉ interval rate :=
      kept_new hrate hpos h1 ((routine_length_mono hys).trans hn.le)
    refine ⟨hk, hlow, hhigh, hkept xs List.prefix_rfl, fun r hr hfloor => ?_⟩
    have hrk : r * interval rate ≤ 1 := by
      have hle : (interval rate : ℚ) ≤ r⁻¹ := by
        rw [hfloor]
        exact (Nat.cast_le.mpr (min_le_right _ _)).trans (Nat.floor_le (inv_pos.mpr hr).le)
      rw [← mul_inv_cancel₀ hr.ne']
      exact mul_le_mul_of_nonneg_left hle hr.le
    refine ⟨?_, keepsFraction_iff hr hk hrk hkept⟩
    rw [hkept xs List.prefix_rfl]
    exact mul_le_ceilDiv hr.le hk hrk _

theorem keeps_one_in_interval_threeQuarters :
    threeQuarters.value? = some (3 / 4) ∧
      (routine [.event .info, .event .warn, .event .debug, .span, .event .info]).length <
        UInt64.size ∧
      (new .sampled threeQuarters).KeepsFraction (3 / 4)
        [.event .info, .event .warn, .event .debug, .span, .event .info] := by
  have hlength :
      (routine [.event .info, .event .warn, .event .debug, .span, .event .info]).length = 3 := rfl
  have hn : (routine [.event .info, .event .warn, .event .debug, .span, .event .info]).length <
      UInt64.size := by decide
  have hwhole : ⌊(3 / 4 : ℚ)⁻¹⌋₊ = 1 := by
    rw [Nat.floor_eq_iff (by norm_num)]
    norm_num
  have hfloor : interval threeQuarters = min word64Max ⌊(3 / 4 : ℚ)⁻¹⌋₊ := by
    rw [interval_threeQuarters, hwhole]
    rfl
  obtain ⟨-, -, -, hkeeps⟩ := keeps_one_in_interval value?_threeQuarters (by norm_num)
    (by norm_num) hn
  obtain ⟨-, -, -, -, hfraction⟩ := hkeeps (by norm_num)
  refine ⟨value?_threeQuarters, hn, (hfraction (3 / 4) (by norm_num) hfloor).2.mpr ?_⟩
  rw [interval_threeQuarters, hlength]
  norm_num

/-- At three quarters nothing is left out: `1/r` is cut off to one. -/
theorem threeQuarters_all_pass :
    threeQuarters.value? = some (3 / 4) ∧
      (new .sampled threeQuarters).kept (List.replicate 8 (.event .info)) = 8 ∧
      ¬ (new .sampled threeQuarters).KeepsFraction (3 / 4) (List.replicate 8 (.event .info)) := by
  have hkept : (new .sampled threeQuarters).kept (List.replicate 8 (.event .info)) = 8 := by
    rw [kept_new value?_threeQuarters (by norm_num) (by norm_num) (by decide),
      interval_threeQuarters, ceilDiv_one]
    rfl
  refine ⟨value?_threeQuarters, hkept, fun h => ?_⟩
  have hclose := h _ List.prefix_rfl
  have hlength : (routine (List.replicate 8 (.event .info))).length = 8 := rfl
  rw [hkept, hlength] at hclose
  norm_num at hclose

end New

end Sampler

end Waymark.Log
