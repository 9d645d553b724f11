import Waymark.Number.Decimal
import Waymark.Proofs.Number.Rounding
import Waymark.Proofs.Text.Cut
import Waymark.Proofs.Text.Integer

/-!
# Decimals read back

The shortest decimal of a magnitude reads as the magnitude again
(`toMagnitude?_shortest`): the candidates of up to 17 digits are checked to,
the decimal in full does by `toMagnitude?_exact`, and zeros at the end may be
moved into the exponent because only the ratio counts
(`toMagnitude?_mul_ten`).

Texts come in through `Written`, which says without a reader how digits and a
point stand for a decimal. A number written without exponent is such a text of
a decimal of the same magnitude (`exists_written_positional`), and any such
text is read as its decimal (`Binary64.read?_of_written`), so a number is read
from what it is written as (`Binary64.read?_text`).
-/

namespace Waymark

namespace Decimal

open Magnitude

/-! ## The ratio of a decimal -/

theorem ratio_of_nonneg {d : Decimal} (h : 0 ≤ d.exponent) :
    d.ratio = (d.digits * Nat.pow 10 d.exponent.toNat, 1) := by
  rw [ratio, if_pos h]

theorem ratio_of_neg {d : Decimal} (h : d.exponent < 0) :
    d.ratio = (d.digits, Nat.pow 10 (-d.exponent).toNat) := by
  rw [ratio, if_neg (Int.not_le.mpr h)]

theorem ratio_den_pos (d : Decimal) : 0 < d.ratio.2 := by
  by_cases h : 0 ≤ d.exponent
  · rw [ratio_of_nonneg h]
    exact Nat.one_pos
  · rw [ratio_of_neg (Int.not_le.mp h)]
    exact Nat.pow_pos (by omega)

theorem ratio_lt {d : Decimal} (h : d.order ≤ 0) : d.ratio.1 < d.ratio.2 := by
  have hlen : 0 < (Nat.toDigits 10 d.digits).length := Nat.length_toDigits_pos
  rw [order] at h
  simp only [ratio_of_neg (show d.exponent < 0 by omega)]
  exact (Nat.length_toDigits_le_iff (by omega) (by omega)).mp (by omega)

theorem le_ratio {d : Decimal} {k : Nat} (hd : d.digits ≠ 0) (h : (k : Int) < d.order) :
    Nat.pow 10 k * d.ratio.2 ≤ d.ratio.1 := by
  have hleast {j : Nat} (hj : j < (Nat.toDigits 10 d.digits).length) :
      Nat.pow 10 j ≤ d.digits := by
    rcases Nat.eq_zero_or_pos j with rfl | hpos
    · exact Nat.pos_of_ne_zero hd
    · exact Nat.not_lt.mp fun hlt =>
        absurd ((Nat.length_toDigits_le_iff (by omega) hpos).mpr hlt) (by omega)
  rw [order] at h
  by_cases he : 0 ≤ d.exponent
  · simp only [ratio_of_nonneg he, Nat.mul_one]
    by_cases hk : k ≤ d.exponent.toNat
    · exact (Nat.pow_le_pow_right (by omega) hk).trans
        (Nat.le_mul_of_pos_left _ (Nat.pos_of_ne_zero hd))
    · have hsum : k = (k - d.exponent.toNat) + d.exponent.toNat := by omega
      rw [hsum, Nat.pow_eq, Nat.pow_add]
      exact Nat.mul_le_mul_right _ (hleast (by omega))
  · simp only [ratio_of_neg (Int.not_le.mp he)]
    exact (Nat.pow_add 10 k _).symm.trans_le (hleast (by omega))

/-! ## Magnitudes of decimals -/

theorem toMagnitude?_zero (e : Int) : toMagnitude? ⟨0, e⟩ = some .zero := by
  rw [toMagnitude?, if_pos (Or.inl rfl)]

/-- Within the bounds on the order, a decimal is rounded as the ratio that it is. -/
theorem toMagnitude?_of_order {d : Decimal} (hd : d.digits ≠ 0) (hlow : -400 ≤ d.order)
    (hhigh : d.order ≤ 400) : d.toMagnitude? = round? d.ratio.1 d.ratio.2 := by
  rw [toMagnitude?, if_neg (by omega), if_neg (by omega)]

theorem limit_le {n : Nat} (h : n = 400) : limit ≤ Nat.pow 10 n := by
  subst h
  decide +kernel

/-- The decimals that are too large are those from the limit up. -/
theorem toMagnitude?_eq_none_iff (d : Decimal) :
    d.toMagnitude? = none ↔ limit * d.ratio.2 ≤ d.ratio.1 := by
  have hden := ratio_den_pos d
  have hpos : d.ratio.2 ≤ limit * d.ratio.2 := Nat.le_mul_of_pos_left _ (by decide +kernel)
  by_cases hzero : d.digits = 0
  · have hnum : d.ratio.1 = 0 := by
      unfold ratio
      split <;> simp [hzero]
    rw [toMagnitude?, if_pos (Or.inl hzero)]
    exact iff_of_false (by simp) (by omega)
  · by_cases hlow : d.order < -400
    · rw [toMagnitude?, if_pos (Or.inr hlow)]
      have hlt : d.ratio.1 < d.ratio.2 := ratio_lt (by omega)
      exact iff_of_false (by simp) (by omega)
    · by_cases hhigh : 400 < d.order
      · rw [toMagnitude?, if_neg (by omega), if_pos hhigh]
        refine iff_of_true rfl ?_
        obtain ⟨k, hk⟩ : ∃ k : Nat, k = 400 := ⟨400, rfl⟩
        exact (Nat.mul_le_mul_right _ (limit_le hk)).trans (le_ratio hzero (by omega))
      · rw [toMagnitude?_of_order hzero (by omega) (by omega), round?_eq_none_iff hden]

/-- One more digit, a zero, and one less in the exponent. -/
theorem toDigits_mul_ten {n : Nat} (hn : n ≠ 0) :
    Nat.toDigits 10 (10 * n) = Nat.toDigits 10 n ++ ['0'] := by
  rw [← Nat.add_zero (10 * n),
    ← Nat.toDigits_append_toDigits (by omega) (Nat.pos_of_ne_zero hn) (by omega)]
  rfl

theorem order_mul_ten {n : Nat} (hn : n ≠ 0) (e : Int) :
    order ⟨10 * n, e⟩ = order ⟨n, e + 1⟩ := by
  simp only [order, toDigits_mul_ten hn, List.length_append, List.length_singleton]
  omega

/-- The ratio is the same, or both of its numbers are ten times as large. -/
theorem round?_ratio_mul_ten (n : Nat) (e : Int) :
    round? (ratio ⟨10 * n, e⟩).1 (ratio ⟨10 * n, e⟩).2 =
      round? (ratio ⟨n, e + 1⟩).1 (ratio ⟨n, e + 1⟩).2 := by
  by_cases he : 0 ≤ e
  · have hnext : (e + 1).toNat = e.toNat + 1 := by omega
    rw [ratio_of_nonneg he, ratio_of_nonneg (by simp only; omega)]
    simp only [hnext, Nat.pow_eq, Nat.pow_succ]
    rw [Nat.mul_comm 10 n, Nat.mul_assoc, Nat.mul_comm 10]
  · have hplaces : (-e).toNat = (-(e + 1)).toNat + 1 := by omega
    have hleft : ratio ⟨10 * n, e⟩ = (10 * n, 10 * Nat.pow 10 (-(e + 1)).toNat) := by
      rw [ratio_of_neg (by simp only; omega)]
      simp only [hplaces, Nat.pow_eq, Nat.pow_succ, Nat.mul_comm]
    have hright : ratio ⟨n, e + 1⟩ = (n, Nat.pow 10 (-(e + 1)).toNat) := by
      by_cases hlast : e + 1 = 0
      · rw [ratio_of_nonneg (by simp only; omega)]
        simp [hlast]
      · rw [ratio_of_neg (by simp only; omega)]
    rw [hleft, hright, round?_mul_left (by omega)]

theorem toMagnitude?_mul_ten (n : Nat) (e : Int) :
    toMagnitude? ⟨10 * n, e⟩ = toMagnitude? ⟨n, e + 1⟩ := by
  by_cases hn : n = 0
  · subst hn
    rw [Nat.mul_zero, toMagnitude?_zero, toMagnitude?_zero]
  · simp only [toMagnitude?, order_mul_ten hn, round?_ratio_mul_ten, hn, Nat.mul_eq_zero,
      Nat.reduceEqDiff, or_self]

/-- Zeros at the end of the digits may be moved into the exponent. -/
theorem toMagnitude?_mul_pow (n k : Nat) (e : Int) :
    toMagnitude? ⟨n * 10 ^ k, e⟩ = toMagnitude? ⟨n, e + k⟩ := by
  induction k generalizing e with
  | zero => simp
  | succ k ih =>
      have hten : n * 10 ^ (k + 1) = 10 * (n * 10 ^ k) := by
        rw [Nat.pow_succ, Nat.mul_comm 10, Nat.mul_assoc]
      rw [hten, toMagnitude?_mul_ten, ih]
      congr 2
      omega

theorem toMagnitude?_stripZeros (fuel : Nat) (d : Decimal) :
    (stripZeros fuel d).toMagnitude? = d.toMagnitude? := by
  induction fuel generalizing d with
  | zero => rfl
  | succ fuel ih =>
      rw [stripZeros]
      split
      · rename_i h
        have hdigits : 10 * (d.digits / 10) = d.digits := by omega
        rw [ih, ← toMagnitude?_mul_ten, hdigits]
      · rfl

/-! ## The shortest decimal -/

theorem pow_five_pos (k : Nat) : 0 < Nat.pow 5 k := Nat.pow_pos (by decide)

theorem pow_ten_le {n k : Nat} (hn : n = 673) (hk : k = 1074) :
    Nat.pow 10 n ≤ Nat.pow 5 k := by
  subst hn hk
  decide +kernel

theorem le_pow_ten {n k m : Nat} (hn : n = 1474) (hk : k = 1074) (hm : m ≤ 2045) :
    Nat.pow 2 53 * Nat.pow 2 m * Nat.pow 5 k ≤ Nat.pow 10 n := by
  have hpow : Nat.pow 2 m ≤ Nat.pow 2 2045 := by
    apply Nat.pow_le_pow_right
    · decide
    · exact hm
  refine (Nat.mul_le_mul_right _ (Nat.mul_le_mul_left _ hpow)).trans ?_
  subst hn hk
  decide +kernel

theorem exact_eq {k : Nat} (hk : k = 1074) (x : Magnitude) :
    exact x = ⟨x.units * Nat.pow 5 k, -k⟩ := by
  unfold exact
  congr <;> exact hk.symm

/-- In full, a magnitude has an order within the bounds. -/
theorem order_exact {x : Magnitude} (h : x.mant ≠ 0) :
    -400 ≤ (exact x).order ∧ (exact x).order ≤ 400 := by
  obtain ⟨k, hk⟩ : ∃ k, k = 1074 := ⟨_, rfl⟩
  have hpos : 0 < x.units := Nat.mul_pos (Nat.pos_of_ne_zero h) (pow_two_pos _)
  have hunits : x.units < Nat.pow 2 53 * Nat.pow 2 x.shift :=
    Nat.mul_lt_mul_of_pos_right x.mant_lt (pow_two_pos _)
  have hleast {n : Nat} (hn : n = 673) :
      ¬ (Nat.toDigits 10 (x.units * Nat.pow 5 k)).length ≤ n := by
    rw [Nat.length_toDigits_le_iff (by omega) (by omega), Nat.not_lt]
    exact (pow_ten_le hn hk).trans (Nat.le_mul_of_pos_left _ hpos)
  have hmost {n : Nat} (hn : n = 1474) :
      (Nat.toDigits 10 (x.units * Nat.pow 5 k)).length ≤ n := by
    rw [Nat.length_toDigits_le_iff (by omega) (by omega)]
    exact (Nat.mul_lt_mul_of_pos_right hunits (pow_five_pos k)).trans_le
      (le_pow_ten hn hk x.shift_le)
  have hlow := hleast rfl
  have hhigh := hmost rfl
  rw [exact_eq hk, order]
  dsimp only
  omega

theorem magnitude_eq_zero {x : Magnitude} (h : x.mant = 0) : x = .zero := by
  have hshift : x.shift = 0 := x.normal.resolve_right (by rw [h]; decide)
  cases x
  cases h
  cases hshift
  rfl

/-- In full, a magnitude reads as itself. -/
theorem toMagnitude?_exact {x : Magnitude} (h : x.mant ≠ 0) :
    (exact x).toMagnitude? = some x := by
  obtain ⟨k, hk⟩ : ∃ k, k = 1074 := ⟨_, rfl⟩
  obtain ⟨hlow, hhigh⟩ := order_exact h
  have hten : Nat.pow 10 k = Nat.pow 5 k * unitsOfOne := by
    rw [unitsOfOne_eq hk]
    exact Nat.mul_pow 5 2 k
  rw [exact_eq hk] at hlow hhigh ⊢
  have hdigits : x.units * Nat.pow 5 k ≠ 0 :=
    Nat.mul_ne_zero (Nat.mul_ne_zero h (pow_two_pos _).ne') (pow_five_pos k).ne'
  have hplaces : (- -(k : Int)).toNat = k := by omega
  rw [toMagnitude?_of_order hdigits hlow hhigh, ratio_of_neg (by dsimp only; omega)]
  simp only [hplaces, hten]
  rw [Nat.mul_comm x.units, round?_mul_left (pow_five_pos k), round?_units]

theorem toMagnitude?_of_withDigits? {x : Magnitude} {n : Nat} {d : Decimal}
    (h : withDigits? x n = some d) : d.toMagnitude? = some x := by
  have hreads {d' : Decimal} (h : readsAs x d' = true) : d'.toMagnitude? = some x :=
    eq_of_beq h
  unfold withDigits? at h
  extract_lets num den at h
  generalize neighbours num den _ = pair at h
  obtain ⟨low, high⟩ := pair
  dsimp only at h
  split at h
  · rename_i hlow hhigh
    rw [← Option.some.inj h]
    split
    · exact hreads hlow
    · exact hreads hhigh
  · rename_i hlow _
    rw [← Option.some.inj h]
    exact hreads hlow
  · rename_i _ hhigh
    rw [← Option.some.inj h]
    exact hreads hhigh
  · cases h

theorem toMagnitude?_shortest (x : Magnitude) : (shortest x).toMagnitude? = some x := by
  by_cases hzero : x.mant = 0
  · rw [shortest, if_pos hzero, toMagnitude?_zero, magnitude_eq_zero hzero]
  · rw [shortest, if_neg hzero, toMagnitude?_stripZeros]
    cases hfind : (List.range 17).findSome? fun n => withDigits? x (n + 1) with
    | none => exact toMagnitude?_exact hzero
    | some d =>
        obtain ⟨n, _, hn⟩ := List.exists_of_findSome?_eq_some hfind
        exact toMagnitude?_of_withDigits? hn

/-! ## Texts of decimals -/

/-- A decimal as it is written without exponent: digits, or digits around a point. -/
inductive Written : List Char → Decimal → Prop where
  | whole {ds : List Char} (hne : ds ≠ []) (hds : ∀ c ∈ ds, Text.isDigit c = true) :
      Written ds ⟨digitsValue ds, 0⟩
  | fraction {ds fs : List Char} (hne : ds ≠ []) (hds : ∀ c ∈ ds, Text.isDigit c = true)
      (hfne : fs ≠ []) (hfs : ∀ c ∈ fs, Text.isDigit c = true) :
      Written (ds ++ '.' :: fs) ⟨digitsValue (ds ++ fs), -fs.length⟩

theorem Written.digit_first {cs : List Char} {d : Decimal} (h : Written cs d) :
    ∃ c rest, cs = c :: rest ∧ Text.isDigit c = true := by
  cases h with
  | whole hne hds =>
      obtain ⟨c, rest, rfl⟩ := List.exists_cons_of_ne_nil hne
      exact ⟨c, rest, rfl, hds c (List.mem_cons_self ..)⟩
  | fraction hne hds _ _ =>
      obtain ⟨c, rest, rfl⟩ := List.exists_cons_of_ne_nil hne
      exact ⟨c, _, rfl, hds c (List.mem_cons_self ..)⟩

theorem spanDigits_append {ds rest : List Char} (hds : ∀ c ∈ ds, Text.isDigit c = true)
    (hrest : ∀ c ∈ rest.head?, Text.isDigit c = false) : spanDigits (ds ++ rest) = (ds, rest) := by
  rw [spanDigits, Text.takeWhile_append_stop hrest, Text.dropWhile_append_stop hrest,
    List.takeWhile_eq_self_iff.mpr hds, List.dropWhile_eq_nil_iff.mpr hds, List.nil_append]

theorem spanDigits_self {ds : List Char} (hds : ∀ c ∈ ds, Text.isDigit c = true) :
    spanDigits ds = (ds, []) := by
  have hspan : spanDigits (ds ++ []) = (ds, []) := spanDigits_append hds (by simp)
  rwa [List.append_nil] at hspan

theorem read?_of_written {cs : List Char} {d : Decimal} (h : Written cs d) : read? cs = some d := by
  cases h with
  | whole hne hds =>
      have hempty : cs.isEmpty = false := by simpa using hne
      simp only [read?, spanDigits_self hds, spanFraction, hempty, Bool.false_and, readExponent?,
        List.append_nil]
      rfl
  | @fraction ds fs hne hds hfne hfs =>
      have hspan : spanDigits (ds ++ '.' :: fs) = (ds, '.' :: fs) :=
        spanDigits_append hds (by simp [Text.isDigit])
      have hempty : ds.isEmpty = false := by simpa using hne
      simp only [read?, hspan, spanFraction, spanDigits_self hfs, hempty, Bool.false_and,
        readExponent?]
      rw [if_neg Bool.false_ne_true]
      simp

/-! ## Numbers written without exponent -/

theorem digitsValue_toDigits (n : Nat) : digitsValue (Nat.toDigits 10 n) = n :=
  Nat.ofDigitChars_ten_toDigits

theorem digitsValue_append_zeros (n k : Nat) :
    digitsValue (Nat.toDigits 10 n ++ List.replicate k '0') = n * 10 ^ k := by
  rw [digitsValue, Nat.ofDigitChars_append, Nat.ofDigitChars_replicate_zero,
    Nat.ofDigitChars_ten_toDigits, Nat.mul_comm]

theorem digitsValue_zeros_append (k n : Nat) :
    digitsValue (List.replicate k '0' ++ Nat.toDigits 10 n) = n := by
  rw [digitsValue, Nat.ofDigitChars_append, Nat.ofDigitChars_replicate_zero, Nat.mul_zero,
    Nat.ofDigitChars_ten_toDigits]

theorem isDigit_replicate_zero (k : Nat) : ∀ c ∈ List.replicate k '0', Text.isDigit c = true := by
  intro c hc
  rw [List.eq_of_mem_replicate hc]
  decide

theorem exists_written_of_nonneg {d : Decimal} (he : 0 ≤ d.exponent) :
    ∃ d', Written d.positional d' ∧ d'.toMagnitude? = d.toMagnitude? := by
  have hdigits := Text.isDigit_toDigits (n := d.digits)
  have hne : Nat.toDigits 10 d.digits ≠ [] := Nat.toDigits_ne_nil
  by_cases hzero : d.digits = 0
  · refine ⟨⟨digitsValue (Nat.toDigits 10 d.digits), 0⟩, ?_, ?_⟩
    · rw [positional, if_pos he, if_pos hzero]
      exact .whole hne hdigits
    · rw [digitsValue_toDigits, hzero, toMagnitude?_zero, toMagnitude?, if_pos (Or.inl hzero)]
  · refine ⟨⟨digitsValue (Nat.toDigits 10 d.digits ++
      List.replicate d.exponent.toNat '0'), 0⟩, ?_, ?_⟩
    · rw [positional, if_pos he, if_neg hzero]
      refine .whole (by simp [hne]) fun c hc => ?_
      exact (List.mem_append.mp hc).elim (hdigits c) (isDigit_replicate_zero _ c)
    · have hexponent : (0 : Int) + d.exponent.toNat = d.exponent := by omega
      rw [digitsValue_append_zeros, toMagnitude?_mul_pow, hexponent]

/-- A point before the last places of digits that are more than the places. -/
theorem written_fraction {ds : List Char} {places : Nat}
    (hds : ∀ c ∈ ds, Text.isDigit c = true) (hplaces : 0 < places) (hlength : places < ds.length) :
    Written (ds.take (ds.length - places) ++ '.' :: ds.drop (ds.length - places))
      ⟨digitsValue ds, -places⟩ := by
  have hdrop : (ds.drop (ds.length - places)).length = places := by
    rw [List.length_drop]
    omega
  have htake : 0 < (ds.take (ds.length - places)).length := by
    rw [List.length_take]
    omega
  have hbehind : 0 < (ds.drop (ds.length - places)).length := hplaces.trans_eq hdrop.symm
  have hwritten := Written.fraction (List.ne_nil_of_length_pos htake)
    (fun c hc => hds c (List.mem_of_mem_take hc)) (List.ne_nil_of_length_pos hbehind)
    fun c hc => hds c (List.mem_of_mem_drop hc)
  rwa [List.take_append_drop, hdrop] at hwritten

theorem written_of_neg {d : Decimal} (he : d.exponent < 0) : Written d.positional d := by
  have hexponent : -(((-d.exponent).toNat : Nat) : Int) = d.exponent := by omega
  have hplaces : 0 < (-d.exponent).toNat := by omega
  simp only [positional, if_neg (Int.not_le.mpr he)]
  generalize (-d.exponent).toNat = places at hplaces hexponent
  -- enough zeros stand in front that a digit is left before the point
  have hlength : places < (List.replicate (places + 1 - (Nat.toDigits 10 d.digits).length) '0' ++
      Nat.toDigits 10 d.digits).length := by
    rw [List.length_append, List.length_replicate]
    omega
  have hwritten := written_fraction
    (fun c hc => (List.mem_append.mp hc).elim (isDigit_replicate_zero _ c)
      (Text.isDigit_toDigits c)) hplaces hlength
  rwa [digitsValue_zeros_append, hexponent] at hwritten

/-- What a decimal is written as stands for a decimal of the same magnitude. -/
theorem exists_written_positional (d : Decimal) :
    ∃ d', Written d.positional d' ∧ d'.toMagnitude? = d.toMagnitude? := by
  by_cases he : 0 ≤ d.exponent
  · exact exists_written_of_nonneg he
  · exact ⟨d, written_of_neg (Int.not_le.mp he), rfl⟩

end Decimal

namespace Binary64

/-- The number that a decimal from zero up stands for. -/
def ofDecimal (d : Decimal) : Binary64 :=
  match d.toMagnitude? with
  | some size => .finite false size
  | none => .infinity false

/-- Texts of decimals are read as their decimals: they have no sign and are no word. -/
theorem read?_of_written {s : String} {d : Decimal} (h : Decimal.Written s.toList d) :
    read? s = some (ofDecimal d) := by
  obtain ⟨c, rest, hcs, hc⟩ := h.digit_first
  have hminus : c ≠ '-' := by rintro rfl; cases hc
  have hplus : c ≠ '+' := by rintro rfl; cases hc
  have hlower : c.toLower = c := by
    obtain ⟨_, hmost⟩ := Text.toNat_of_isDigit hc
    refine dif_neg fun hupper => ?_
    have : 65 ≤ c.toNat := UInt32.le_iff_toNat_le.mp hupper.1
    omega
  have hword {w : String} (hw : w.toList.head? ≠ some c) :
      (c :: rest).map Char.toLower ≠ w.toList := by
    intro heq
    rw [List.map_cons, hlower] at heq
    exact hw (by rw [← heq]; rfl)
  have hinf : "inf".toList.head? ≠ some c := by rintro ⟨⟩; cases hc
  have hinfinity : "infinity".toList.head? ≠ some c := by rintro ⟨⟩; cases hc
  have hnan : "nan".toList.head? ≠ some c := by rintro ⟨⟩; cases hc
  have hread := Decimal.read?_of_written h
  rw [hcs] at hread
  unfold read?
  rw [hcs]
  split
  rename_i negative body hsign
  have hbody : false = negative ∧ c :: rest = body := by
    split at hsign <;> simp_all
  obtain ⟨rfl, rfl⟩ := hbody
  simp only [hword hinf, hword hinfinity, hword hnan, or_self, if_false, hread, Option.map_some]
  rfl

/-- A finite number without a sign is read from what it is written as. -/
theorem read?_text (size : Magnitude) :
    read? (text (.finite false size)) = some (.finite false size) := by
  obtain ⟨d, hwritten, hsame⟩ := Decimal.exists_written_positional (Decimal.shortest size)
  have hlist : (text (.finite false size)).toList = (Decimal.shortest size).positional := by
    simp [text]
  rw [← hlist] at hwritten
  rw [read?_of_written hwritten, ofDecimal, hsame, Decimal.toMagnitude?_shortest]

end Binary64

end Waymark
