import Mathlib.Data.List.Induction
import Waymark.Json.Printer

/-!
# Numbers read back

Digits that start with no redundant zero are what their value is written as
(`toDigits_ofDigitChars`), and what a number is written as is read back to it
(`readInt64?_toDigits`). A number with a leading zero is read all the same,
but it is written without the zero: this is the one way in which reading and
writing whole numbers are not inverse.
-/

namespace Waymark.Text

theorem isDigit_eq (c : Char) : isDigit c = c.isDigit := rfl

theorem toNat_of_isDigit {c : Char} (h : isDigit c = true) : 48 ≤ c.toNat ∧ c.toNat ≤ 57 := by
  simp only [isDigit, Bool.and_eq_true, decide_eq_true_eq] at h
  exact ⟨h.1, h.2⟩

theorem digitValue?_of_isDigit {c : Char} (h : isDigit c = true) :
    digitValue? 10 c = some (c.toNat - '0'.toNat) := by
  have hc := toNat_of_isDigit h
  have hlt : c.toNat - '0'.toNat < 10 := by
    change c.toNat - 48 < 10
    omega
  rw [digitValue?, hexValue?, if_pos h, Option.filter_some, if_pos (decide_eq_true hlt)]

theorem readDigits?_eq {cs : List Char} (h : ∀ c ∈ cs, isDigit c = true) (acc : Nat) :
    readDigits? 10 acc cs = some (Nat.ofDigitChars 10 cs acc) := by
  induction cs generalizing acc with
  | nil => rfl
  | cons c cs ih =>
      rw [readDigits?, digitValue?_of_isDigit (h c (List.mem_cons_self ..)),
        Nat.ofDigitChars_cons, Nat.mul_comm 10 acc]
      exact ih (fun d hd => h d (List.mem_cons_of_mem _ hd)) _

theorem readInt64?_digits {cs : List Char} (hne : cs ≠ []) (h : ∀ c ∈ cs, isDigit c = true) :
    readInt64? (String.ofList cs) =
      if Nat.ofDigitChars 10 cs 0 ≤ 9223372036854775807 then
        some (Int.ofNat (Nat.ofDigitChars 10 cs 0)) else none := by
  cases cs with
  | nil => exact absurd rfl hne
  | cons c cs =>
      have hc := h c (List.mem_cons_self ..)
      have hplus : c ≠ '+' := by rintro rfl; cases hc
      have hminus : c ≠ '-' := by rintro rfl; cases hc
      have hread : readSigned? int64Min int64Max (c :: cs) =
          ((readDigitRun? 10 (c :: cs)).map Int.ofNat).filter
            fun n => int64Min ≤ n && n ≤ int64Max := by
        unfold readSigned?
        split <;> simp_all
      rw [readInt64?, String.toList_ofList, hread, readDigitRun?, readDigits?_eq h]
      · generalize Nat.ofDigitChars 10 (c :: cs) 0 = n
        have hlow : int64Min ≤ Int.ofNat n := by
          simp only [int64Min, Int.ofNat_eq_natCast]
          omega
        have hhigh : Int.ofNat n ≤ int64Max ↔ n ≤ 9223372036854775807 := by
          simp only [int64Max, Int.ofNat_eq_natCast]
          omega
        have hfits : (decide (int64Min ≤ Int.ofNat n) && decide (Int.ofNat n ≤ int64Max)) =
            decide (n ≤ 9223372036854775807) := by
          rw [decide_eq_true hlow, Bool.true_and, decide_eq_decide]
          exact hhigh
        rw [Option.map_some, Option.filter_some, hfits]
        simp
      · simp

theorem digitChar_sub {c : Char} (h : isDigit c = true) : Nat.digitChar (c.toNat - 48) = c := by
  have hc := toNat_of_isDigit h
  refine Char.toNat_inj.mp ?_
  have hdigit : (Nat.digitChar (c.toNat - 48)).toNat = 48 + (c.toNat - 48) :=
    Nat.toNat_digitChar_of_lt_ten (by omega)
  omega

theorem ofDigitChars_pos {cs : List Char} (h : ∀ c ∈ cs, isDigit c = true) (hne : cs ≠ [])
    (hlead : cs.head? ≠ some '0') : 0 < Nat.ofDigitChars 10 cs 0 := by
  cases cs with
  | nil => exact absurd rfl hne
  | cons c cs =>
      have hc := toNat_of_isDigit (h c (List.mem_cons_self ..))
      have hzero : c.toNat ≠ 48 := by
        intro heq
        have : c = '0' := Char.toNat_inj.mp heq
        exact hlead (by rw [this]; rfl)
      rw [Nat.ofDigitChars_cons, Nat.ofDigitChars_eq_ofDigitChars_zero]
      have hpos : 0 < 10 * 0 + (c.toNat - '0'.toNat) := by
        change 0 < 10 * 0 + (c.toNat - 48)
        omega
      exact Nat.add_pos_left (Nat.mul_pos (Nat.pow_pos (by omega)) hpos) _

/-- Digits without a redundant zero in front are how their value is written. -/
theorem toDigits_ofDigitChars : ∀ {cs : List Char}, cs ≠ [] → (∀ c ∈ cs, isDigit c = true) →
    cs = ['0'] ∨ cs.head? ≠ some '0' → Nat.toDigits 10 (Nat.ofDigitChars 10 cs 0) = cs := by
  intro cs
  -- the last digit is split off, as the writer does
  induction cs using List.reverseRecOn with
  | nil => intro hne; exact absurd rfl hne
  | append_singleton cs c ih =>
      intro _ hd hlead
      have hc : isDigit c = true := hd c (by simp)
      have hcn := toNat_of_isDigit hc
      have hval : Nat.ofDigitChars 10 (cs ++ [c]) 0 =
          10 * Nat.ofDigitChars 10 cs 0 + (c.toNat - 48) := by
        rw [Nat.ofDigitChars_append, Nat.ofDigitChars_cons]
        rfl
      by_cases hcs : cs = []
      · subst hcs
        rw [hval, Nat.ofDigitChars_nil, Nat.toDigits_of_lt_base (by omega)]
        simp [digitChar_sub hc]
      · have hd' : ∀ d ∈ cs, isDigit d = true := fun d hin => hd d (by simp [hin])
        have hlead' : cs.head? ≠ some '0' := by
          rcases hlead with heq | hne
          · have hlen := congrArg List.length heq
            have hpos := List.length_pos_iff.mpr hcs
            simp only [List.length_append, List.length_cons, List.length_nil] at hlen
            omega
          · obtain ⟨d, ds, rfl⟩ := List.exists_cons_of_ne_nil hcs
            exact hne
        have hpos := ofDigitChars_pos hd' hcs hlead'
        rw [hval, Nat.toDigits_of_base_le (by omega) (by omega)]
        have hdiv : (10 * Nat.ofDigitChars 10 cs 0 + (c.toNat - 48)) / 10 =
            Nat.ofDigitChars 10 cs 0 := by omega
        have hmod : (10 * Nat.ofDigitChars 10 cs 0 + (c.toNat - 48)) % 10 = c.toNat - 48 := by
          omega
        rw [hdiv, hmod, ih hcs hd' (Or.inr hlead'), digitChar_sub hc]

theorem isDigit_toDigits {n : Nat} : ∀ c ∈ Nat.toDigits 10 n, isDigit c = true :=
  fun c hc => isDigit_eq c ▸ Nat.isDigit_of_mem_toDigits (by omega) (by omega) hc

theorem readInt64?_toDigits {n : Nat} (h : n ≤ 9223372036854775807) :
    readInt64? (String.ofList (Nat.toDigits 10 n)) = some (Int.ofNat n) := by
  rw [readInt64?_digits Nat.toDigits_ne_nil isDigit_toDigits, Nat.ofDigitChars_ten_toDigits,
    if_pos h]

theorem readDigitRun?_toDigits (n : Nat) : readDigitRun? 10 (Nat.toDigits 10 n) = some n := by
  rw [readDigitRun?, readDigits?_eq isDigit_toDigits, Nat.ofDigitChars_ten_toDigits]
  exact fun h => Nat.toDigits_ne_nil h

/-- A number of 64 bits is read from what it is written as. -/
theorem readInt64?_renderInt {n : Int} (hlow : int64Min ≤ n) (hhigh : n ≤ int64Max) :
    readInt64? (String.ofList (Json.renderInt n)) = some n := by
  have hrun := readDigitRun?_toDigits n.natAbs
  have hfits : (decide (int64Min ≤ n) && decide (n ≤ int64Max)) = true := by
    rw [decide_eq_true hlow, decide_eq_true hhigh]
    rfl
  by_cases hneg : n < 0
  · have habs : -Int.ofNat n.natAbs = n := by
      rw [Int.ofNat_eq_natCast]
      omega
    rw [readInt64?, String.toList_ofList, Json.renderInt, if_pos hneg, List.singleton_append,
      readSigned?, hrun, Option.map_some, habs, Option.filter_some, if_pos hfits]
  · obtain ⟨k, rfl⟩ := Int.eq_ofNat_of_zero_le (Int.not_lt.mp hneg)
    have hle : k ≤ 9223372036854775807 := by
      simp only [int64Max] at hhigh
      omega
    rw [Json.renderInt, if_neg hneg, List.nil_append]
    exact readInt64?_toDigits hle

theorem isDigit_of_readDigits? {cs : List Char} {acc n : Nat}
    (h : readDigits? 10 acc cs = some n) : ∀ c ∈ cs, isDigit c = true := by
  induction cs generalizing acc with
  | nil => simp
  | cons c cs ih =>
      obtain ⟨d, hd, h⟩ := Option.bind_eq_some_iff.mp h
      refine List.forall_mem_cons.mpr ⟨?_, ih h⟩
      obtain ⟨hd, hlt⟩ := Option.filter_eq_some_iff.mp hd
      by_contra hno
      rw [hexValue?, if_neg hno] at hd
      have hten : 10 ≤ d := by
        split at hd
        · cases hd
          omega
        · split at hd
          · cases hd
            omega
          · cases hd
      have : d < 10 := by simpa using hlt
      omega

theorem isDigit_of_readInt64? {s : String} {n : Int} (h : readInt64? s = some n) :
    ∀ c ∈ s.toList.tail, isDigit c = true := by
  have hrun {cs : List Char} {k : Nat} (h : readDigitRun? 10 cs = some k) :
      ∀ c ∈ cs, isDigit c = true := by
    cases cs with
    | nil => simp
    | cons c cs => exact isDigit_of_readDigits? h
  unfold readInt64? readSigned? at h
  obtain ⟨h, _⟩ := Option.filter_eq_some_iff.mp h
  split at h
  · rename_i rest hcs
    obtain ⟨k, hk, _⟩ := Option.map_eq_some_iff.mp h
    rw [hcs]
    exact hrun hk
  · rename_i rest hcs
    obtain ⟨k, hk, _⟩ := Option.map_eq_some_iff.mp h
    rw [hcs]
    exact hrun hk
  · obtain ⟨k, hk, _⟩ := Option.map_eq_some_iff.mp h
    exact fun c hc => hrun hk c (List.mem_of_mem_tail hc)

end Waymark.Text
