import Mathlib.Data.List.Basic
import Mathlib.Data.List.TakeWhile
import Waymark.Converter
import Waymark.Pattern.Reach
import Waymark.Pattern.Reader

/-!
# The language of a pattern

`Pattern.lengths` lists what a pattern can take from the front of a text, and
is given the whole text to do so. The main statement here, `lengths_take`, is
that what lies behind a match has no say in it: cutting the text off after `m`
characters removes the matches that are longer than `m`, keeps the others, and
keeps their order. So a pattern has a *language* (`Accepts`), a length is
listed exactly when it cuts off a text of the language (`mem_lengths_iff`), and
a piece of a template can be judged without its neighbours.

`avoids` is the check that no text of the language has a given character, by
the sets that the pattern is made of.
-/

namespace Waymark

namespace Pattern

def Accepts (p : Pattern) (u : List Char) : Prop := u.length ∈ p.lengths u

/-! ## What lies behind a match -/

theorem run_take (set : CharSet) (cs : List Char) (m : Nat) :
    set.run (cs.take m) = min m (set.run cs) := by
  induction cs generalizing m with
  | nil => simp [CharSet.run]
  | cons c cs ih =>
      cases m with
      | zero => simp [CharSet.run]
      | succ m =>
          simp only [CharSet.run, List.take_succ_cons, List.takeWhile_cons] at ih ⊢
          by_cases hc : set.has c = true
          · simp only [hc, if_true, List.length_cons]
            rw [ih]
            omega
          · simp [hc]

theorem filter_range'_le (least k m : Nat) :
    (List.range' least k).filter (· ≤ m) = List.range' least (min k (m + 1 - least)) := by
  induction k generalizing least with
  | zero => simp
  | succ k ih =>
      rw [List.range'_succ, List.filter_cons, ih]
      by_cases h : least ≤ m
      · have hk : min (k + 1) (m + 1 - least) = min k (m + 1 - (least + 1)) + 1 := by omega
        rw [if_pos (decide_eq_true h), hk, List.range'_succ]
      · have hk : min (k + 1) (m + 1 - least) = 0 := by omega
        have hk' : min k (m + 1 - (least + 1)) = 0 := by omega
        rw [if_neg (by simpa using h), hk, hk']
        rfl

theorem runLengths_take (set : CharSet) (least : Nat) (most : Option Nat) (greedy : Bool)
    (cs : List Char) (m : Nat) :
    runLengths set least most greedy (cs.take m) =
      (runLengths set least most greedy cs).filter (· ≤ m) := by
  have hcut (top : Nat) : List.range' least (min m top + 1 - least) =
      (List.range' least (top + 1 - least)).filter (· ≤ m) := by
    rw [filter_range'_le]
    congr 1
    omega
  unfold runLengths
  rw [run_take]
  cases most with
  | none => cases greedy <;> simp [hcut]
  | some k =>
      have hmin : min k (min m (set.run cs)) = min m (min k (set.run cs)) := by omega
      cases greedy <;> simp [hmin, hcut]

/-- Of the matches behind `n` characters those within `m` leave `m - n` for themselves. -/
theorem filter_map_add_le (n m : Nat) (ns : List Nat) :
    (ns.map (n + ·)).filter (· ≤ m) =
      if n ≤ m then (ns.filter (· ≤ m - n)).map (n + ·) else [] := by
  by_cases hn : n ≤ m
  · rw [if_pos hn, List.filter_map]
    congr 1
    refine List.filter_congr fun k _ => ?_
    simp only [Function.comp, decide_eq_decide]
    omega
  · rw [if_neg hn]
    refine List.filter_eq_nil_iff.mpr fun k hk => ?_
    obtain ⟨j, _, rfl⟩ := List.mem_map.mp hk
    simp only [decide_eq_true_eq]
    omega

/-- Rounds of a repetition that are cut off, given that its body is. -/
theorem repeatedLengths_take {step : List Char → List Nat}
    (hstep : ∀ cs m, step (cs.take m) = (step cs).filter (· ≤ m)) (greedy : Bool) (fuel : Nat) :
    ∀ (least : Nat) (most : Option Nat) (cs : List Char) (m : Nat),
      repeatedLengths step greedy fuel least most (cs.take m) =
        (repeatedLengths step greedy fuel least most cs).filter (· ≤ m) := by
  induction fuel with
  | zero => intro least most cs m; simp only [repeatedLengths]; split <;> simp
  | succ fuel ih =>
      intro least most cs m
      -- one round that takes `n` characters leaves `m - n` of the first `m`
      have hround (n : Nat) : (if n ≤ m then
            if n = 0 then [0] else (repeatedLengths step greedy fuel (least - 1)
              (most.map (· - 1)) ((cs.take m).drop n)).map (n + ·) else []) =
          (if n = 0 then [0] else (repeatedLengths step greedy fuel (least - 1)
              (most.map (· - 1)) (cs.drop n)).map (n + ·)).filter (· ≤ m) := by
        by_cases h0 : n = 0
        · simp [h0]
        · rw [if_neg h0, if_neg h0, filter_map_add_le, List.drop_take, ih]
      have hmore : (step (cs.take m)).flatMap (fun n => if n = 0 then [0] else
            (repeatedLengths step greedy fuel (least - 1) (most.map (· - 1))
              ((cs.take m).drop n)).map (n + ·)) =
          ((step cs).flatMap fun n => if n = 0 then [0] else
            (repeatedLengths step greedy fuel (least - 1) (most.map (· - 1))
              (cs.drop n)).map (n + ·)).filter (· ≤ m) := by
        rw [hstep, List.filter_flatMap]
        induction step cs with
        | nil => rfl
        | cons n ns ihn =>
            rw [List.flatMap_cons, ← ihn, ← hround, List.filter_cons]
            by_cases hn : n ≤ m <;> simp [hn]
      simp only [repeatedLengths, hmore]
      split <;> split <;> (try split) <;> simp

/-- The bound on the rounds makes no difference once it is beyond the text. -/
theorem repeatedLengths_fuel {step : List Char → List Nat}
    (hstep : ∀ cs, ∀ n ∈ step cs, n ≤ cs.length) (greedy : Bool) :
    ∀ (fuel fuel' least : Nat) (most : Option Nat) (cs : List Char),
      cs.length < fuel → cs.length < fuel' →
      repeatedLengths step greedy fuel least most cs =
        repeatedLengths step greedy fuel' least most cs
  | 0, _, _, _, _, h, _ => absurd h (Nat.not_lt_zero _)
  | _, 0, _, _, _, _, h => absurd h (Nat.not_lt_zero _)
  | fuel + 1, fuel' + 1, least, most, cs, h, h' => by
      have hmore : (step cs).flatMap (fun n => if n = 0 then [0] else
            (repeatedLengths step greedy fuel (least - 1) (most.map (· - 1))
              (cs.drop n)).map (n + ·)) =
          (step cs).flatMap fun n => if n = 0 then [0] else
            (repeatedLengths step greedy fuel' (least - 1) (most.map (· - 1))
              (cs.drop n)).map (n + ·) := by
        refine List.flatMap_congr fun n hn => ?_
        by_cases h0 : n = 0
        · simp [h0]
        · have hle := hstep cs n hn
          have hdrop : (cs.drop n).length = cs.length - n := List.length_drop
          rw [if_neg h0, if_neg h0, repeatedLengths_fuel hstep greedy fuel fuel' _ _ _
            (by omega) (by omega)]
      simp only [repeatedLengths, hmore]

theorem rep_lengths_take {body : Pattern} (hbody : ∀ set, body ≠ .char set)
    (ih : ∀ cs m, body.lengths (cs.take m) = (body.lengths cs).filter (· ≤ m))
    (least : Nat) (most : Option Nat) (greedy : Bool) (cs : List Char) (m : Nat) :
    (Pattern.rep body least most greedy).lengths (cs.take m) =
      ((Pattern.rep body least most greedy).lengths cs).filter (· ≤ m) := by
  have heq (cs : List Char) : (Pattern.rep body least most greedy).lengths cs =
      repeatedLengths body.lengths greedy (cs.length + 1) least most cs := by
    cases body with
    | char set => exact absurd rfl (hbody set)
    | empty => rfl
    | seq a b => rfl
    | choice a b => rfl
    | rep b l n g => rfl
  rw [heq, heq, ← repeatedLengths_take ih]
  refine repeatedLengths_fuel (lengths_le body) greedy _ _ _ _ _ (by omega) ?_
  rw [List.length_take]
  omega

theorem lengths_take (p : Pattern) (cs : List Char) (m : Nat) :
    p.lengths (cs.take m) = (p.lengths cs).filter (· ≤ m) := by
  induction p generalizing cs m with
  | empty => simp [lengths]
  | char set =>
      cases cs with
      | nil => simp [lengths]
      | cons c cs =>
          cases m with
          | zero => simp only [List.take_zero, lengths]; split <;> simp
          | succ m => simp only [List.take_succ_cons, lengths]; split <;> simp
  | seq a b iha ihb =>
      simp only [lengths]
      rw [iha, List.filter_flatMap]
      induction a.lengths cs with
      | nil => rfl
      | cons n ns ih =>
          rw [List.flatMap_cons, ← ih, List.filter_cons]
          rw [filter_map_add_le]
          by_cases hn : n ≤ m
          · rw [if_pos (decide_eq_true hn), if_pos hn, List.flatMap_cons, List.drop_take, ihb]
          · rw [if_neg (by simpa using hn), if_neg hn, List.nil_append]
  | choice a b iha ihb => simp only [lengths, iha, ihb, List.filter_append]
  | rep body least most greedy ih =>
      cases body with
      | char set => exact runLengths_take set least most greedy cs m
      | empty => exact rep_lengths_take (by simp) ih least most greedy cs m
      | seq a b => exact rep_lengths_take (by simp) ih least most greedy cs m
      | choice a b => exact rep_lengths_take (by simp) ih least most greedy cs m
      | rep b l n g => exact rep_lengths_take (by simp) ih least most greedy cs m

/-- A pattern takes `n` characters exactly when they are a text of its language. -/
theorem mem_lengths_iff {p : Pattern} {cs : List Char} {n : Nat} :
    n ∈ p.lengths cs ↔ n ≤ cs.length ∧ p.Accepts (cs.take n) := by
  rw [Accepts, lengths_take, List.mem_filter, List.length_take]
  constructor
  · intro h
    have hle := lengths_le p cs n h
    exact ⟨hle, by rwa [Nat.min_eq_left hle], decide_eq_true (Nat.min_le_left n cs.length)⟩
  · rintro ⟨hle, h, _⟩
    rwa [Nat.min_eq_left hle] at h

/-! ## The texts of a pattern -/

theorem accepts_char {set : CharSet} {u : List Char} :
    (Pattern.char set).Accepts u ↔ ∃ c, u = [c] ∧ set.has c = true := by
  cases u with
  | nil => simp [Accepts, lengths]
  | cons c cs =>
      simp only [Accepts, lengths, List.length_cons]
      split <;> simp_all

theorem accepts_seq {a b : Pattern} {u : List Char} :
    (Pattern.seq a b).Accepts u ↔ ∃ v w, u = v ++ w ∧ a.Accepts v ∧ b.Accepts w := by
  rw [Accepts, lengths, List.mem_flatMap]
  constructor
  · rintro ⟨n, hn, h⟩
    obtain ⟨k, hk, hlen⟩ := List.mem_map.mp h
    have hw : (u.drop n).length = k := by
      rw [List.length_drop]
      omega
    refine ⟨u.take n, u.drop n, (List.take_append_drop n u).symm, (mem_lengths_iff.mp hn).2, ?_⟩
    rw [Accepts, hw]
    exact hk
  · rintro ⟨v, w, rfl, hv, hw⟩
    refine ⟨v.length, mem_lengths_iff.mpr ⟨by simp, by simpa using hv⟩, ?_⟩
    rw [List.drop_left, List.length_append]
    exact List.mem_map_of_mem hw

theorem run_eq_length {set : CharSet} {u : List Char} :
    u.length ≤ set.run u ↔ ∀ c ∈ u, set.has c = true := by
  rw [CharSet.run]
  constructor
  · intro h c hc
    have heq := (List.takeWhile_prefix set.has).eq_of_length_le h
    rw [← heq] at hc
    exact List.mem_takeWhile_imp hc
  · intro h
    rw [List.takeWhile_eq_self_iff.mpr h]

theorem accepts_rep_char {set : CharSet} {least : Nat} {most : Option Nat} {greedy : Bool}
    {u : List Char} : (Pattern.rep (.char set) least most greedy).Accepts u ↔
      least ≤ u.length ∧ (∀ c ∈ u, set.has c = true) ∧ ∀ m ∈ most, u.length ≤ m := by
  rw [Accepts, lengths, mem_runLengths, run_eq_length]

theorem accepts_one {c : Char} {u : List Char} :
    (Pattern.char (.one c)).Accepts u ↔ u = [c] := by
  have hone (d : Char) : (CharSet.one c).has d = true ↔ d = c := by
    simp only [CharSet.has, CharSet.one, List.any_cons, List.any_nil, Bool.or_false,
      Bool.bne_false, Bool.and_eq_true, decide_eq_true_eq]
    exact ⟨fun h => Char.le_antisymm h.2 h.1, by rintro rfl; exact ⟨Char.le_refl _, Char.le_refl _⟩⟩
  rw [accepts_char]
  constructor
  · rintro ⟨d, rfl, hd⟩
    rw [(hone d).mp hd]
  · rintro rfl
    exact ⟨c, rfl, (hone c).mpr rfl⟩

/-- A text is taken as a whole if what is left of it may be nothing. -/
theorem accepts_iff_leads {p : Pattern} {u : List Char} :
    p.Accepts u ↔ p.leads List.isEmpty u = true := by
  rw [Accepts, leads, List.any_eq_true]
  constructor
  · intro h
    exact ⟨u.length, h, by simp⟩
  · rintro ⟨n, hn, hempty⟩
    have hle := lengths_le p u n hn
    rw [List.isEmpty_iff, List.drop_eq_nil_iff] at hempty
    rwa [Nat.le_antisymm hempty hle]

theorem accepts_optional {body : Pattern} (hbody : ∀ set, body ≠ .char set) {greedy : Bool}
    {u : List Char} : (Pattern.rep body 0 (some 1) greedy).Accepts u ↔
      u = [] ∨ body.Accepts u := by
  rw [accepts_iff_leads, leads_rep_one body hbody, Bool.or_eq_true, List.isEmpty_iff,
    accepts_iff_leads]

/-! ## Characters that a pattern never takes -/

def avoids (c : Char) : Pattern → Bool
  | .empty => true
  | .char set => !set.has c
  | .seq a b => a.avoids c && b.avoids c
  | .choice a b => a.avoids c && b.avoids c
  | .rep body _ _ _ => body.avoids c

theorem not_mem_take_of_repeatedLengths {step : List Char → List Nat} {c : Char}
    (hstep : ∀ cs, ∀ n ∈ step cs, c ∉ cs.take n) (greedy : Bool) (fuel : Nat) :
    ∀ (least : Nat) (most : Option Nat) (cs : List Char),
      ∀ n ∈ repeatedLengths step greedy fuel least most cs, c ∉ cs.take n := by
  induction fuel with
  | zero => intro least most cs n h; simp only [repeatedLengths] at h; split at h <;> simp_all
  | succ fuel ih =>
      intro least most cs
      have hmore : ∀ n ∈ (if most = some 0 then [] else (step cs).flatMap fun n =>
          if n = 0 then [0] else (repeatedLengths step greedy fuel (least - 1)
            (most.map (· - 1)) (cs.drop n)).map (n + ·)), c ∉ cs.take n := by
        intro n h
        split at h
        · simp at h
        · obtain ⟨k, hk, hn⟩ := List.mem_flatMap.mp h
          split at hn
          · simp_all
          · obtain ⟨j, hj, rfl⟩ := List.mem_map.mp hn
            rw [List.take_add, List.mem_append, not_or]
            exact ⟨hstep cs k hk, ih _ _ _ j hj⟩
      intro n h
      simp only [repeatedLengths] at h
      split at h
      · split at h
        · rcases List.mem_append.mp h with h | h
          · exact hmore n h
          · simp_all
        · rcases List.mem_cons.mp h with h | h
          · simp_all
          · exact hmore n h
      · exact hmore n h

theorem has_of_mem_take_run {set : CharSet} {cs : List Char} {n : Nat} (hn : n ≤ set.run cs)
    {c : Char} (hc : c ∈ cs.take n) : set.has c = true := by
  have htake : cs.take n = (cs.takeWhile set.has).take n := by
    have hcut := List.takeWhile_append_dropWhile (p := set.has) (l := cs)
    conv_lhs => rw [← hcut]
    exact List.take_append_of_le_length hn
  rw [htake] at hc
  exact List.mem_takeWhile_imp (List.mem_of_mem_take hc)

theorem not_mem_take_of_avoids {p : Pattern} {c : Char} (h : p.avoids c = true) (cs : List Char) :
    ∀ n ∈ p.lengths cs, c ∉ cs.take n := by
  induction p generalizing cs with
  | empty => simp [lengths]
  | char set =>
      cases cs with
      | nil => simp [lengths]
      | cons d cs =>
          intro n hn
          simp only [lengths] at hn
          split at hn
          · rename_i hd
            obtain rfl := List.mem_singleton.mp hn
            simp only [avoids, Bool.not_eq_true'] at h
            rw [List.take_succ_cons, List.take_zero, List.mem_singleton]
            rintro rfl
            rw [h] at hd
            cases hd
          · simp at hn
  | seq a b iha ihb =>
      rw [avoids, Bool.and_eq_true] at h
      intro n hn
      obtain ⟨k, hk, hn⟩ := List.mem_flatMap.mp hn
      obtain ⟨j, hj, rfl⟩ := List.mem_map.mp hn
      rw [List.take_add, List.mem_append, not_or]
      exact ⟨iha h.1 cs k hk, ihb h.2 _ j hj⟩
  | choice a b iha ihb =>
      rw [avoids, Bool.and_eq_true] at h
      intro n hn
      rcases List.mem_append.mp hn with hn | hn
      · exact iha h.1 cs n hn
      · exact ihb h.2 cs n hn
  | rep body least most greedy ih =>
      cases body with
      | char set =>
          intro n hn hc
          have hhas := has_of_mem_take_run (mem_runLengths.mp hn).2.1 hc
          simp only [avoids, Bool.not_eq_true'] at h
          rw [h] at hhas
          cases hhas
      | empty => exact not_mem_take_of_repeatedLengths (ih h) greedy _ least most cs
      | seq a b => exact not_mem_take_of_repeatedLengths (ih h) greedy _ least most cs
      | choice a b => exact not_mem_take_of_repeatedLengths (ih h) greedy _ least most cs
      | rep b l n g => exact not_mem_take_of_repeatedLengths (ih h) greedy _ least most cs

theorem not_mem_of_avoids {p : Pattern} {c : Char} (h : p.avoids c = true) {u : List Char}
    (hu : p.Accepts u) : c ∉ u := by
  have := not_mem_take_of_avoids h u u.length hu
  rwa [List.take_length] at this

end Pattern

end Waymark
