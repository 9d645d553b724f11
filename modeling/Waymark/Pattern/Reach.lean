import Waymark.Pattern.Basic

/-!
# What a pattern can reach

Trying all matches of a pattern, and for each of them all matches of what comes
after it, takes time that grows with every further pattern. So it is found
first where a match can succeed at all. `goal` says of every place of a text,
from the front to its end, whether what comes after the pattern can be matched
there, and `reach` says of every place whether the pattern can be matched there
up to such a place. One pass from the end of the text is enough for a run of
characters.

The main statement, `reach_everywhere`, is that this is what trying all matches
would find.
-/

namespace Waymark

namespace Pattern

/-! ## Places -/

/-- Where the text that follows satisfies `f`. -/
def everywhere (f : List Char → Bool) : List Char → List Bool
  | [] => [f []]
  | c :: cs => f (c :: cs) :: everywhere f cs

/-- Whether a match of the pattern leaves a text that satisfies `f`. -/
def leads (p : Pattern) (f : List Char → Bool) (cs : List Char) : Bool :=
  (p.lengths cs).any fun n => f (cs.drop n)

/-! ## Runs -/

/-- The places where one character of the set leads to the goal. -/
def stepBack (set : CharSet) (cs : List Char) (goal : List Bool) : List Bool :=
  List.zipWith (fun c g => set.has c && g) cs goal.tail ++ [false]

/-- The places where any number of characters of the set leads to the goal. -/
def runBack (set : CharSet) (cs : List Char) (goal : List Bool) : List Bool :=
  (cs.zip goal).foldr
    (fun (c, g) later => (g || (set.has c && later.headD false)) :: later) [goal.getLastD false]

/-- The places where between `least` and `most` characters of the set lead to the goal. -/
def reachRun (set : CharSet) (cs : List Char) (goal : List Bool) :
    (least : Nat) → (most : Option Nat) → List Bool
  | 0, none => runBack set cs goal
  | 0, some 0 => goal
  | 0, some (most + 1) =>
    List.zipWith (· || ·) goal (stepBack set cs (reachRun set cs goal 0 (some most)))
  | least + 1, none => stepBack set cs (reachRun set cs goal least none)
  | _ + 1, some 0 => everywhere (fun _ => false) cs
  | least + 1, some (most + 1) => stepBack set cs (reachRun set cs goal least (some most))

/-! ## Patterns -/

/-- The places where one of the lengths leads to the goal. -/
def reachAny (lengths : List Char → List Nat) : List Char → List Bool → List Bool
  | [], goal => [(lengths []).any fun n => goal.getD n false]
  | c :: cs, goal =>
    ((lengths (c :: cs)).any fun n => goal.getD n false) :: reachAny lengths cs goal.tail

/-- The places where the pattern leads to the goal. -/
def reach : Pattern → List Char → List Bool → List Bool
  | .empty, _, goal => goal
  | .char set, cs, goal => stepBack set cs goal
  | .seq a b, cs, goal => a.reach cs (b.reach cs goal)
  | .choice a b, cs, goal => List.zipWith (· || ·) (a.reach cs goal) (b.reach cs goal)
  | .rep (.char set) least most _, cs, goal => reachRun set cs goal least most
  | .rep body 0 (some 1) _, cs, goal => List.zipWith (· || ·) goal (body.reach cs goal)
  | .rep body least most greedy, cs, goal =>
    reachAny (Pattern.rep body least most greedy).lengths cs goal

/-! ## Reaching is trying all matches -/

theorem headD_everywhere (f : List Char → Bool) (cs : List Char) :
    (everywhere f cs).headD false = f cs := by
  cases cs <;> rfl

theorem tail_everywhere (f : List Char → Bool) (c : Char) (cs : List Char) :
    (everywhere f (c :: cs)).tail = everywhere f cs := rfl

theorem getLastD_everywhere (f : List Char → Bool) (cs : List Char) (b : Bool) :
    (everywhere f cs).getLastD b = f [] := by
  induction cs generalizing b with
  | nil => rfl
  | cons c cs ih => rw [everywhere, List.getLastD_cons, ih]

theorem getD_everywhere (f : List Char → Bool) (cs : List Char) (n : Nat) (h : n ≤ cs.length) :
    (everywhere f cs).getD n false = f (cs.drop n) := by
  induction cs generalizing n with
  | nil => simp_all [everywhere]
  | cons c cs ih =>
    cases n with
    | zero => rfl
    | succ n => simpa [everywhere] using ih n (by simpa using h)

theorem everywhere_congr {f g : List Char → Bool} (h : ∀ cs, f cs = g cs) (cs : List Char) :
    everywhere f cs = everywhere g cs := by
  rw [funext h]

theorem zipWith_everywhere (f g : List Char → Bool) (cs : List Char) :
    List.zipWith (· || ·) (everywhere f cs) (everywhere g cs) =
      everywhere (fun cs => f cs || g cs) cs := by
  induction cs with
  | nil => rfl
  | cons c cs ih => simp only [everywhere, List.zipWith_cons_cons, ih]

/-- Whether one character of the set leaves a text that satisfies `f`. -/
def stepLeads (set : CharSet) (f : List Char → Bool) : List Char → Bool
  | [] => false
  | c :: cs => set.has c && f cs

/-- Whether between `least` and `most` characters of the set leave a text that satisfies `f`. -/
def runLeads (set : CharSet) (least : Nat) (most : Option Nat) (f : List Char → Bool)
    (cs : List Char) : Bool :=
  (runLengths set least most true cs).any fun n => f (cs.drop n)

theorem stepBack_everywhere (set : CharSet) (f : List Char → Bool) (cs : List Char) :
    stepBack set cs (everywhere f cs) = everywhere (stepLeads set f) cs := by
  induction cs with
  | nil => rfl
  | cons c cs ih =>
    have hcons : everywhere (stepLeads set f) (c :: cs) =
        (set.has c && f cs) :: everywhere (stepLeads set f) cs := rfl
    rw [hcons, ← ih, stepBack, stepBack, tail_everywhere]
    cases cs <;> simp [everywhere]

theorem runLeads_iff (set : CharSet) (least : Nat) (most : Option Nat) (f : List Char → Bool)
    (cs : List Char) :
    runLeads set least most f cs = true ↔
      ∃ n, least ≤ n ∧ n ≤ set.run cs ∧ (∀ m ∈ most, n ≤ m) ∧ f (cs.drop n) = true := by
  simp only [runLeads, List.any_eq_true, mem_runLengths, and_assoc]

theorem run_cons (set : CharSet) (c : Char) (cs : List Char) :
    set.run (c :: cs) = if set.has c then set.run cs + 1 else 0 := by
  simp only [CharSet.run, List.takeWhile_cons]
  split <;> simp

/-- A run that has to go on takes a character first. -/
theorem runLeads_succ (set : CharSet) (least : Nat) (most : Option Nat)
    (f : List Char → Bool) (cs : List Char) (h : most ≠ some 0) :
    runLeads set (least + 1) most f cs =
      stepLeads set (runLeads set least (most.map (· - 1)) f) cs := by
  rw [Bool.eq_iff_iff, runLeads_iff]
  cases cs with
  | nil =>
    simp only [stepLeads, CharSet.run, List.takeWhile_nil, List.length_nil]
    exact ⟨fun ⟨n, hl, hr, _⟩ => absurd hr (by omega), fun h => absurd h (by simp)⟩
  | cons c cs =>
    simp only [stepLeads, Bool.and_eq_true, runLeads_iff, run_cons]
    constructor
    · rintro ⟨n, hl, hr, hm, hf⟩
      obtain ⟨n, rfl⟩ : ∃ k, n = k + 1 := ⟨n - 1, by omega⟩
      split at hr
      · rename_i hc
        refine ⟨hc, n, by omega, by omega, ?_, hf⟩
        intro m hin
        obtain ⟨k, hk, rfl⟩ := Option.map_eq_some_iff.mp hin
        have := hm k hk
        omega
      · omega
    · rintro ⟨hc, n, hl, hr, hm, hf⟩
      refine ⟨n + 1, by omega, by simp [hc, hr], ?_, hf⟩
      intro m hin
      have := hm (m - 1) (Option.map_eq_some_iff.mpr ⟨m, hin, rfl⟩)
      have : m ≠ 0 := fun h0 => h (h0 ▸ hin)
      omega

/-- A run that may go on stops or takes a character first. -/
theorem runLeads_zero (set : CharSet) (most : Option Nat) (f : List Char → Bool)
    (cs : List Char) (h : most ≠ some 0) :
    runLeads set 0 most f cs =
      (f cs || stepLeads set (runLeads set 0 (most.map (· - 1)) f) cs) := by
  rw [← runLeads_succ set 0 most f cs h, Bool.eq_iff_iff, Bool.or_eq_true, runLeads_iff,
    runLeads_iff]
  constructor
  · rintro ⟨n, _, hr, hm, hf⟩
    cases n with
    | zero => exact Or.inl (by simpa using hf)
    | succ n => exact Or.inr ⟨n + 1, by omega, hr, hm, hf⟩
  · rintro (hf | ⟨n, _, hr, hm, hf⟩)
    · exact ⟨0, by omega, by omega, fun _ _ => by omega, by simpa using hf⟩
    · exact ⟨n, by omega, hr, hm, hf⟩

theorem runLeads_stop (set : CharSet) (f : List Char → Bool) (cs : List Char) :
    runLeads set 0 (some 0) f cs = f cs := by
  rw [Bool.eq_iff_iff, runLeads_iff]
  constructor
  · rintro ⟨n, _, _, hm, hf⟩
    obtain rfl : n = 0 := Nat.le_zero.mp (hm 0 rfl)
    simpa using hf
  · intro hf
    exact ⟨0, by omega, by omega, fun _ _ => by omega, by simpa using hf⟩

theorem runLeads_none (set : CharSet) (least : Nat) (f : List Char → Bool) (cs : List Char) :
    runLeads set (least + 1) (some 0) f cs = false := by
  rw [Bool.eq_false_iff]
  intro h
  obtain ⟨n, hl, _, hm, _⟩ := (runLeads_iff ..).mp h
  have := hm 0 rfl
  omega

theorem runBack_everywhere (set : CharSet) (f : List Char → Bool) (cs : List Char) :
    runBack set cs (everywhere f cs) = everywhere (runLeads set 0 none f) cs := by
  induction cs with
  | nil =>
    simp only [runBack, everywhere, List.zip_nil_left, List.foldr_nil, List.getLastD_cons,
      List.getLastD_nil]
    rw [runLeads_zero set none f [] (by simp)]
    simp [stepLeads]
  | cons c cs ih =>
    rw [runBack, getLastD_everywhere] at ih ⊢
    simp only [everywhere, List.zip_cons_cons, List.foldr_cons, ih, headD_everywhere]
    rw [runLeads_zero set none f (c :: cs) (by simp)]
    rfl

theorem reachRun_everywhere (set : CharSet) (f : List Char → Bool) (cs : List Char)
    (least : Nat) (most : Option Nat) :
    reachRun set cs (everywhere f cs) least most = everywhere (runLeads set least most f) cs := by
  fun_induction reachRun set cs (everywhere f cs) least most with
  | case1 => exact runBack_everywhere set f cs
  | case2 => exact everywhere_congr (fun cs => (runLeads_stop set f cs).symm) cs
  | case3 most ih =>
    rw [ih, stepBack_everywhere, zipWith_everywhere]
    exact everywhere_congr
      (fun cs => (runLeads_zero set (some (most + 1)) f cs (by simp)).symm) cs
  | case4 least ih =>
    rw [ih, stepBack_everywhere]
    exact everywhere_congr (fun cs => (runLeads_succ set least none f cs (by simp)).symm) cs
  | case5 least => exact everywhere_congr (fun cs => (runLeads_none set least f cs).symm) cs
  | case6 least most ih =>
    rw [ih, stepBack_everywhere]
    exact everywhere_congr
      (fun cs => (runLeads_succ set least (some (most + 1)) f cs (by simp)).symm) cs

theorem reachAny_everywhere {lengths : List Char → List Nat}
    (hle : ∀ cs, ∀ n ∈ lengths cs, n ≤ cs.length) (f : List Char → Bool) (cs : List Char) :
    reachAny lengths cs (everywhere f cs) =
      everywhere (fun cs => (lengths cs).any fun n => f (cs.drop n)) cs := by
  have hany (cs : List Char) : ((lengths cs).any fun n => (everywhere f cs).getD n false) =
      (lengths cs).any fun n => f (cs.drop n) := by
    rw [Bool.eq_iff_iff, List.any_eq_true, List.any_eq_true]
    constructor <;>
    · rintro ⟨n, hn, hf⟩
      have := getD_everywhere f cs n (hle cs n hn)
      exact ⟨n, hn, by simp_all⟩
  induction cs with
  | nil => rw [reachAny, hany]; rfl
  | cons c cs ih => rw [reachAny, hany, tail_everywhere, ih]; rfl

theorem leads_rep_char (set : CharSet) (least : Nat) (most : Option Nat) (greedy : Bool)
    (f : List Char → Bool) (cs : List Char) :
    (Pattern.rep (.char set) least most greedy).leads f cs = runLeads set least most f cs := by
  rw [Bool.eq_iff_iff, runLeads_iff]
  simp only [leads, lengths, List.any_eq_true, mem_runLengths, and_assoc]

/-- At most one round of a step leads to where nothing or the step leads. -/
theorem any_repeatedLengths_one (step : List Char → List Nat) (greedy : Bool)
    (f : List Char → Bool) (cs : List Char) :
    ((repeatedLengths step greedy (cs.length + 1) 0 (some 1) cs).any fun n => f (cs.drop n)) =
      (f cs || (step cs).any fun n => f (cs.drop n)) := by
  have hmore : ((step cs).flatMap fun n =>
      if n = 0 then [0] else
        (repeatedLengths step greedy cs.length 0 (some 0) (cs.drop n)).map (n + ·)) = step cs := by
    have hone (n : Nat) : (if n = 0 then [0] else
        (repeatedLengths step greedy cs.length 0 (some 0) (cs.drop n)).map (n + ·)) = [n] := by
      split
      · simp_all
      · cases cs.length <;> cases greedy <;> simp [repeatedLengths]
    simp [hone]
  simp only [repeatedLengths, Option.map_some, Nat.sub_self, Nat.zero_sub]
  cases greedy <;> simp_all [Bool.or_comm]

theorem leads_rep_one (body : Pattern) (hbody : ∀ set, body = .char set → False) (greedy : Bool)
    (f : List Char → Bool) (cs : List Char) :
    (Pattern.rep body 0 (some 1) greedy).leads f cs = (f cs || body.leads f cs) := by
  rw [leads, lengths, any_repeatedLengths_one, leads]
  exact hbody

theorem reach_everywhere (p : Pattern) (f : List Char → Bool) (cs : List Char) :
    p.reach cs (everywhere f cs) = everywhere (p.leads f) cs := by
  induction p generalizing f with
  | empty => exact everywhere_congr (fun cs => by simp [leads, lengths]) cs
  | char set =>
    rw [reach, stepBack_everywhere]
    refine everywhere_congr (fun cs => ?_) cs
    cases cs with
    | nil => rfl
    | cons c cs => by_cases h : set.has c <;> simp [stepLeads, leads, lengths, h]
  | seq a b iha ihb =>
    rw [reach, ihb, iha]
    refine everywhere_congr (fun cs => ?_) cs
    simp [leads, lengths, List.any_flatMap, Function.comp_def]
  | choice a b iha ihb =>
    rw [reach, iha, ihb, zipWith_everywhere]
    exact everywhere_congr (fun cs => by simp [leads, lengths]) cs
  | rep body least most greedy ih =>
    unfold reach
    split <;> rename_i heq
    case h_5 set _ _ _ =>
      cases heq
      rw [reachRun_everywhere]
      exact everywhere_congr (fun cs => (leads_rep_char set least most greedy f cs).symm) _
    case h_6 hbody =>
      cases heq
      rw [ih, zipWith_everywhere]
      exact everywhere_congr (fun cs => (leads_rep_one body hbody greedy f cs).symm) _
    case h_7 =>
      cases heq
      exact reachAny_everywhere (lengths_le _) f _
    all_goals cases heq

end Pattern

end Waymark
