/-!
# Patterns

A pattern says which texts a placeholder takes. It is matched at the front of
a text in all the ways it can be: `lengths` lists how many characters each of
them takes, in the order in which they are preferred. A choice prefers its left
side, a repetition prefers more rounds (or fewer, if it is reluctant), and the
preferences of a first part come before those of the part that follows it.

A whole template prefers the first combination that uses up the subject, so
this order decides how neighbouring placeholders share a text.
-/

namespace Waymark

/-- A set of characters: those in the ranges, or those in none of them. -/
structure CharSet where
  negated : Bool
  ranges : List (Char × Char)
  deriving DecidableEq

namespace CharSet

def has (s : CharSet) (c : Char) : Bool :=
  (s.ranges.any fun (low, high) => low ≤ c && c ≤ high) != s.negated

def one (c : Char) : CharSet := ⟨false, [(c, c)]⟩

/-- Every character but the line feed. -/
def anyInLine : CharSet := ⟨true, [('\n', '\n')]⟩

/-- How many characters at the front of a text are in the set. -/
def run (s : CharSet) (cs : List Char) : Nat := (cs.takeWhile s.has).length

end CharSet

inductive Pattern where
  | empty
  | char (set : CharSet)
  | seq (first second : Pattern)
  | choice (left right : Pattern)
  | rep (body : Pattern) (least : Nat) (most : Option Nat) (greedy : Bool)
  deriving DecidableEq

namespace Pattern

/-! ## Repetitions -/

/-- The numbers of characters of a set that stand at the front of a text, between `least` and
`most`. -/
def runLengths (set : CharSet) (least : Nat) (most : Option Nat) (greedy : Bool)
    (cs : List Char) : List Nat :=
  let top := match most with
    | some m => min m (set.run cs)
    | none => set.run cs
  let ns := List.range' least (top + 1 - least)
  if greedy then ns.reverse else ns

/-- The lengths of `step` repeated between `least` and `most` times. A round that takes nothing
ends the repetition, since any number of such rounds comes to the same. -/
def repeatedLengths (step : List Char → List Nat) (greedy : Bool) :
    (fuel least : Nat) → (most : Option Nat) → List Char → List Nat
  | 0, least, _, _ => if least = 0 then [0] else []
  | fuel + 1, least, most, cs =>
    let more := if most = some 0 then [] else
      (step cs).flatMap fun n =>
        if n = 0 then [0]
        else (repeatedLengths step greedy fuel (least - 1) (most.map (· - 1)) (cs.drop n)).map
          (n + ·)
    if least = 0 then
      if greedy then more ++ [0] else 0 :: more
    else more

/-! ## Matches -/

/-- The lengths of all matches at the front of a text, the preferred ones first. -/
def lengths : Pattern → List Char → List Nat
  | .empty, _ => [0]
  | .char _, [] => []
  | .char set, c :: _ => if set.has c then [1] else []
  | .seq a b, cs => (a.lengths cs).flatMap fun n => (b.lengths (cs.drop n)).map (n + ·)
  | .choice a b, cs => a.lengths cs ++ b.lengths cs
  | .rep (.char set) least most greedy, cs => runLengths set least most greedy cs
  | .rep body least most greedy, cs =>
    repeatedLengths body.lengths greedy (cs.length + 1) least most cs

/-! ## No match is longer than the text -/

theorem mem_runLengths {set : CharSet} {least : Nat} {most : Option Nat} {greedy : Bool}
    {cs : List Char} {n : Nat} :
    n ∈ runLengths set least most greedy cs ↔
      least ≤ n ∧ n ≤ set.run cs ∧ ∀ m ∈ most, n ≤ m := by
  cases most <;> cases greedy <;> simp [runLengths, List.mem_range'_1] <;> omega

theorem run_le_length (set : CharSet) (cs : List Char) : set.run cs ≤ cs.length :=
  (List.takeWhile_prefix _).length_le

theorem repeatedLengths_le {step : List Char → List Nat}
    (hstep : ∀ cs, ∀ n ∈ step cs, n ≤ cs.length) (greedy : Bool) (fuel least : Nat)
    (most : Option Nat) (cs : List Char) :
    ∀ n ∈ repeatedLengths step greedy fuel least most cs, n ≤ cs.length := by
  induction fuel generalizing least most cs with
  | zero => intro n h; simp only [repeatedLengths] at h; split at h <;> simp_all
  | succ fuel ih =>
    have hmore : ∀ n ∈ (if most = some 0 then [] else
        (step cs).flatMap fun n => if n = 0 then [0]
          else (repeatedLengths step greedy fuel (least - 1) (most.map (· - 1))
            (cs.drop n)).map (n + ·)), n ≤ cs.length := by
      intro n h
      split at h
      · simp at h
      · obtain ⟨k, hk, hn⟩ := List.mem_flatMap.mp h
        split at hn
        · simp_all
        · obtain ⟨j, hj, rfl⟩ := List.mem_map.mp hn
          have h1 := hstep _ _ hk
          have h2 := ih _ _ _ _ hj
          simp only [List.length_drop] at h2
          omega
    intro n h
    simp only [repeatedLengths] at h
    split at h
    · split at h
      · rcases List.mem_append.mp h with h | h
        · exact hmore n h
        · simp_all
      · rcases List.mem_cons.mp h with h | h
        · simp_all
        · exact hmore n h
    · exact hmore n h

theorem lengths_le (p : Pattern) (cs : List Char) : ∀ n ∈ p.lengths cs, n ≤ cs.length := by
  induction p generalizing cs with
  | empty => simp [lengths]
  | char set =>
    cases cs with
    | nil => simp [lengths]
    | cons c cs => simp only [lengths]; split <;> simp
  | seq a b iha ihb =>
    intro n h
    obtain ⟨k, hk, hn⟩ := List.mem_flatMap.mp h
    obtain ⟨j, hj, rfl⟩ := List.mem_map.mp hn
    have h1 := iha _ _ hk
    have h2 := ihb _ _ hj
    simp only [List.length_drop] at h2
    omega
  | choice a b iha ihb =>
    intro n h
    rcases List.mem_append.mp h with h | h
    · exact iha _ n h
    · exact ihb _ n h
  | rep body least most greedy ih =>
    cases body with
    | char set =>
      intro n h
      exact Nat.le_trans (mem_runLengths.mp h).2.1 (run_le_length set cs)
    | empty => exact repeatedLengths_le ih greedy _ least most cs
    | seq a b => exact repeatedLengths_le ih greedy _ least most cs
    | choice a b => exact repeatedLengths_le ih greedy _ least most cs
    | rep b l m g => exact repeatedLengths_le ih greedy _ least most cs

end Pattern

end Waymark
