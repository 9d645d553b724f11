import Waymark.Param.Params
import Waymark.Pattern.Reach
import Waymark.Template.Basic

/-!
# Matching templates

A subject matches when the pieces of the template use it up, literals as they
are and holes by their patterns. Where the subject can be shared out in several
ways, the first hole has its preferred way for which the others can be
completed, then the second, and so on: this is `capturePieces?`. The captures
are then decoded from left to right; a capture that fits a pattern may still
fail to decode.

Trying ways for the first hole until one can be completed repeats the work for
the others each time. So `capture?` finds from the last piece to the first, in
one pass over the subject each, where the pieces can be completed, and then
every hole takes the first way that leads there. By `capture?_eq` the captures
are the same.
-/

namespace Waymark.Template

/-- What the holes take when the pieces use up the subject. -/
def capturePieces? : List Piece → List Char → Option (List (List Char))
  | [], [] => some []
  | [], _ :: _ => none
  | .literal text :: ps, cs => (Text.after? text cs).bind (capturePieces? ps)
  | .hole h :: ps, cs =>
    (h.pattern.lengths cs).findSome? fun n =>
      (capturePieces? ps (cs.drop n)).map (cs.take n :: ·)

/-! ## Captures without trying again -/

/-- How many characters a literal takes. -/
def literalLengths (text cs : List Char) : List Nat :=
  if text.isPrefixOf cs then [text.length] else []

/-- The places of a text from which a piece leads to the goal. -/
def reach : Piece → List Char → List Bool → List Bool
  | .literal text, cs, goal => Pattern.reachAny (literalLengths text) cs goal
  | .hole h, cs, goal => h.pattern.reach cs goal

/-- The places of a text from which the pieces use it up, then those for the pieces without the
first one, and so on. -/
def goals : List Piece → List Char → List (List Bool)
  | [], cs => [Pattern.everywhere List.isEmpty cs]
  | p :: ps, cs =>
    let later := goals ps cs
    reach p cs (later.headD []) :: later

/-- What the holes take, with the goals for all pieces known. `place` is where in the subject
the text stands. -/
def captureFrom : List Piece → (goals : List (Array Bool)) → (place : Nat) → List Char →
    Option (List (List Char))
  | [], _, _, cs => if cs.isEmpty then some [] else none
  | .literal text :: ps, goals, place, cs =>
    (Text.after? text cs).bind (captureFrom ps goals.tail (place + text.length))
  | .hole h :: ps, goals, place, cs =>
    let goal := goals.tail.headD #[]
    match (h.pattern.lengths cs).find? fun n => goal.getD (place + n) false with
    | some n =>
      (captureFrom ps goals.tail (place + n) (cs.drop n)).map (cs.take n :: ·)
    | none => none

/-- What the holes take when the pieces use up the subject. A literal in front is looked at
before anything else. -/
def capture? : List Piece → List Char → Option (List (List Char))
  | .literal text :: ps, cs => (Text.after? text cs).bind (capture? ps)
  | ps, cs => captureFrom ps ((goals ps cs).map List.toArray) 0 cs

theorem literalLengths_le (text cs : List Char) :
    ∀ n ∈ literalLengths text cs, n ≤ cs.length := by
  intro n h
  simp only [literalLengths] at h
  split at h
  · rename_i hp
    simp only [List.mem_singleton] at h
    exact h ▸ (List.isPrefixOf_iff_prefix.mp hp).length_le
  · simp at h

theorem reach_everywhere (p : Piece) (ps : List Piece) (cs : List Char) :
    reach p cs (Pattern.everywhere (fun cs => (capturePieces? ps cs).isSome) cs) =
      Pattern.everywhere (fun cs => (capturePieces? (p :: ps) cs).isSome) cs := by
  cases p with
  | literal text =>
    rw [reach, Pattern.reachAny_everywhere (literalLengths_le text)]
    refine Pattern.everywhere_congr (fun cs => ?_) cs
    rw [literalLengths, capturePieces?, Text.after?]
    split <;> simp
  | hole h =>
    rw [reach, Pattern.reach_everywhere]
    refine Pattern.everywhere_congr (fun cs => ?_) cs
    rw [Pattern.leads, capturePieces?, List.isSome_findSome?]
    simp

/-- A goal says where the pieces can be completed. -/
theorem headD_goals (ps : List Piece) (cs : List Char) :
    (goals ps cs).headD [] =
      Pattern.everywhere (fun cs => (capturePieces? ps cs).isSome) cs := by
  induction ps with
  | nil => exact Pattern.everywhere_congr (fun cs => by cases cs <;> rfl) cs
  | cons p ps ih => rw [goals, List.headD_cons, ih, reach_everywhere]

/-- The first success is found by knowing where there is one. -/
theorem findSome?_eq_find? (ns : List Nat) (p : Nat → Bool) (g : Nat → Option β)
    (h : ∀ n ∈ ns, p n = (g n).isSome) :
    ns.findSome? g = match ns.find? p with
      | some n => g n
      | none => none := by
  induction ns with
  | nil => rfl
  | cons n ns ih =>
    have hn := h n (List.mem_cons_self ..)
    rw [List.findSome?_cons, List.find?_cons]
    cases hg : g n with
    | some b => simp [hn, hg]
    | none =>
      simp only [hn, hg, Option.isSome_none]
      exact ih fun m hm => h m (List.mem_cons_of_mem _ hm)

theorem captureFrom_eq (ps : List Piece) (subject : List Char) (place : Nat)
    (hplace : place ≤ subject.length) :
    captureFrom ps ((goals ps subject).map List.toArray) place (subject.drop place) =
      capturePieces? ps (subject.drop place) := by
  induction ps generalizing place with
  | nil => cases subject.drop place <;> rfl
  | cons p ps ih =>
    cases p with
    | literal text =>
      rw [captureFrom, capturePieces?, Text.after?]
      split
      · rename_i hp
        have hlen := (List.isPrefixOf_iff_prefix.mp hp).length_le
        rw [List.length_drop] at hlen
        simpa [goals, List.drop_drop] using ih (place + text.length) (by omega)
      · rfl
    | hole h =>
      have hgoal (n : Nat) (hn : n ∈ h.pattern.lengths (subject.drop place)) :
          (((goals ps subject).map List.toArray).headD #[]).getD (place + n) false =
            ((capturePieces? ps ((subject.drop place).drop n)).map
              ((subject.drop place).take n :: ·)).isSome := by
        have hle := Pattern.lengths_le _ _ n hn
        rw [List.length_drop] at hle
        have hget := Pattern.getD_everywhere (fun cs => (capturePieces? ps cs).isSome) subject
          (place + n) (by omega)
        rw [← headD_goals] at hget
        rw [Option.isSome_map, List.drop_drop, ← hget]
        cases goals ps subject <;> simp
      rw [capturePieces?, captureFrom]
      simp only [goals, List.map_cons, List.tail_cons]
      rw [findSome?_eq_find? _ _ _ hgoal]
      split
      · rename_i n hn
        have hle := Pattern.lengths_le _ _ n (List.mem_of_find?_eq_some hn)
        rw [List.length_drop] at hle
        rw [List.drop_drop, ih (place + n) (by omega)]
      · rfl

theorem capture?_eq (ps : List Piece) (cs : List Char) :
    capture? ps cs = capturePieces? ps cs := by
  have hfrom (ps : List Piece) := captureFrom_eq ps cs 0 (Nat.zero_le _)
  induction ps generalizing cs with
  | nil => exact hfrom []
  | cons p ps ih =>
    cases p with
    | literal text =>
      rw [capture?, capturePieces?]
      exact congrArg _ (funext fun cs => ih cs fun ps => captureFrom_eq ps cs 0 (Nat.zero_le _))
    | hole h => exact hfrom _

/-- Decodes what the holes took. -/
def decodeHoles : List Hole → List (List Char) → Except ConversionError (List (String × Value))
  | h :: hs, u :: us => do
    let value ← h.converter.decode (String.ofList u)
    return (h.name, value) :: (← decodeHoles hs us)
  | _, _ => .ok []

/-- Matches the whole subject; `none` when it does not match. -/
def match? (t : Template) (subject : String) : Option (Except ConversionError Params) :=
  (capture? t.pieces subject.toList).map fun us =>
    (decodeHoles t.holes us).map Params.ofList

end Waymark.Template
