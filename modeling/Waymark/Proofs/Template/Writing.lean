import Waymark.Proofs.Template.Captures

/-!
# What templates are filled with

Filling may fail, leave a hole blank, or put a hole's name where there is no
value. Where all holes have values none of this is in the way: filling succeeds
if every converter accepts its value, and what comes out is the text of the
template with the values written into it (`fillPieces_eq_ok_iff_written`).
-/

namespace Waymark

/-- What a hole is written as: its value, if it has one that its converter accepts. -/
def Hole.written? (h : Hole) (params : Params) : Option String :=
  (params.get? h.name).bind fun value => (h.converter.encode value).toOption

namespace Hole

theorem contains_of_written {h : Hole} {params : Params}
    (hw : (h.written? params).isSome = true) : params.contains h.name = true := by
  unfold written? at hw
  unfold Params.contains
  cases hget : params.get? h.name with
  | none =>
      rw [hget] at hw
      cases hw
  | some value => rfl

theorem written?_congr {h : Hole} {params params' : Params}
    (hget : params.get? h.name = params'.get? h.name) : h.written? params = h.written? params' := by
  unfold written?
  rw [hget]

end Hole

namespace Template

def written (params : Params) : List Piece → List Char
  | [] => []
  | .literal text :: ps => text ++ written params ps
  | .hole h :: ps => ((h.written? params).getD "").toList ++ written params ps

theorem written_congr {params params' : Params} {ps : List Piece}
    (h : ∀ hole ∈ holesOf ps, hole.written? params = hole.written? params') :
    written params ps = written params' ps := by
  induction ps with
  | nil => rfl
  | cons p ps ih =>
      cases p with
      | literal text =>
          rw [holesOf_literal] at h
          rw [written, written, ih h]
      | hole hole =>
          rw [holesOf_hole, List.forall_mem_cons] at h
          rw [written, written, ih h.2, h.1]

theorem fillPiece_eq_ok_iff {params : Params} {blank : Option String} {h : Hole}
    {text : List Char} (hblank : blank ≠ some h.name) (hvalue : params.contains h.name = true) :
    fillPiece params blank (.hole h) = .ok text ↔
      (h.written? params).isSome = true ∧ text = ((h.written? params).getD "").toList := by
  obtain ⟨value, hget⟩ := Option.isSome_iff_exists.mp hvalue
  rw [fillPiece, if_neg hblank, Hole.written?, hget, Option.bind_some]
  dsimp only
  cases h.converter.encode value with
  | error e =>
      refine iff_of_false ?_ (by simp [Except.toOption])
      intro h
      cases h
  | ok t =>
      constructor
      · intro ht
        cases ht
        exact ⟨rfl, rfl⟩
      · rintro ⟨_, rfl⟩
        rfl

/-- With a value for every hole filling is writing. -/
theorem fillPieces_eq_ok_iff_written {params : Params} {blank : Option String} {ps : List Piece}
    (h : ∀ hole ∈ holesOf ps, blank ≠ some hole.name ∧ params.contains hole.name = true)
    {text : List Char} : fillPieces params blank ps = .ok text ↔
      (∀ hole ∈ holesOf ps, (hole.written? params).isSome = true) ∧ text = written params ps := by
  induction ps generalizing text with
  | nil =>
      constructor
      · intro ht
        cases ht
        exact ⟨nofun, rfl⟩
      · rintro ⟨_, rfl⟩
        rfl
  | cons p ps ih =>
      simp only [fillPieces, Except.bind_eq_ok_iff, Except.pure_eq_ok_iff]
      cases p with
      | literal lit =>
          rw [holesOf_literal] at h ⊢
          simp only [ih h, written]
          constructor
          · rintro ⟨_, hlit, _, ⟨hall, rfl⟩, rfl⟩
            cases hlit
            exact ⟨hall, rfl⟩
          · rintro ⟨hall, rfl⟩
            exact ⟨lit, rfl, _, ⟨hall, rfl⟩, rfl⟩
      | hole hole =>
          rw [holesOf_hole, List.forall_mem_cons] at h
          rw [holesOf_hole, List.forall_mem_cons]
          simp only [ih h.2, fillPiece_eq_ok_iff h.1.1 h.1.2, written]
          constructor
          · rintro ⟨_, ⟨hone, rfl⟩, _, ⟨hall, rfl⟩, rfl⟩
            exact ⟨⟨hone, hall⟩, rfl⟩
          · rintro ⟨⟨hone, hall⟩, rfl⟩
            exact ⟨_, ⟨hone, rfl⟩, _, ⟨hall, rfl⟩, rfl⟩

end Template

end Waymark
