import Waymark.Proofs.Template.Notation
import Waymark.Proofs.Template.Validity

/-!
# Erasing the kinds of a text

`Erases` reads a text from left to right and says which placeholders stand in it
and what is left of it without their kinds: where a hole starts it is read as a
whole, and every other character is kept. There is one such reading of each text,
and the parts of the text show it (`erases_iff`).

Erasing makes no hole and loses none (`Erases.again`). A hole that stood in the
erased text and not in the text itself would have to start at a character that
was kept; but behind its first brace a hole has no other, so nothing in it comes
from a hole that was erased (`Erases.keeps`).
-/

namespace Waymark.Template

/-- The placeholders of a text with their kinds, and the text with the kinds erased. -/
inductive Erases : List Char → List (String × String) → List Char → Prop
  | done : Erases [] [] []
  | hole {u name kind cs out : List Char} {ps : List (String × String)}
      (hhole : HoleText u name kind) (hrest : Erases cs ps out) :
      Erases (u ++ cs) ((String.ofList name, String.ofList kind) :: ps) (braced name ++ out)
  | char {c : Char} {cs out : List Char} {ps : List (String × String)}
      (hplain : ¬ StartsHole (c :: cs)) (hrest : Erases cs ps out) :
      Erases (c :: cs) ps (c :: out)

/-! ## The reading of a text -/

theorem startsHole_cons_iff {c : Char} {cs : List Char} :
    StartsHole (c :: cs) ↔ c = '\x7b' ∧ (readHole? cs).isSome = true := by
  constructor
  · rintro ⟨u, name, kind, rest, hhole, hcs⟩
    obtain ⟨v, rfl⟩ := hhole.eq_cons
    have hread : readHole? cs = some (name, kind, rest) :=
      readHole?_eq_some_iff.mpr ⟨v, hhole, (List.cons.inj hcs).2⟩
    exact ⟨(List.cons.inj hcs).1, by rw [hread]; rfl⟩
  · rintro ⟨rfl, hsome⟩
    obtain ⟨⟨name, kind, rest⟩, hread⟩ := Option.isSome_iff_exists.mp hsome
    obtain ⟨v, hhole, rfl⟩ := readHole?_eq_some_iff.mp hread
    exact ⟨_, name, kind, rest, hhole, rfl⟩

theorem placeholder?_consChar (c : Char) (ps : List Part) :
    (consChar c ps).filterMap Part.placeholder? = ps.filterMap Part.placeholder? := by
  cases ps with
  | nil => rfl
  | cons p ps => cases p <;> rfl

theorem spelled_consChar (c : Char) (ps : List Part) :
    (consChar c ps).flatMap Part.spelled = c :: ps.flatMap Part.spelled := by
  cases ps with
  | nil => rfl
  | cons p ps => cases p <;> rfl

theorem erases_parts (cs : List Char) :
    Erases cs ((parts cs).filterMap Part.placeholder?) ((parts cs).flatMap Part.spelled) := by
  have hchar {c : Char} {cs : List Char} (hplain : ¬ StartsHole (c :: cs))
      (ih : Erases cs ((parts cs).filterMap Part.placeholder?)
        ((parts cs).flatMap Part.spelled)) :
      Erases (c :: cs) ((consChar c (parts cs)).filterMap Part.placeholder?)
        ((consChar c (parts cs)).flatMap Part.spelled) := by
    rw [placeholder?_consChar, spelled_consChar]
    exact .char hplain ih
  fun_induction parts cs with
  | case1 => exact .done
  | case2 cs name kind rest hread ih =>
      obtain ⟨u, hhole, rfl⟩ := readHole?_eq_some_iff.mp hread
      exact .hole hhole ih
  | case3 cs hread ih =>
      refine hchar (fun h => ?_) ih
      rw [startsHole_cons_iff, hread] at h
      cases h.2
  | case4 c cs hc ih => exact hchar (fun h => hc (startsHole_cons_iff.mp h).1) ih

/-- A text is read in one way, which is how its parts show it. -/
theorem erases_iff {cs out : List Char} {ps : List (String × String)} : Erases cs ps out ↔
    ps = (parts cs).filterMap Part.placeholder? ∧ out = (parts cs).flatMap Part.spelled := by
  constructor
  · intro h
    induction h with
    | done => simp [parts]
    | @hole u name kind cs out ps hhole _ ih =>
        obtain ⟨rfl, rfl⟩ := ih
        rw [parts_hole hhole]
        exact ⟨rfl, rfl⟩
    | char hplain _ ih =>
        obtain ⟨rfl, rfl⟩ := ih
        rw [parts_char hplain, placeholder?_consChar, spelled_consChar]
        exact ⟨rfl, rfl⟩
  · rintro ⟨rfl, rfl⟩
    exact erases_parts cs

theorem erases_source_iff {source : String} {ps : List (String × String)} {out : List Char} :
    Erases source.toList ps out ↔ ps = placeholders source ∧ out = (erased source).toList := by
  rw [erases_iff, placeholders, erased, String.toList_ofList]

/-! ## Reading the erased text -/

namespace Erases

variable {cs out : List Char} {ps : List (String × String)}

/-- What the erased text starts with is in the text itself as far as no hole starts in it. -/
theorem keeps (h : Erases cs ps out) {v rest : List Char} (hout : out = v ++ rest)
    (hv : '\x7b' ∉ v) : ∃ rest', cs = v ++ rest' := by
  induction h generalizing v with
  | done =>
      obtain ⟨rfl, _⟩ := List.append_eq_nil_iff.mp hout.symm
      exact ⟨[], rfl⟩
  | hole _ _ _ =>
      cases v with
      | nil => exact ⟨_, rfl⟩
      | cons d v =>
          obtain rfl := (List.cons.inj hout).1
          exact absurd (List.mem_cons_self ..) hv
  | char _ _ ih =>
      cases v with
      | nil => exact ⟨_, rfl⟩
      | cons d v =>
          obtain ⟨rfl, htail⟩ := List.cons.inj hout
          obtain ⟨rest', rfl⟩ := ih htail fun hin => hv (List.mem_cons_of_mem _ hin)
          exact ⟨rest', rfl⟩

/-- No hole starts at a character that was kept. -/
theorem not_startsHole (h : Erases cs ps out) {c : Char} (hplain : ¬ StartsHole (c :: cs)) :
    ¬ StartsHole (c :: out) := by
  rintro ⟨u, name, kind, rest, hhole, hout⟩
  have hbrace := hhole.brace_not_mem_tail
  obtain ⟨v, rfl⟩ := hhole.eq_cons
  have hbehind : out = v ++ rest := (List.cons.inj hout).2
  obtain ⟨rest', rfl⟩ := h.keeps hbehind hbrace
  exact hplain ⟨_, name, kind, rest', hhole, congrArg (· :: _) (List.cons.inj hout).1⟩

/-- The erased text has the same placeholders, all of the kind that a hole has if it gives none,
and nothing to erase. -/
theorem again (h : Erases cs ps out) : Erases out (ps.map fun p => (p.1, "str")) out := by
  induction h with
  | done => exact .done
  | @hole u name kind cs out ps hhole _ ih =>
      have hkind : String.ofList defaultKind = "str" := String.ofList_toList
      rw [List.map_cons, ← hkind]
      exact .hole (.plain hhole.isName) ih
  | char hplain hrest ih => exact .char (hrest.not_startsHole hplain) ih

end Erases

theorem placeholders_erased (source : String) :
    placeholders (erased source) = (placeholders source).map fun p => (p.1, "str") :=
  (erases_source_iff.mp (erases_source_iff.mpr ⟨rfl, rfl⟩).again).1.symm

theorem erased_erased (source : String) : erased (erased source) = erased source := by
  rw [← String.toList_inj]
  exact (erases_source_iff.mp (erases_source_iff.mpr ⟨rfl, rfl⟩).again).2.symm

end Waymark.Template
