import Waymark.Proofs.Template.Artifacts
import Waymark.Proofs.Template.Refilling

/-!
# What is put in place of placeholders

Filling a template is one replacement in its format: each placeholder of the
text gives way to what its hole shows (`Hole.Shows`), all at once, and every
other character stays (`Replaces`). Nothing that was put in is looked at again,
whatever it looks like. The pieces that are filled were read from the source,
where the kinds still stand; that they are replaced as the format says rests on
the two being read alike (`Erases.not_startsHole`), and the induction is on this
common reading (`replaces_of_fillPieces`).

Filling fails for one reason alone, a value that its converter refuses, and of
several the leftmost counts (`fillPieces_eq_error_iff`). What is left over are
the parameters that no placeholder takes, as they were.
-/

namespace Waymark

namespace Hole

variable {params : Params} {blank : Option String} {h : Hole}

/-- What stands in the place of a hole: nothing if it is to be blank, its value if it has one, and
its name if not. -/
inductive Shows (params : Params) (blank : Option String) (h : Hole) : List Char → Prop
  | blank (hblank : blank = some h.name) : Shows params blank h []
  | value {v : Value} {text : String} (hblank : blank ≠ some h.name)
      (hget : params.get? h.name = some v) (hencode : h.converter.encode v = .ok text) :
      Shows params blank h text.toList
  | name (hblank : blank ≠ some h.name) (hget : params.get? h.name = none) :
      Shows params blank h (Template.braced h.name.toList)

/-- The hole is not to be blank, and its value is refused. -/
def Rejects (params : Params) (blank : Option String) (h : Hole) (e : ConversionError) : Prop :=
  blank ≠ some h.name ∧ ∃ v, params.get? h.name = some v ∧ h.converter.encode v = .error e

end Hole

namespace Template

def LeftmostRejects (params : Params) (blank : Option String) (hs : List Hole)
    (e : ConversionError) : Prop :=
  ∃ before h after, hs = before ++ h :: after ∧ h.Rejects params blank e ∧
    ∀ k ∈ before, ∀ e', ¬ k.Rejects params blank e'

/-- What a template puts in the place of a name. -/
def Puts (t : Template) (params : Params) (blank : Option String) (name : String)
    (u : List Char) : Prop :=
  ∃ h ∈ t.holes, h.name = name ∧ h.Shows params blank u

/-- The second text is the first one with every placeholder replaced, by something that `R`
allows for its name. -/
inductive Replaces (R : String → List Char → Prop) : List Char → List Char → Prop
  | done : Replaces R [] []
  | hole {u name kind v cs out : List Char} (hhole : HoleText u name kind)
      (hput : R (String.ofList name) v) (hrest : Replaces R cs out) :
      Replaces R (u ++ cs) (v ++ out)
  | char {c : Char} {cs out : List Char} (hplain : ¬ StartsHole (c :: cs))
      (hrest : Replaces R cs out) : Replaces R (c :: cs) (c :: out)

/-! ## Replacing -/

/-- If there is one thing at most to put for each name, a text is replaced in one way. -/
theorem Replaces.unique {R : String → List Char → Prop}
    (hR : ∀ name u v, R name u → R name v → u = v) {cs out out' : List Char}
    (h : Replaces R cs out) (h' : Replaces R cs out') : out = out' := by
  induction h generalizing out' with
  | done =>
      generalize hcs : [] = cs at h'
      cases h' with
      | done => rfl
      | hole hhole _ _ =>
          obtain ⟨v, rfl⟩ := hhole.eq_cons
          cases hcs
      | char _ _ => cases hcs
  | @hole u name kind v cs out hhole hput hrest ih =>
      generalize hcs : u ++ cs = ds at h'
      cases h' with
      | done =>
          obtain ⟨v, rfl⟩ := hhole.eq_cons
          cases hcs
      | hole hhole' hput' hrest' =>
          obtain ⟨rfl, -, rfl⟩ := hhole.unique hhole' hcs
          rw [hR _ _ _ hput hput', ih hrest']
      | char hplain _ => exact absurd ⟨u, name, kind, cs, hhole, hcs.symm⟩ hplain
  | @char c cs out hplain hrest ih =>
      generalize hcs : c :: cs = ds at h'
      cases h' with
      | done => cases hcs
      | @hole u name kind v cs' out' hhole _ _ =>
          exact absurd ⟨u, name, kind, cs', hhole, hcs⟩ hplain
      | char _ hrest' =>
          obtain ⟨rfl, rfl⟩ := List.cons.inj hcs
          rw [ih hrest']

/-! ## One hole -/

variable {params : Params} {blank : Option String}

theorem fillPiece_hole_eq_ok_iff {h : Hole} {u : List Char} :
    fillPiece params blank (.hole h) = .ok u ↔ h.Shows params blank u := by
  constructor
  · intro hfill
    rw [fillPiece] at hfill
    split at hfill
    · rename_i hblank
      cases hfill
      exact .blank hblank
    · rename_i hblank
      split at hfill
      · rename_i v hget
        obtain ⟨text, hencode, rfl⟩ := Except.map_eq_ok_iff.mp hfill
        exact .value hblank hget hencode
      · rename_i hget
        cases hfill
        exact .name hblank hget
  · intro hshows
    cases hshows with
    | blank hblank => rw [fillPiece, if_pos hblank]
    | value hblank hget hencode => exact fillPiece_hole hblank hget hencode
    | name hblank hget => rw [fillPiece, if_neg hblank, hget]

theorem fillPiece_hole_eq_error_iff {h : Hole} {e : ConversionError} :
    fillPiece params blank (.hole h) = .error e ↔ h.Rejects params blank e := by
  rw [fillPiece]
  split
  · rename_i hblank
    exact iff_of_false (by simp) fun hrejects => hrejects.1 hblank
  · rename_i hblank
    split
    · rename_i v hget
      rw [Except.map_eq_error_iff]
      constructor
      · exact fun hencode => ⟨hblank, v, hget, hencode⟩
      · rintro ⟨_, w, hw, hencode⟩
        obtain rfl := Option.some.inj (hget.symm.trans hw)
        exact hencode
    · rename_i hget
      refine iff_of_false (by simp) ?_
      rintro ⟨_, v, hv, _⟩
      cases hget.symm.trans hv

theorem shows_unique {h : Hole} {u v : List Char} (hu : h.Shows params blank u)
    (hv : h.Shows params blank v) : u = v := by
  rw [← fillPiece_hole_eq_ok_iff] at hu hv
  exact Except.ok.inj (hu.symm.trans hv)

theorem exists_shows_iff {h : Hole} :
    (∃ u, h.Shows params blank u) ↔ ∀ e, ¬ h.Rejects params blank e := by
  simp only [← fillPiece_hole_eq_ok_iff, ← fillPiece_hole_eq_error_iff]
  cases fillPiece params blank (.hole h) with
  | ok u => simp
  | error e => simp

/-! ## All holes -/

theorem not_leftmostRejects_nil {e : ConversionError} :
    ¬ LeftmostRejects params blank [] e := by
  rintro ⟨before, _, _, heq, _⟩
  cases before <;> cases heq

theorem leftmostRejects_cons_iff {h : Hole} {hs : List Hole} {e : ConversionError} :
    LeftmostRejects params blank (h :: hs) e ↔
      h.Rejects params blank e ∨
        (∀ e', ¬ h.Rejects params blank e') ∧ LeftmostRejects params blank hs e := by
  constructor
  · rintro ⟨before, k, after, heq, hrejects, hbefore⟩
    cases before with
    | nil =>
        obtain ⟨rfl, rfl⟩ := List.cons.inj heq
        exact Or.inl hrejects
    | cons b before =>
        obtain ⟨rfl, rfl⟩ := List.cons.inj heq
        obtain ⟨hfirst, hbefore⟩ := List.forall_mem_cons.mp hbefore
        exact Or.inr ⟨hfirst, before, k, after, rfl, hrejects, hbefore⟩
  · rintro (hrejects | ⟨hfirst, before, k, after, rfl, hrejects, hbefore⟩)
    · exact ⟨[], h, hs, rfl, hrejects, List.forall_mem_nil _⟩
    · exact ⟨h :: before, k, after, rfl, hrejects, List.forall_mem_cons.mpr ⟨hfirst, hbefore⟩⟩

theorem fillPieces_eq_error_iff {ps : List Piece} {e : ConversionError} :
    fillPieces params blank ps = .error e ↔ LeftmostRejects params blank (holesOf ps) e := by
  induction ps with
  | nil => exact iff_of_false (by simp [fillPieces]) not_leftmostRejects_nil
  | cons p ps ih =>
      have hrest (text : List Char) :
          (fillPieces params blank ps >>= fun rest => pure (text ++ rest)) = .error e ↔
            LeftmostRejects params blank (holesOf ps) e :=
        Except.bind_pure_eq_error_iff.trans ih
      simp only [fillPieces, Except.bind_eq_error_iff, hrest]
      cases p with
      | literal text => simp [fillPiece]
      | hole h =>
          rw [holesOf_hole, leftmostRejects_cons_iff, fillPiece_hole_eq_error_iff,
            ← exists_shows_iff]
          simp only [fillPiece_hole_eq_ok_iff, exists_and_right]

theorem exists_leftmostRejects_iff {hs : List Hole} :
    (∃ e, LeftmostRejects params blank hs e) ↔ ∃ h ∈ hs, ∃ e, h.Rejects params blank e := by
  induction hs with
  | nil => exact iff_of_false (not_exists.mpr fun _ => not_leftmostRejects_nil) (by simp)
  | cons h hs ih =>
      simp only [leftmostRejects_cons_iff, List.exists_mem_cons_iff, ← ih, exists_or,
        exists_and_left]
      by_cases hfirst : ∃ e, h.Rejects params blank e
      · exact iff_of_true (Or.inl hfirst) (Or.inl hfirst)
      · rw [or_iff_right hfirst, or_iff_right hfirst, and_iff_right (not_exists.mp hfirst)]

theorem fillPieces_cons_eq_ok_iff {p : Piece} {ps : List Piece} {text : List Char} :
    fillPieces params blank (p :: ps) = .ok text ↔ ∃ u rest, fillPiece params blank p = .ok u ∧
      fillPieces params blank ps = .ok rest ∧ u ++ rest = text := by
  simp only [fillPieces, Except.bind_eq_ok_iff, Except.pure_eq_ok_iff, exists_and_left]

/-- What fills the pieces of a text is put in the place of the placeholders in its format. -/
theorem replaces_of_fillPieces {registry : Registry} {R : String → List Char → Prop}
    {cs out text : List Char} {names : List (String × String)} {as : List Piece}
    (h : Erases cs names out) (has : atoms? registry cs = some as)
    (hfill : fillPieces params blank as = .ok text)
    (hR : ∀ k ∈ holesOf as, ∀ u, k.Shows params blank u → R k.name u) : Replaces R out text := by
  induction h generalizing as text with
  | done =>
      obtain rfl := Option.some.inj ((atoms?_nil registry).symm.trans has)
      cases hfill
      exact .done
  | @hole u name kind cs out names hhole _ ih =>
      obtain ⟨converter, pattern, as, _, _, rfl, has'⟩ := atoms?_hole hhole has
      rw [holesOf_hole, List.forall_mem_cons] at hR
      obtain ⟨v, rest, hv, hrest, rfl⟩ := fillPieces_cons_eq_ok_iff.mp hfill
      have hput := hR.1 v (fillPiece_hole_eq_ok_iff.mp hv)
      exact .hole (.plain hhole.isName) hput (ih has' hrest hR.2)
  | char hplain hrest ih =>
      obtain ⟨as, rfl, has'⟩ := atoms?_char hplain has
      rw [holesOf_literal] at hR
      obtain ⟨_, rest, hchar, hfilled, rfl⟩ := fillPieces_cons_eq_ok_iff.mp hfill
      cases hchar
      exact .char (hrest.not_startsHole hplain) (ih has' hfilled hR)

theorem fillPieces_congr {params' : Params} (h : ∀ name, params.get? name = params'.get? name)
    (blank : Option String) (ps : List Piece) :
    fillPieces params blank ps = fillPieces params' blank ps := by
  induction ps with
  | nil => rfl
  | cons p ps ih =>
      have hp : fillPiece params blank p = fillPiece params' blank p := by
        cases p with
        | literal text => rfl
        | hole hole => rw [fillPiece, fillPiece, h]
      rw [fillPieces, fillPieces, hp, ih]

/-! ## The template -/

variable {t : Template}

theorem fill_eq_error_iff {e : ConversionError} :
    t.fill params blank = .error e ↔ LeftmostRejects params blank t.holes e := by
  rw [fill, Except.bind_pure_eq_error_iff, fillPieces_eq_error_iff, holes]

/-- No two holes have one name, so there is one thing at most to put for a name. -/
theorem Puts.unique {name : String} {u v : List Char} (hu : t.Puts params blank name u)
    (hv : t.Puts params blank name v) : u = v := by
  obtain ⟨h, hmem, rfl, hu⟩ := hu
  obtain ⟨k, kmem, hname, hv⟩ := hv
  have hdistinct : (t.holes.map Hole.name).Nodup := by
    rw [holes, ← names_eq_map_holes]
    exact t.distinct
  obtain rfl := List.inj_on_of_nodup_map hdistinct kmem hmem hname
  exact shows_unique hu hv

/-- The format with what the holes show is the only text that the format can be replaced by. -/
theorem replaces_format_iff {registry : Registry} {source text : String} {rest : Params}
    (ht : compile registry source = .ok t) (hfill : t.fill params blank = .ok (text, rest))
    {u : List Char} : Replaces (t.Puts params blank) t.format.toList u ↔ u = text.toList := by
  have hreads : Erases source.toList (placeholders source) t.format.toList := by
    rw [format_of_compile ht]
    exact erases_source_iff.mpr ⟨rfl, rfl⟩
  have hatoms : fillPieces params blank (atoms t.pieces) = .ok text.toList := by
    rw [fillPieces_atoms]
    exact (fill_eq_ok_restrict_iff.mp hfill).1
  have htext : Replaces (t.Puts params blank) t.format.toList text.toList := by
    refine replaces_of_fillPieces hreads (atoms?_of_compile ht) hatoms fun k hk v hv => ?_
    rw [holesOf_atoms] at hk
    exact ⟨k, hk, rfl, hv⟩
  constructor
  · intro hu
    refine Replaces.unique (fun _ _ _ => ?_) hu htext
    exact Puts.unique
  · rintro rfl
    exact htext

/-- What is left over are the parameters that no placeholder takes, as they were. -/
theorem entries_of_fill {text : String} {rest : Params}
    (hfill : t.fill params blank = .ok (text, rest)) :
    rest.entries.Sublist params.entries ∧
      ∀ e, e ∈ rest.entries ↔ e ∈ params.entries ∧ e.1 ∉ t.names ∧ blank ≠ some e.1 := by
  obtain ⟨-, rfl⟩ := fill_eq_ok_restrict_iff.mp hfill
  refine ⟨List.filter_sublist, fun e => ?_⟩
  rw [Params.restrict, List.mem_filter]
  simp

/-- In another order the parameters fill a template in the same way. -/
theorem fill_perm {params' : Params} (h : params'.entries.Perm params.entries) :
    (∀ e, t.fill params' blank = .error e ↔ t.fill params blank = .error e) ∧
      ∀ text rest, t.fill params blank = .ok (text, rest) →
        ∃ rest', t.fill params' blank = .ok (text, rest') ∧ rest'.entries.Perm rest.entries := by
  have hpieces := fillPieces_congr (Params.get?_perm h) blank t.pieces
  refine ⟨fun e => ?_, fun text rest hfill => ?_⟩
  · rw [fill_eq_error_iff, fill_eq_error_iff, holes, ← fillPieces_eq_error_iff,
      ← fillPieces_eq_error_iff, hpieces]
  · obtain ⟨htext, rfl⟩ := fill_eq_ok_restrict_iff.mp hfill
    exact ⟨_, fill_eq_ok_restrict_iff.mpr ⟨hpieces.trans htext, rfl⟩, h.filter _⟩

/-- A template that is filled has become its format with every placeholder replaced at once: by
the value that its converter writes, by nothing if it is the blank one, and by itself if there is
no value. What is left over are the parameters that are neither of its names nor the blank one,
as they were. Another order of the parameters changes but the order of what is left over. Filling
fails exactly if a value is refused that is not the blank one's, with the error of the leftmost.
And the pass over segments and the pass over parameters have the same result. -/
theorem fill_replaces_at_once {registry : Registry} {source : String}
    (ht : compile registry source = .ok t) (params : Params) (blank : Option String) :
    (∀ text rest, t.fill params blank = .ok (text, rest) →
      (∀ u, Replaces (t.Puts params blank) t.format.toList u ↔ u = text.toList) ∧
        rest.entries.Sublist params.entries ∧
        ∀ e, e ∈ rest.entries ↔ e ∈ params.entries ∧ e.1 ∉ t.names ∧ blank ≠ some e.1) ∧
    (∀ params' : Params, params'.entries.Perm params.entries →
      (∀ e, t.fill params' blank = .error e ↔ t.fill params blank = .error e) ∧
        ∀ text rest, t.fill params blank = .ok (text, rest) →
          ∃ rest', t.fill params' blank = .ok (text, rest') ∧ rest'.entries.Perm rest.entries) ∧
    ((∃ e, t.fill params blank = .error e) ↔ ∃ h ∈ t.holes, ∃ e, h.Rejects params blank e) ∧
    (∀ e, t.fill params blank = .error e ↔ ∃ before h after, t.holes = before ++ h :: after ∧
      h.Rejects params blank e ∧ ∀ k ∈ before, ∀ e', ¬ k.Rejects params blank e') ∧
    t.artifacts.substitute params blank = some (t.fill params blank) := by
  refine ⟨fun text rest hfill => ⟨fun u => replaces_format_iff ht hfill, entries_of_fill hfill⟩,
    fun params' hperm => fill_perm hperm, ?_, fun e => fill_eq_error_iff,
    (agrees_of_compile ht).fill_eq params blank⟩
  rw [← exists_leftmostRejects_iff]
  exact exists_congr fun e => fill_eq_error_iff

/-- A value that looks like a placeholder is not replaced, whatever the order of the parameters. -/
theorem fill_replaces_at_once_look_alike :
    let source := "/\x7ba\x7d/\x7bb\x7d"
    let params : Params := .ofList [("c", .int 7), ("a", .str "\x7bb\x7d"), ("b", .str "z")]
    let params' : Params := .ofList [("b", .str "z"), ("a", .str "\x7bb\x7d"), ("c", .int 7)]
    ∃ t rest, compile .builtin source = .ok t ∧
      t.fill params none = .ok ("/\x7bb\x7d/z", rest) ∧ ("c", .int 7) ∈ rest.entries ∧
      ∃ rest', t.fill params' none = .ok ("/\x7bb\x7d/z", rest') := by
  intro source params params'
  let t : Template := ⟨source,
    [.literal ['/'], .hole ⟨"a", Converter.str, Converter.segmentPattern⟩,
      .literal ['/'], .hole ⟨"b", Converter.str, Converter.segmentPattern⟩], by decide⟩
  have hparts : parts source.toList = [.literal ['/'], .hole "a".toList "str".toList,
      .literal ['/'], .hole "b".toList "str".toList] := by decide +kernel
  have hc : compile .builtin source = .ok t := by
    refine compile_eq_ok_iff.mpr ⟨rfl, ?_⟩
    rw [hparts]
    rfl
  have hfill : ∃ rest, t.fill params none = .ok ("/\x7bb\x7d/z", rest) := ⟨_, rfl⟩
  obtain ⟨rest, hfill⟩ := hfill
  obtain ⟨hok, hperm, _⟩ := fill_replaces_at_once hc params none
  obtain ⟨_, _, hrest⟩ := hok _ _ hfill
  obtain ⟨_, hsame⟩ := hperm params' (by decide)
  obtain ⟨rest', hrest', _⟩ := hsame _ _ hfill
  exact ⟨t, rest, hc, hfill, (hrest _).mpr ⟨by decide, by decide, by simp⟩, rest', hrest'⟩

end Template

end Waymark
