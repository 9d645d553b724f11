import Waymark.Proofs.Template.Notation
import Waymark.Proofs.Template.Refilling

/-!
# What a template accepts

`Spells` is the grammar of a written template: the subjects that come about
when every hole is replaced by a text of its kind and everything else stays as
it is written. It has no pieces, patterns or order of trying, and it lets the
holes share a subject in every way that is possible.

`accepts_grammar` says that a compiled template accepts just these subjects,
that what it captures is one of the ways to spell the subject, and that its
answer is what the captures decode to: all of them, or the fault of the first
that cannot be decoded. The bridge is `spells_iff`, by induction on the scan of
the written text: the ways to spell a subject are the texts that fit the holes of
the compiled pieces and assemble to it.
-/

namespace Waymark.Template

/-! ## The grammar -/

/-- A text in the place of a hole. -/
structure Capture where
  name : String
  kind : Converter.Kind
  text : List Char

def Capture.decoded (c : Capture) : Except ConversionError Value :=
  c.kind.converter.decode (String.ofList c.text)

/-- The subject is the written template with the captures in the places of its holes. -/
inductive Spells : List Char → List Capture → List Char → Prop
  | done : Spells [] [] []
  | char {c : Char} {cs : List Char} {us : List Capture} {subject : List Char}
      (hplain : ¬ StartsHole (c :: cs)) (hrest : Spells cs us subject) :
      Spells (c :: cs) us (c :: subject)
  | hole {u name kind cs text : List Char} {k : Converter.Kind} {us : List Capture}
      {subject : List Char} (hhole : HoleText u name kind) (hkind : k.name = String.ofList kind)
      (htext : k.Takes text) (hrest : Spells cs us subject) :
      Spells (u ++ cs) (⟨String.ofList name, k, text⟩ :: us) (text ++ subject)

structure Capture.Fills (h : Hole) (c : Capture) : Prop where
  hole : h = ⟨c.name, c.kind.converter, c.kind.pattern⟩
  takes : c.kind.Takes c.text

/-- The ways to spell a subject are the texts that fit the holes and assemble to it. -/
theorem spells_iff {cs : List Char} {as : List Piece} (h : Scans cs as) {us : List Capture}
    {subject : List Char} : Spells cs us subject ↔
      List.Forall₂ Capture.Fills (holesOf as) us ∧ assemble as (us.map Capture.text) = subject := by
  induction h generalizing us subject with
  | done =>
      constructor
      · intro h
        generalize hsource : [] = source at h
        cases h with
        | done => exact ⟨.nil, rfl⟩
        | char => cases hsource
        | hole hhole =>
            obtain ⟨v, rfl⟩ := hhole.eq_cons
            cases hsource
      · rintro ⟨hfills, rfl⟩
        cases hfills
        exact .done
  | @hole u name kind cs k as hhole hkind _ ih =>
      rw [holesOf_hole]
      constructor
      · intro h
        generalize hsource : u ++ cs = source at h
        cases h with
        | done =>
            obtain ⟨v, rfl⟩ := hhole.eq_cons
            cases hsource
        | char hplain _ => exact absurd ⟨u, name, kind, cs, hhole, hsource.symm⟩ hplain
        | hole hhole' hkind' htext hrest =>
            obtain ⟨rfl, rfl, rfl⟩ := hhole.unique hhole' hsource
            obtain rfl := Converter.Kind.name_injective (hkind.trans hkind'.symm)
            obtain ⟨hfills, rfl⟩ := ih.mp hrest
            exact ⟨.cons ⟨rfl, htext⟩ hfills, rfl⟩
      · rintro ⟨hfills, rfl⟩
        cases hfills with
        | @cons _ capture _ us hfill hfills =>
            obtain ⟨name', k', text⟩ := capture
            obtain ⟨hsame, htext⟩ := hfill
            obtain ⟨rfl, hconverter, _⟩ := Hole.mk.inj hsame
            obtain rfl := Converter.Kind.converter_injective hconverter
            exact .hole hhole hkind htext (ih.mpr ⟨hfills, rfl⟩)
  | @char c cs as hplain _ ih =>
      rw [holesOf_literal]
      constructor
      · intro h
        generalize hsource : c :: cs = source at h
        cases h with
        | done => cases hsource
        | char _ hrest =>
            cases hsource
            obtain ⟨hfills, rfl⟩ := ih.mp hrest
            exact ⟨hfills, rfl⟩
        | hole hhole => exact absurd ⟨_, _, _, _, hhole, hsource⟩ hplain
      · rintro ⟨hfills, rfl⟩
        exact .char hplain (ih.mpr ⟨hfills, rfl⟩)

/-! ## Captures -/

theorem exists_captures {hs : List Hole} {texts : List (List Char)} (hfits : Fits hs texts)
    (hbuiltin : ∀ h ∈ hs, h.Builtin) :
    ∃ us, List.Forall₂ Capture.Fills hs us ∧ us.map Capture.text = texts := by
  induction hfits with
  | nil => exact ⟨[], .nil, rfl⟩
  | @cons h text hs texts htext _ ih =>
      obtain ⟨hh, hhs⟩ := List.forall_mem_cons.mp hbuiltin
      obtain ⟨us, hus, rfl⟩ := ih hhs
      obtain ⟨k, hk⟩ := hh.exists_kind
      have htakes : k.Takes text := by
        rw [hk] at htext
        exact Converter.Kind.accepts_iff.mp htext
      exact ⟨⟨h.name, k, text⟩ :: us, .cons ⟨hk, htakes⟩ hus, rfl⟩

theorem fits_of_fills {hs : List Hole} {us : List Capture}
    (h : List.Forall₂ Capture.Fills hs us) : Fits hs (us.map Capture.text) := by
  induction h with
  | nil => exact .nil
  | @cons h c hs us hfill _ ih =>
      obtain ⟨rfl, htakes⟩ := hfill
      exact .cons (Converter.Kind.accepts_iff.mpr htakes) ih

/-- The entry is what the capture is decoded to, under the name of its hole. -/
def Capture.Gives (c : Capture) (e : String × Value) : Prop := e.1 = c.name ∧ c.decoded = .ok e.2

/-- The fault of the leftmost capture that cannot be decoded. -/
inductive FirstFault : List Capture → ConversionError → Prop
  | here {c : Capture} {us : List Capture} {e : ConversionError} (hfault : c.decoded = .error e) :
      FirstFault (c :: us) e
  | later {c : Capture} {us : List Capture} {v : Value} {e : ConversionError}
      (hvalue : c.decoded = .ok v) (hrest : FirstFault us e) : FirstFault (c :: us) e

theorem firstFault_of_error {c : Capture} {us : List Capture} {fault e : ConversionError}
    (hc : c.decoded = .error fault) : FirstFault (c :: us) e ↔ fault = e := by
  constructor
  · rintro (hfault | ⟨hvalue, _⟩)
    · exact Except.error.inj (hc.symm.trans hfault)
    · cases hc.symm.trans hvalue
  · rintro rfl
    exact .here hc

theorem firstFault_of_ok {c : Capture} {us : List Capture} {v : Value} {e : ConversionError}
    (hc : c.decoded = .ok v) : FirstFault (c :: us) e ↔ FirstFault us e := by
  refine ⟨?_, .later hc⟩
  rintro (hfault | ⟨_, hrest⟩)
  · cases hc.symm.trans hfault
  · exact hrest

theorem decodeHoles_eq_ok_iff {hs : List Hole} {us : List Capture}
    (h : List.Forall₂ Capture.Fills hs us) {es : List (String × Value)} :
    decodeHoles hs (us.map Capture.text) = .ok es ↔ List.Forall₂ Capture.Gives us es := by
  induction h generalizing es with
  | nil =>
      constructor
      · intro h
        cases h
        exact .nil
      · intro h
        cases h
        rfl
  | @cons h c hs us hfill _ ih =>
      obtain ⟨rfl, _⟩ := hfill
      rw [List.map_cons, decodeHoles_cons_eq_ok_iff]
      constructor
      · rintro ⟨v, hv, es', hes, rfl⟩
        exact .cons ⟨rfl, hv⟩ (ih.mp hes)
      · intro h
        cases h with
        | @cons _ e _ es hgives hes =>
            obtain ⟨name, v⟩ := e
            obtain ⟨rfl, hv⟩ := hgives
            exact ⟨v, hv, es, ih.mpr hes, rfl⟩

theorem decodeHoles_eq_error_iff {hs : List Hole} {us : List Capture}
    (h : List.Forall₂ Capture.Fills hs us) {e : ConversionError} :
    decodeHoles hs (us.map Capture.text) = .error e ↔ FirstFault us e := by
  induction h with
  | nil =>
      constructor
      · rintro ⟨⟩
      · rintro ⟨⟩
  | @cons h c hs us hfill _ ih =>
      obtain ⟨rfl, _⟩ := hfill
      have hdecoded : c.decoded = c.kind.converter.decode (String.ofList c.text) := rfl
      simp only [List.map_cons, decodeHoles, ← hdecoded]
      cases hc : c.decoded with
      | error fault =>
          rw [firstFault_of_error hc]
          exact ⟨Except.error.inj, congrArg Except.error⟩
      | ok v =>
          rw [firstFault_of_ok hc, ← ih]
          cases decodeHoles hs (us.map Capture.text) with
          | error fault => exact Iff.rfl
          | ok es =>
              constructor
              · rintro ⟨⟩
              · rintro ⟨⟩

theorem exists_entries_iff {us : List Capture} :
    (∃ es, List.Forall₂ Capture.Gives us es) ↔ ∀ c ∈ us, ∃ v, c.decoded = .ok v := by
  induction us with
  | nil => exact iff_of_true ⟨[], .nil⟩ (by simp)
  | cons c us ih =>
      rw [List.forall_mem_cons, ← ih]
      constructor
      · rintro ⟨_, h⟩
        cases h with
        | cons hgives hes => exact ⟨⟨_, hgives.2⟩, _, hes⟩
      · rintro ⟨⟨v, hv⟩, es, hes⟩
        exact ⟨(c.name, v) :: es, .cons ⟨rfl, hv⟩ hes⟩

/-! ## Matching -/

section Match

variable {source : String} {t : Template}

/-- What is captured is a way to spell the subject. -/
theorem spells_of_capture (hc : compile .builtin source = .ok t) {subject : List Char}
    {texts : List (List Char)} (h : capture? t.pieces subject = some texts) :
    ∃ us, us.map Capture.text = texts ∧ List.Forall₂ Capture.Fills t.holes us ∧
      Spells source.toList us subject := by
  rw [capture?_eq, ← capturePieces?_atoms] at h
  obtain ⟨hfits, hass⟩ := capturePieces?_sound h
  obtain ⟨us, hus, rfl⟩ := exists_captures hfits (builtin_of_atoms? (atoms?_of_compile hc))
  refine ⟨us, rfl, ?_, (spells_iff (scans_of_compile hc)).mpr ⟨hus, hass⟩⟩
  rwa [holesOf_atoms] at hus

/-- A subject that can be spelled is captured in some way. -/
theorem capture_of_spells (hc : compile .builtin source = .ok t) {us : List Capture}
    {subject : List Char} (h : Spells source.toList us subject) :
    (capture? t.pieces subject).isSome = true := by
  obtain ⟨hus, rfl⟩ := (spells_iff (scans_of_compile hc)).mp h
  rw [capture?_eq, ← capturePieces?_atoms]
  exact capturePieces?_isSome (fits_of_fills hus)

/-- A compiled template accepts the subjects that it spells. What it captures is a way to spell
the subject, and its answer is what the captures are decoded to, one entry for each hole in
order, or the fault of the leftmost capture that cannot be decoded. -/
theorem accepts_grammar (hc : compile .builtin source = .ok t) (subject : String) :
    ((t.match? subject).isSome = true ↔ ∃ us, Spells source.toList us subject.toList) ∧
    ∀ answer, t.match? subject = some answer → ∃ us,
      capture? t.pieces subject.toList = some (us.map Capture.text) ∧
      Spells source.toList us subject.toList ∧
      (∀ ps, answer = .ok ps ↔ List.Forall₂ Capture.Gives us ps.entries) ∧
      ((∃ ps, answer = .ok ps) ↔ ∀ c ∈ us, ∃ v, c.decoded = .ok v) ∧
      ∀ e, answer = .error e ↔ FirstFault us e := by
  constructor
  · rw [match?, Option.isSome_map]
    constructor
    · intro h
      obtain ⟨texts, htexts⟩ := Option.isSome_iff_exists.mp h
      obtain ⟨us, _, _, hspells⟩ := spells_of_capture hc htexts
      exact ⟨us, hspells⟩
    · rintro ⟨us, hspells⟩
      exact capture_of_spells hc hspells
  · intro answer hanswer
    obtain ⟨texts, htexts, hdecoded⟩ := Option.map_eq_some_iff.mp hanswer
    obtain ⟨us, rfl, hfills, hspells⟩ := spells_of_capture hc htexts
    have hentries (ps : Params) : answer = .ok ps ↔ List.Forall₂ Capture.Gives us ps.entries := by
      rw [← decodeHoles_eq_ok_iff hfills]
      rw [capture?_eq] at htexts
      constructor
      · rintro rfl
        obtain ⟨texts, htexts', hes⟩ := match?_eq_ok_iff.mp hanswer
        rwa [Option.some.inj (htexts'.symm.trans htexts)] at hes
      · intro hes
        exact Option.some.inj (hanswer.symm.trans (match?_eq_ok_iff.mpr ⟨_, htexts, hes⟩))
    refine ⟨us, htexts, hspells, hentries, ?_, fun e => ?_⟩
    · rw [← exists_entries_iff]
      constructor
      · rintro ⟨ps, hps⟩
        exact ⟨ps.entries, (hentries ps).mp hps⟩
      · rintro ⟨es, hes⟩
        rw [(decodeHoles_eq_ok_iff hfills).mpr hes] at hdecoded
        exact ⟨.ofList es, hdecoded.symm⟩
    · rw [← decodeHoles_eq_error_iff hfills, ← hdecoded]
      cases decodeHoles t.holes (us.map Capture.text) with
      | error fault => exact ⟨fun h => congrArg _ (Except.error.inj h),
          fun h => congrArg _ (Except.error.inj h)⟩
      | ok es =>
          constructor
          · rintro ⟨⟩
          · rintro ⟨⟩

end Match

/-- A brace that starts no hole is text, and two holes may share digits in several ways. -/
theorem accepts_grammar_brace : ∃ t us,
    compile .builtin "/f\x7bx:float\x7d\x7by\x7d\x7bodd \x7bz:int\x7d." = .ok t ∧
    capture? t.pieces "/f1.5\x7bodd 007.".toList = some (us.map Capture.text) ∧
    Spells "/f\x7bx:float\x7d\x7by\x7d\x7bodd \x7bz:int\x7d.".toList us
      "/f1.5\x7bodd 007.".toList := by
  have hcaptured : (match compile .builtin "/f\x7bx:float\x7d\x7by\x7d\x7bodd \x7bz:int\x7d." with
      | .ok t => (capturePieces? t.pieces "/f1.5\x7bodd 007.".toList).isSome
      | .error _ => false) = true := by decide +kernel
  cases hc : compile .builtin "/f\x7bx:float\x7d\x7by\x7d\x7bodd \x7bz:int\x7d." with
  | error e =>
      rw [hc] at hcaptured
      cases hcaptured
  | ok t =>
      rw [hc] at hcaptured
      obtain ⟨texts, htexts⟩ := Option.isSome_iff_exists.mp hcaptured
      rw [← capture?_eq] at htexts
      have hmatch : t.match? "/f1.5\x7bodd 007." =
          some ((decodeHoles t.holes texts).map Params.ofList) := by rw [match?, htexts]; rfl
      obtain ⟨us, hus, hspells, _⟩ := (accepts_grammar hc _).2 _ hmatch
      exact ⟨t, us, rfl, hus, hspells⟩

end Waymark.Template
