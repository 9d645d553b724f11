import Waymark.Proofs.Converter.Builtin
import Waymark.Proofs.Template.Reading
import Waymark.Template.Filling

/-!
# Reading and filling

Over the builtin converters a template that is filled with what it read is the
subject again (`fillPieces_of_reads`), and a template that is filled reads the
text back in the way it was filled (`reads_of_fill`). The first holds for any
template, as long as digits were not padded with zeros. The second needs that
the text says where each value ends: a value is followed by a slash, which it
cannot have itself, or by the end (`Delimited`).
-/

namespace Waymark

/-- No value of the parameters is a text with a line feed. -/
def Params.InLine (params : Params) : Prop :=
  ∀ k s, params.get? k = some (.str s) → '\n' ∉ s.toList

theorem Params.InLine.text {params : Params} (h : params.InLine) {k : String} {v : Value}
    (hv : params.get? k = some v) : '\n' ∉ v.text.toList :=
  Value.line_text fun s hs => h k s (hs ▸ hv)

/-- Among the entries the hole has what its converter makes of the text that it writes for the
parameter. -/
def Hole.Regains (h : Hole) (params : Params) (es : List (String × Value)) : Prop :=
  ∃ v t w, params.get? h.name = some v ∧ h.converter.encode v = .ok t ∧
    h.converter.decode t = .ok w ∧ (h.name, w) ∈ es

namespace Template

theorem builtin_of_atoms? {cs : List Char} {as : List Piece}
    (h : atoms? .builtin cs = some as) : ∀ hole ∈ holesOf as, hole.Builtin := by
  obtain ⟨ps, hps, rfl⟩ := Option.map_eq_some_iff.mp h
  rw [holesOf_atoms]
  generalize parts cs = xs at hps
  clear h
  induction xs generalizing ps with
  | nil =>
      cases hps
      simp
  | cons x xs ih =>
      rw [List.mapM_cons] at hps
      obtain ⟨p, hp, hps⟩ := Option.bind_eq_some_iff.mp hps
      obtain ⟨ps', hps', hps⟩ := Option.bind_eq_some_iff.mp hps
      cases hps
      cases x with
      | literal text =>
          cases hp
          rw [holesOf_literal]
          exact ih ps' hps'
      | hole name kind =>
          obtain ⟨converter, hconv, hp⟩ := Option.bind_eq_some_iff.mp hp
          obtain ⟨pattern, hpat, hp⟩ := Option.bind_eq_some_iff.mp hp
          cases hp
          rw [holesOf_hole]
          intro hole hmem
          rcases List.mem_cons.mp hmem with rfl | hmem
          · exact Hole.builtin_of_get? hconv hpat
          · exact ih ps' hps' hole hmem

theorem builtin_of_compile {source : String} {t : Template}
    (h : compile .builtin source = .ok t) : ∀ hole ∈ t.holes, hole.Builtin := by
  have hat := builtin_of_atoms? (atoms?_of_compile h)
  rwa [holesOf_atoms] at hat

theorem fill_eq_ok_restrict_iff {t : Template} {params rest : Params} {blank : Option String}
    {text : String} : t.fill params blank = .ok (text, rest) ↔
      fillPieces params blank t.pieces = .ok text.toList ∧
        rest = params.restrict fun name => !t.names.contains name && blank != some name := by
  rw [fill, Except.bind_eq_ok_iff]
  constructor
  · rintro ⟨cs, hcs, hrest⟩
    cases hrest
    exact ⟨by rw [hcs, String.toList_ofList], rfl⟩
  · rintro ⟨hcs, rfl⟩
    exact ⟨_, hcs, by rw [String.ofList_toList]; rfl⟩

/-! ## Filling with what was read -/

/-- No text that a template takes for an `int` has a redundant zero in front. -/
def Unpadded (ps : List Piece) (cs : List Char) : Prop :=
  ∀ us, capture? ps cs = some us → ∀ p ∈ (holesOf ps).zip us,
    p.1.converter = Converter.int → p.2 = ['0'] ∨ p.2.head? ≠ some '0'

theorem unpadded_atoms {ps : List Piece} {cs : List Char} :
    Unpadded (atoms ps) cs ↔ Unpadded ps cs := by
  simp only [Unpadded, capture?_eq, capturePieces?_atoms, holesOf_atoms]

/-- The first pieces take from their share what they take of the whole. -/
theorem Unpadded.of_append {ps qs : List Piece} (hfree : SlashFree ps) (hled : SlashLed qs)
    {a b : List Char} (h : Unpadded (ps ++ qs) (a ++ b)) {vs : List (List Char)}
    (hb : capturePieces? qs b = some vs) : Unpadded ps a := by
  intro us hus p hp
  rw [capture?_eq] at hus
  have hboth : capture? (ps ++ qs) (a ++ b) = some (us ++ vs) := by
    rw [capture?_eq]
    exact (capturePieces?_append_iff hfree hled).mpr ⟨a, b, us, vs, rfl, hus, hb, rfl⟩
  refine h _ hboth p ?_
  rw [holesOf_append, List.zip_append (capturePieces?_sound hus).1.length_eq]
  exact List.mem_append_left _ hp

theorem fillPiece_hole {params : Params} {blank : Option String} {h : Hole} {v : Value}
    {t : String} (hblank : blank ≠ some h.name) (hget : params.get? h.name = some v)
    (ht : h.converter.encode v = .ok t) :
    fillPiece params blank (.hole h) = .ok t.toList := by
  rw [fillPiece, if_neg hblank, hget]
  simp only [ht]
  rfl

/-- Filling the holes with what they were read as gives the subject again. -/
theorem fillPieces_of_reads {ps : List Piece} {cs : List Char} {es : List (String × Value)}
    (hbuiltin : ∀ h ∈ holesOf ps, h.Builtin ∧ h.converter ≠ Converter.float)
    (hreads : Reads ps cs es) (hpadded : Unpadded ps cs) {params : Params}
    (hparams : ∀ e ∈ es, params.get? e.1 = some e.2) {blank : Option String}
    (hblank : ∀ h ∈ holesOf ps, blank ≠ some h.name) :
    fillPieces params blank ps = .ok cs := by
  obtain ⟨us, hus, hes⟩ := hreads
  obtain ⟨hfits, hass⟩ := capturePieces?_sound hus
  have hdecoded := (decodeHoles_eq_ok hfits.length_eq hes).2
  refine fillPieces_eq_ok_iff.mpr ⟨us, ?_, hass⟩
  rw [List.forall₂_iff_zip]
  refine ⟨hfits.length_eq, fun {h u} hmem => ?_⟩
  have hhole := (List.of_mem_zip hmem).1
  obtain ⟨v, hv, hin⟩ := (List.forall₂_iff_zip.mp hdecoded).2 hmem
  have haccepts := (List.forall₂_iff_zip.mp hfits).2 hmem
  have hint := hpadded us (by rw [capture?_eq]; exact hus) (h, u) hmem
  obtain ⟨hb, hfloat⟩ := hbuiltin h hhole
  have hencode := hb.encode_of_decode hfloat haccepts hint hv
  rw [fillPiece_hole (hblank h hhole) (hparams _ hin) hencode, String.toList_ofList]

theorem fillPieces_append_eq_ok_iff {params : Params} {blank : Option String}
    {ps qs : List Piece} {text : List Char} :
    fillPieces params blank (ps ++ qs) = .ok text ↔
      ∃ a b, fillPieces params blank ps = .ok a ∧ fillPieces params blank qs = .ok b ∧
        text = a ++ b := by
  simp only [fillPieces_eq_ok_iff, holesOf_append]
  constructor
  · rintro ⟨ws, hws, rfl⟩
    have hus := (List.forall₂_take_append _ _ _ hws.flip).flip
    have hvs := (List.forall₂_drop_append _ _ _ hws.flip).flip
    have hass := assemble_append hus.length_eq qs (ws.drop (holesOf ps).length)
    rw [List.take_append_drop] at hass
    exact ⟨_, _, ⟨_, hus, rfl⟩, ⟨_, hvs, rfl⟩, hass⟩
  · rintro ⟨_, _, ⟨us, hus, rfl⟩, ⟨vs, hvs, rfl⟩, rfl⟩
    exact ⟨us ++ vs, List.rel_append hus hvs, assemble_append hus.length_eq qs vs⟩

/-! ## Reading what was filled -/

/-- Where each value ends can be seen in the text: behind a hole stands a slash, or nothing. A
hole that may take slashes itself has nothing behind it. -/
def Delimited : List Piece → Prop
  | [] => True
  | .literal _ :: ps => Delimited ps
  | .hole h :: ps => (ps = [] ∨ h.converter ≠ Converter.path ∧
      ∃ text qs, ps = .literal ('/' :: text) :: qs) ∧ Delimited ps

theorem delimited_atoms : ∀ {ps : List Piece}, Delimited ps → Delimited (atoms ps)
  | [], _ => trivial
  | .literal text :: ps, h => by
      have hps : Delimited (atoms ps) := delimited_atoms h
      rw [atoms_literal]
      clear h
      induction text with
      | nil => exact hps
      | cons c text ih => exact ih
  | .hole hole :: ps, h => by
      obtain ⟨hend, h⟩ := h
      rw [atoms_hole]
      refine ⟨?_, delimited_atoms h⟩
      rcases hend with rfl | ⟨hpath, text, qs, rfl⟩
      · exact Or.inl rfl
      · exact Or.inr ⟨hpath, [], _, rfl⟩

theorem Delimited.of_append : ∀ {ps qs : List Piece}, Delimited (ps ++ qs) → Delimited ps
  | [], _, _ => trivial
  | .literal _ :: ps, qs, h => by
      have hps : Delimited (ps ++ qs) := h
      exact hps.of_append
  | .hole hole :: ps, qs, h => by
      obtain ⟨hend, h⟩ := h
      refine ⟨?_, h.of_append⟩
      cases ps with
      | nil => exact Or.inl rfl
      | cons p ps =>
          rcases hend with hnil | ⟨hpath, text, rs, heq⟩
          · cases hnil
          · obtain ⟨rfl, rfl⟩ := List.cons.inj heq
            exact Or.inr ⟨hpath, text, ps, rfl⟩

theorem Delimited.ne_path : ∀ {ps qs : List Piece}, Delimited (ps ++ qs) → qs ≠ [] →
    ∀ h ∈ holesOf ps, h.converter ≠ Converter.path
  | [], _, _, _ => by simp
  | .literal _ :: ps, qs, h, hqs => by
      have hps : Delimited (ps ++ qs) := h
      rw [holesOf_literal]
      exact hps.ne_path hqs
  | .hole hole :: ps, qs, h, hqs => by
      obtain ⟨hend, h⟩ := h
      rw [holesOf_hole]
      intro k hk
      rcases List.mem_cons.mp hk with rfl | hk
      · rcases hend with hnil | ⟨hpath, _⟩
        · exact absurd (List.append_eq_nil_iff.mp hnil).2 hqs
        · exact hpath
      · exact h.ne_path hqs k hk

/-- Delimited values are the only ones that give their text. -/
theorem fits_unique : ∀ {ps : List Piece} {us vs : List (List Char)}, Delimited ps →
    (∀ h ∈ holesOf ps, h.Builtin) → Fits (holesOf ps) us → Fits (holesOf ps) vs →
    assemble ps us = assemble ps vs → us = vs
  | [], _, _, _, _, hus, hvs, _ => by
      cases hus
      cases hvs
      rfl
  | .literal text :: ps, us, vs, hd, hb, hus, hvs, heq => by
      have hps : Delimited ps := hd
      rw [holesOf_literal] at hb hus hvs
      exact fits_unique hps hb hus hvs (List.append_cancel_left heq)
  | .hole h :: ps, _, _, ⟨hend, hd⟩, hb, hus, hvs, heq => by
      rw [holesOf_hole] at hb hus hvs
      cases hus with
      | @cons _ u _ us hu hus =>
          cases hvs with
          | @cons _ v _ vs hv hvs =>
              simp only [assemble, List.headD_cons, List.tail_cons] at heq
              have hrest := fun heq => fits_unique hd
                (fun k hk => hb k (List.mem_cons_of_mem _ hk)) hus hvs heq
              rcases hend with rfl | ⟨hpath, text, qs, rfl⟩
              · simp only [assemble, List.append_nil] at heq
                rw [heq, hrest rfl]
              · have havoids := (hb h (List.mem_cons_self ..)).avoids_slash hpath
                have hcount : u.count '/' = v.count '/' := by
                  rw [List.count_eq_zero.mpr (Pattern.not_mem_of_avoids havoids hu),
                    List.count_eq_zero.mpr (Pattern.not_mem_of_avoids havoids hv)]
                obtain ⟨rfl, htail⟩ := cut_unique heq rfl rfl hcount
                rw [hrest htail]

/-- Where all holes are covered, each of them is filled with what its converter writes. -/
theorem texts_of_fill {params : Params} {blank : Option String} {ps : List Piece}
    {text : List Char}
    (hcovered : ∀ h ∈ holesOf ps, blank ≠ some h.name ∧ params.contains h.name = true)
    (hfill : fillPieces params blank ps = .ok text) :
    ∃ us, List.Forall₂ (fun h u => ∃ v t, params.get? h.name = some v ∧
      h.converter.encode v = .ok t ∧ u = t.toList) (holesOf ps) us ∧ assemble ps us = text := by
  obtain ⟨us, hus, hass⟩ := fillPieces_eq_ok_iff.mp hfill
  refine ⟨us, ?_, hass⟩
  rw [List.forall₂_iff_zip]
  refine ⟨hus.length_eq, fun {h u} hmem => ?_⟩
  obtain ⟨hblank, hcontains⟩ := hcovered h (List.of_mem_zip hmem).1
  obtain ⟨v, hv⟩ := Option.isSome_iff_exists.mp hcontains
  have hpiece := (List.forall₂_iff_zip.mp hus).2 hmem
  rw [fillPiece, if_neg hblank, hv] at hpiece
  cases ht : h.converter.encode v with
  | error e =>
      simp only [ht] at hpiece
      cases hpiece
  | ok t =>
      simp only [ht] at hpiece
      exact ⟨v, t, hv, ht, (Except.ok.inj hpiece).symm⟩

/-- A filled template reads its text back: each hole gets the text that was written for it. -/
theorem reads_of_fill_paths {params : Params} {blank : Option String} {ps : List Piece}
    {text : List Char} (hd : Delimited ps)
    (hbuiltin : ∀ h ∈ holesOf ps, h.Builtin ∧ h.converter ≠ Converter.float)
    (hcovered : ∀ h ∈ holesOf ps, blank ≠ some h.name ∧ params.contains h.name = true)
    (hline : ∀ h ∈ holesOf ps, h.converter = Converter.path → ∀ v, params.get? h.name = some v →
      '\n' ∉ v.text.toList) (hfill : fillPieces params blank ps = .ok text) :
    ∃ es, Reads ps text es ∧ ∀ h ∈ holesOf ps, h.Regains params es := by
  obtain ⟨us, hus, rfl⟩ := texts_of_fill hcovered hfill
  have htaken : List.Forall₂ (fun h u => h.pattern.Accepts u ∧
      ∃ w, h.converter.decode (String.ofList u) = .ok w) (holesOf ps) us := by
    rw [List.forall₂_iff_zip]
    refine ⟨hus.length_eq, fun {h u} hmem => ?_⟩
    obtain ⟨v, t, hv, ht, rfl⟩ := (List.forall₂_iff_zip.mp hus).2 hmem
    have hhole := (List.of_mem_zip hmem).1
    obtain ⟨hb, hfloat⟩ := hbuiltin h hhole
    rw [String.ofList_toList]
    exact hb.accepts_of_encode hfloat ht fun hpath =>
      hb.line_of_encode hfloat ht (hline h hhole hpath v hv)
  have hfits : Fits (holesOf ps) us := htaken.imp fun _ _ h => h.1
  obtain ⟨es, hes⟩ := decodeHoles_isOk (htaken.imp fun _ _ h => h.2)
  -- something is captured from the text, and there is but one way to take it apart
  obtain ⟨us', hus'⟩ := Option.isSome_iff_exists.mp (capturePieces?_isSome hfits)
  obtain ⟨hfits', hass⟩ := capturePieces?_sound hus'
  obtain rfl := fits_unique hd (fun h hmem => (hbuiltin h hmem).1) hfits' hfits hass
  refine ⟨es, ⟨us', hus', hes⟩, fun h hmem => ?_⟩
  have hdecoded := (decodeHoles_eq_ok hfits.length_eq hes).2
  obtain ⟨i, hi, rfl⟩ := List.mem_iff_getElem.mp hmem
  obtain ⟨v, t, hv, ht, heq⟩ := hus.get hi (hus.length_eq ▸ hi)
  obtain ⟨w, hw, hin⟩ := hdecoded.get hi (hus.length_eq ▸ hi)
  refine ⟨v, t, w, hv, ht, ?_, hin⟩
  rwa [heq, String.ofList_toList] at hw

theorem reads_of_fill {params : Params} {blank : Option String} {ps : List Piece}
    {text : List Char} (hd : Delimited ps)
    (hbuiltin : ∀ h ∈ holesOf ps, h.Builtin ∧ h.converter ≠ Converter.float)
    (hcovered : ∀ h ∈ holesOf ps, blank ≠ some h.name ∧ params.contains h.name = true)
    (hline : params.InLine) (hfill : fillPieces params blank ps = .ok text) :
    ∃ es, Reads ps text es ∧ ∀ h ∈ holesOf ps, h.Regains params es :=
  reads_of_fill_paths hd hbuiltin hcovered (fun _ _ _ _ hv => hline.text hv) hfill

theorem mem_assemble {c : Char} : ∀ {ps : List Piece} {us : List (List Char)},
    c ∈ assemble ps us → (∃ t, .literal t ∈ ps ∧ c ∈ t) ∨ ∃ u ∈ us, c ∈ u
  | [], _, h => by cases h
  | .literal text :: ps, us, h => by
      rcases List.mem_append.mp h with h | h
      · exact Or.inl ⟨text, List.mem_cons_self .., h⟩
      · rcases mem_assemble h with ⟨t, ht, hc⟩ | hu
        · exact Or.inl ⟨t, List.mem_cons_of_mem _ ht, hc⟩
        · exact Or.inr hu
  | .hole hole :: ps, [], h => by
      have hps : c ∈ assemble ps [] := h
      rcases mem_assemble hps with ⟨t, ht, hc⟩ | hu
      · exact Or.inl ⟨t, List.mem_cons_of_mem _ ht, hc⟩
      · exact Or.inr hu
  | .hole hole :: ps, u :: us, h => by
      rcases List.mem_append.mp h with h | h
      · exact Or.inr ⟨u, List.mem_cons_self .., h⟩
      · rcases mem_assemble h with ⟨t, ht, hc⟩ | ⟨v, hv, hc⟩
        · exact Or.inl ⟨t, List.mem_cons_of_mem _ ht, hc⟩
        · exact Or.inr ⟨v, List.mem_cons_of_mem _ hv, hc⟩

theorem line_of_fill {params : Params} {blank : Option String} {ps : List Piece}
    {text : List Char} (hliteral : ∀ t, .literal t ∈ ps → '\n' ∉ t)
    (hbuiltin : ∀ h ∈ holesOf ps, h.Builtin ∧ h.converter ≠ Converter.float)
    (hcovered : ∀ h ∈ holesOf ps, blank ≠ some h.name ∧ params.contains h.name = true)
    (hline : params.InLine) (hfill : fillPieces params blank ps = .ok text) : '\n' ∉ text := by
  obtain ⟨us, hus, rfl⟩ := texts_of_fill hcovered hfill
  intro h
  rcases mem_assemble h with ⟨t, ht, hc⟩ | ⟨u, hu, hc⟩
  · exact hliteral t ht hc
  · obtain ⟨i, hi, rfl⟩ := List.mem_iff_getElem.mp hu
    have hi' : i < (holesOf ps).length := hus.length_eq ▸ hi
    obtain ⟨v, t, hv, ht, heq⟩ := hus.get hi' hi
    obtain ⟨hb, hfloat⟩ := hbuiltin _ (List.get_mem _ ⟨i, hi'⟩)
    refine hb.line_of_encode hfloat ht (hline.text hv) ?_
    rw [← heq]
    exact hc

/-! ## The end of a filled text -/

theorem getLast?_assemble : ∀ {ps : List Piece} {us : List (List Char)}, ps ≠ [] →
    Fits (holesOf ps) us →
    (∀ h ∈ holesOf ps, ∀ u, h.pattern.Accepts u → ∃ c, u.getLast? = some c ∧ c ≠ '/') →
    (∀ t, ps.getLast? = some (.literal t) → ∃ c, t.getLast? = some c ∧ c ≠ '/') →
    ∃ c, (assemble ps us).getLast? = some c ∧ c ≠ '/'
  | [], _, hne, _, _, _ => absurd rfl hne
  | [.literal t], us, _, _, _, hliteral => by
      rw [assemble, assemble, List.append_nil]
      exact hliteral t rfl
  | [.hole h], us, _, hfits, hholes, _ => by
      rw [holesOf_hole] at hfits hholes
      cases hfits with
      | @cons _ u _ us hu _ =>
          rw [assemble, assemble, List.append_nil, List.headD_cons]
          exact hholes h (List.mem_cons_self ..) u hu
  | .literal t :: p :: ps, us, _, hfits, hholes, hliteral => by
      rw [holesOf_literal] at hfits hholes
      rw [List.getLast?_cons_cons] at hliteral
      obtain ⟨c, hc, hslash⟩ := getLast?_assemble (List.cons_ne_nil p ps) hfits hholes hliteral
      exact ⟨c, by rw [assemble, List.getLast?_append, hc]; rfl, hslash⟩
  | .hole h :: p :: ps, us, _, hfits, hholes, hliteral => by
      rw [holesOf_hole] at hfits hholes
      rw [List.getLast?_cons_cons] at hliteral
      cases hfits with
      | @cons _ u _ us hu hus =>
          obtain ⟨c, hc, hslash⟩ := getLast?_assemble (List.cons_ne_nil p ps) hus
            (fun k hk => hholes k (List.mem_cons_of_mem _ hk)) hliteral
          refine ⟨c, ?_, hslash⟩
          rw [assemble, List.tail_cons, List.getLast?_append, hc]
          rfl

end Template

/-- A builtin hole other than `path` takes no text that is empty or ends with a slash. -/
theorem Hole.Builtin.getLast?_of_accepts {h : Hole} (hb : h.Builtin)
    (hpath : h.converter ≠ Converter.path) {u : List Char} (hu : h.pattern.Accepts u) :
    ∃ c, u.getLast? = some c ∧ c ≠ '/' := by
  have hne : u ≠ [] := by
    rintro rfl
    revert hu
    cases hb with
    | path => exact absurd rfl hpath
    | str => exact (by decide : ¬ 0 ∈ Converter.segmentPattern.lengths [])
    | int => exact (by decide : ¬ 0 ∈ Converter.digitsPattern.lengths [])
    | float => exact (by decide : ¬ 0 ∈ Converter.decimalPattern.lengths [])
    | uuid => exact (by decide : ¬ 0 ∈ Converter.uuidPattern.lengths [])
  have hslash := Pattern.not_mem_of_avoids (hb.avoids_slash hpath) hu
  refine ⟨u.getLast hne, List.getLast?_eq_some_getLast hne, fun heq => hslash ?_⟩
  exact heq ▸ List.getLast_mem hne

end Waymark
