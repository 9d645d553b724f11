import Waymark.Proofs.Template.Captures

/-!
# What a template reads

Matching a template captures texts and decodes them. `Reads` is both steps
together, for any run of pieces: the pieces use up the text and the entries
are what their holes are decoded to. It is what `match?` comes down to
(`match?_eq_ok_iff`), and it is taken apart as the captures are: pieces one
after the other read their entries from shares of the text (`Reads.split`),
and where the cut is at a slash that only the second can have, the two read
without regard to each other (`reads_append_iff`).
-/

namespace Waymark

namespace Template

/-! ## Decoding -/

theorem decodeHoles_cons_eq_ok_iff {h : Hole} {hs : List Hole} {u : List Char}
    {us : List (List Char)} {es : List (String × Value)} :
    decodeHoles (h :: hs) (u :: us) = .ok es ↔
      ∃ v, h.converter.decode (String.ofList u) = .ok v ∧
        ∃ es', decodeHoles hs us = .ok es' ∧ (h.name, v) :: es' = es := by
  simp only [decodeHoles, Except.bind_eq_ok_iff, Except.pure_eq_ok_iff]

theorem decodeHoles_append_eq_ok_iff : ∀ {hs : List Hole} {us : List (List Char)},
    hs.length = us.length → ∀ {hs' : List Hole} {us' : List (List Char)}
      {es : List (String × Value)}, decodeHoles (hs ++ hs') (us ++ us') = .ok es ↔
        ∃ as bs, decodeHoles hs us = .ok as ∧ decodeHoles hs' us' = .ok bs ∧ es = as ++ bs
  | [], [], _, hs', us', es => by
      constructor
      · intro h
        exact ⟨[], es, rfl, h, rfl⟩
      · rintro ⟨as, bs, has, hbs, rfl⟩
        cases has
        exact hbs
  | h :: hs, u :: us, hlen, hs', us', es => by
      simp only [List.cons_append, decodeHoles_cons_eq_ok_iff,
        decodeHoles_append_eq_ok_iff (Nat.succ.inj hlen)]
      constructor
      · rintro ⟨v, hv, _, ⟨as, bs, has, hbs, rfl⟩, rfl⟩
        exact ⟨_, bs, ⟨v, hv, as, has, rfl⟩, hbs, rfl⟩
      · rintro ⟨_, bs, ⟨v, hv, as, has, rfl⟩, hbs, rfl⟩
        exact ⟨v, hv, _, ⟨as, bs, has, hbs, rfl⟩, rfl⟩

theorem decodeHoles_eq_ok {hs : List Hole} : ∀ {us : List (List Char)} {es : List (String × Value)},
    hs.length = us.length → decodeHoles hs us = .ok es →
      es.map (·.1) = hs.map Hole.name ∧
      List.Forall₂ (fun h u => ∃ v, h.converter.decode (String.ofList u) = .ok v ∧
        (h.name, v) ∈ es) hs us := by
  induction hs with
  | nil =>
      intro us es hlen h
      obtain rfl := List.length_eq_zero_iff.mp hlen.symm
      cases h
      exact ⟨rfl, .nil⟩
  | cons hole hs ih =>
      intro us es hlen h
      cases us with
      | nil => cases hlen
      | cons u us =>
          obtain ⟨v, hv, es', hes, rfl⟩ := decodeHoles_cons_eq_ok_iff.mp h
          obtain ⟨hkeys, hall⟩ := ih (Nat.succ.inj hlen) hes
          refine ⟨by rw [List.map_cons, List.map_cons, hkeys], ?_⟩
          refine .cons ⟨v, hv, List.mem_cons_self ..⟩ (hall.imp ?_)
          rintro k w ⟨x, hx, hmem⟩
          exact ⟨x, hx, List.mem_cons_of_mem _ hmem⟩

theorem decodeHoles_isOk {hs : List Hole} {us : List (List Char)}
    (h : List.Forall₂ (fun h u => ∃ v, h.converter.decode (String.ofList u) = .ok v) hs us) :
    ∃ es, decodeHoles hs us = .ok es := by
  induction h with
  | nil => exact ⟨[], rfl⟩
  | @cons hole u hs us hv _ ih =>
      obtain ⟨v, hv⟩ := hv
      obtain ⟨es, hes⟩ := ih
      exact ⟨(hole.name, v) :: es, decodeHoles_cons_eq_ok_iff.mpr ⟨v, hv, es, hes, rfl⟩⟩

/-! ## Reading -/

/-- The pieces use up the text, and the entries are what their holes are decoded to. -/
def Reads (ps : List Piece) (cs : List Char) (es : List (String × Value)) : Prop :=
  ∃ us, capturePieces? ps cs = some us ∧ decodeHoles (holesOf ps) us = .ok es

theorem reads_atoms {ps : List Piece} {cs : List Char} {es : List (String × Value)} :
    Reads (atoms ps) cs es ↔ Reads ps cs es := by
  rw [Reads, Reads, capturePieces?_atoms, holesOf_atoms]

theorem Reads.names {ps : List Piece} {cs : List Char} {es : List (String × Value)}
    (h : Reads ps cs es) : es.map (·.1) = ps.filterMap Piece.name? := by
  obtain ⟨us, hus, hes⟩ := h
  rw [names_eq_map_holes]
  exact (decodeHoles_eq_ok (capturePieces?_sound hus).1.length_eq hes).1

theorem Reads.nodup {t : Template} {cs : List Char} {es : List (String × Value)}
    (h : Reads t.pieces cs es) : (es.map (·.1)).Nodup :=
  h.names ▸ t.distinct

/-- What a template reads from a subject are its captures, decoded in the order of the holes. -/
theorem match?_eq_ok_iff {t : Template} {subject : String} {ps : Params} :
    t.match? subject = some (.ok ps) ↔ Reads t.pieces subject.toList ps.entries := by
  rw [match?, capture?_eq]
  constructor
  · intro h
    obtain ⟨us, hus, h⟩ := Option.map_eq_some_iff.mp h
    refine ⟨us, hus, ?_⟩
    cases hes : decodeHoles t.holes us with
    | error e => rw [hes] at h; cases h
    | ok es =>
        rw [hes] at h
        cases h
        have hreads : Reads t.pieces subject.toList es := ⟨us, hus, hes⟩
        rw [Params.entries_ofList hreads.nodup]
        exact hes
  · rintro ⟨us, hus, hes⟩
    rw [hus, Option.map_some]
    change some ((decodeHoles (holesOf t.pieces) us).map Params.ofList) = _
    rw [hes]
    exact congrArg (fun x => some (Except.ok x)) (Params.ext (Params.entries_ofList ps.distinct))

theorem Reads.split {ps qs : List Piece} {cs : List Char} {es : List (String × Value)}
    (h : Reads (ps ++ qs) cs es) :
    ∃ a b as bs, cs = a ++ b ∧ Reads ps a as ∧ Reads qs b bs ∧ es = as ++ bs := by
  obtain ⟨ws, hws, hes⟩ := h
  obtain ⟨a, b, us, vs, rfl, ha, hb, rfl⟩ := capturePieces?_split hws
  rw [holesOf_append] at hes
  obtain ⟨as, bs, has, hbs, rfl⟩ :=
    (decodeHoles_append_eq_ok_iff (capturePieces?_sound ha).1.length_eq).mp hes
  exact ⟨a, b, as, bs, rfl, ⟨us, ha, has⟩, ⟨vs, hb, hbs⟩, rfl⟩

/-- Where only the second run of pieces can have the slash at the cut, the two read as if the
other were not there. -/
theorem reads_append_iff {ps qs : List Piece} (hfree : SlashFree ps) (hled : SlashLed qs)
    {cs : List Char} {es : List (String × Value)} :
    Reads (ps ++ qs) cs es ↔
      ∃ a b as bs, cs = a ++ b ∧ Reads ps a as ∧ Reads qs b bs ∧ es = as ++ bs := by
  refine ⟨Reads.split, ?_⟩
  rintro ⟨a, b, as, bs, rfl, ⟨us, ha, has⟩, ⟨vs, hb, hbs⟩, rfl⟩
  refine ⟨us ++ vs, (capturePieces?_append_iff hfree hled).mpr ⟨a, b, us, vs, rfl, ha, hb, rfl⟩, ?_⟩
  rw [holesOf_append]
  exact (decodeHoles_append_eq_ok_iff (capturePieces?_sound ha).1.length_eq).mpr
    ⟨as, bs, has, hbs, rfl⟩

end Template

end Waymark
