import Mathlib.Data.List.Forall2
import Waymark.Proofs.Param.Laws
import Waymark.Proofs.Pattern.Language
import Waymark.Proofs.Template.Atoms

/-!
# What a template captures

Matching takes a subject apart, and filling puts one together. Both are
described by `assemble`, the text of pieces whose holes have given texts:

- captures are texts in the languages of their holes that assemble to the
  subject (`capturePieces?_sound`), and if there are such texts at all then
  something is captured (`capturePieces?_isSome`);
- filling assembles what the values of the holes are encoded to
  (`fillPieces_eq_ok_iff`).

`capturePieces?_split` is about pieces put one after the other: the captures
of both are what each of them captures from its share of the subject. Which
share that is may depend on both of them in general. `capturePieces?_append_iff`
is the case where it does not: no hole of the first takes a slash, and the
second starts with one, so the number of slashes says where the cut is.
-/

namespace Waymark

namespace Template

/-- The text of pieces with the given texts in their holes. -/
def assemble : List Piece → List (List Char) → List Char
  | [], _ => []
  | .literal text :: ps, us => text ++ assemble ps us
  | .hole _ :: ps, us => us.headD [] ++ assemble ps us.tail

def Fits (hs : List Hole) (us : List (List Char)) : Prop :=
  List.Forall₂ (fun h u => h.pattern.Accepts u) hs us

abbrev holesOf (ps : List Piece) : List Hole := ps.filterMap Piece.hole?

@[simp] theorem holesOf_literal (text : List Char) (ps : List Piece) :
    holesOf (.literal text :: ps) = holesOf ps := List.filterMap_cons_none rfl

@[simp] theorem holesOf_hole (h : Hole) (ps : List Piece) :
    holesOf (.hole h :: ps) = h :: holesOf ps := List.filterMap_cons_some rfl

theorem holesOf_append (ps qs : List Piece) : holesOf (ps ++ qs) = holesOf ps ++ holesOf qs :=
  List.filterMap_append

theorem holesOf_atoms (ps : List Piece) : holesOf (atoms ps) = holesOf ps := holes_atoms ps

theorem assemble_append {ps : List Piece} {us : List (List Char)}
    (h : (holesOf ps).length = us.length) (qs : List Piece) (vs : List (List Char)) :
    assemble (ps ++ qs) (us ++ vs) = assemble ps us ++ assemble qs vs := by
  induction ps generalizing us with
  | nil =>
      obtain rfl := List.length_eq_zero_iff.mp h.symm
      rfl
  | cons p ps ih =>
      cases p with
      | literal text =>
          rw [holesOf_literal] at h
          simp only [List.cons_append, assemble, ih h, List.append_assoc]
      | hole hole =>
          rw [holesOf_hole] at h
          cases us with
          | nil => cases h
          | cons u us =>
              have h' : (holesOf ps).length = us.length := by simpa using h
              simp only [List.cons_append, assemble, List.headD_cons, List.tail_cons, ih h',
                List.append_assoc]

/-! ## Matching -/

theorem after?_append (text rest : List Char) : Text.after? text (text ++ rest) = some rest := by
  simp [Text.after?]

/-- Captures fit their holes and make up the subject. -/
theorem capturePieces?_sound {ps : List Piece} {cs : List Char} {us : List (List Char)}
    (h : capturePieces? ps cs = some us) : Fits (holesOf ps) us ∧ assemble ps us = cs := by
  induction ps generalizing cs us with
  | nil =>
      cases cs with
      | nil => cases h; exact ⟨.nil, rfl⟩
      | cons c cs => cases h
  | cons p ps ih =>
      cases p with
      | literal text =>
          obtain ⟨rest, hrest, h⟩ := Option.bind_eq_some_iff.mp h
          obtain ⟨hfits, hcs⟩ := ih h
          rw [holesOf_literal, assemble, hcs, Text.after?_eq_some hrest]
          exact ⟨hfits, rfl⟩
      | hole hole =>
          obtain ⟨_, n, _, hn, hcap, _⟩ := List.findSome?_eq_some_iff.mp h
          obtain ⟨vs, hvs, rfl⟩ := Option.map_eq_some_iff.mp hcap
          obtain ⟨hfits, hcs⟩ := ih hvs
          have hmem : n ∈ hole.pattern.lengths cs := by rw [hn]; simp
          rw [holesOf_hole, assemble, List.headD_cons, List.tail_cons, hcs]
          exact ⟨.cons (Pattern.mem_lengths_iff.mp hmem).2 hfits, List.take_append_drop n cs⟩

theorem capturePieces?_isSome {ps : List Piece} {us : List (List Char)}
    (h : Fits (holesOf ps) us) : (capturePieces? ps (assemble ps us)).isSome := by
  induction ps generalizing us with
  | nil => rfl
  | cons p ps ih =>
      cases p with
      | literal text =>
          rw [holesOf_literal] at h
          rw [assemble, capturePieces?, after?_append, Option.bind_some]
          exact ih h
      | hole hole =>
          rw [holesOf_hole] at h
          cases h with
          | @cons _ u _ us hu hus =>
              rw [capturePieces?, List.isSome_findSome?, List.any_eq_true, assemble]
              refine ⟨u.length, Pattern.mem_lengths_iff.mpr ⟨by simp, by simpa using hu⟩, ?_⟩
              simpa using ih hus

/-! ## Pieces one after the other -/

theorem Fits.append {hs hs' : List Hole} {us us' : List (List Char)} (h : Fits hs us)
    (h' : Fits hs' us') : Fits (hs ++ hs') (us ++ us') := List.rel_append h h'

/-- Captures from both shares of a subject are captures from the whole, of some kind. -/
theorem capturePieces?_append_isSome {ps qs : List Piece} {a b : List Char}
    {us vs : List (List Char)} (hp : capturePieces? ps a = some us)
    (hq : capturePieces? qs b = some vs) : (capturePieces? (ps ++ qs) (a ++ b)).isSome := by
  obtain ⟨hfits, rfl⟩ := capturePieces?_sound hp
  obtain ⟨hfits', rfl⟩ := capturePieces?_sound hq
  rw [← assemble_append hfits.length_eq]
  refine capturePieces?_isSome ?_
  rw [holesOf_append]
  exact hfits.append hfits'

/-- What two runs of pieces capture, each of them captures from its share. -/
theorem capturePieces?_split {ps qs : List Piece} {cs : List Char} {ws : List (List Char)}
    (h : capturePieces? (ps ++ qs) cs = some ws) :
    ∃ a b us vs, cs = a ++ b ∧ capturePieces? ps a = some us ∧ capturePieces? qs b = some vs ∧
      ws = us ++ vs := by
  induction ps generalizing cs ws with
  | nil => exact ⟨[], cs, [], ws, rfl, rfl, h, rfl⟩
  | cons p ps ih =>
      cases p with
      | literal text =>
          obtain ⟨rest, hrest, h⟩ := Option.bind_eq_some_iff.mp h
          obtain ⟨a, b, us, vs, rfl, ha, hb, rfl⟩ := ih h
          refine ⟨text ++ a, b, us, vs, ?_, ?_, hb, rfl⟩
          · rw [Text.after?_eq_some hrest, List.append_assoc]
          · rw [capturePieces?, after?_append, Option.bind_some, ha]
      | hole hole =>
          rw [List.cons_append, capturePieces?] at h
          obtain ⟨before, n, later, hn, hcap, hnone⟩ := List.findSome?_eq_some_iff.mp h
          obtain ⟨ws', hws', rfl⟩ := Option.map_eq_some_iff.mp hcap
          obtain ⟨a, b, us, vs, hab, ha, hb, rfl⟩ := ih hws'
          have hmem : n ∈ hole.pattern.lengths cs := by rw [hn]; simp
          have hle := (Pattern.mem_lengths_iff.mp hmem).1
          have hlen : (cs.take n).length = n := List.length_take_of_le hle
          have hcs : cs = (cs.take n ++ a) ++ b := by
            rw [List.append_assoc, ← hab, List.take_append_drop]
          refine ⟨cs.take n ++ a, b, cs.take n :: us, vs, hcs, ?_, hb, rfl⟩
          have htake : cs.take n ++ a = cs.take (n + a.length) := by
            rw [List.take_add, hab, List.take_left]
          -- the ways of the first hole in its share, in the order they had in the whole
          rw [htake, capturePieces?, Pattern.lengths_take, hn, List.filter_append,
            List.filter_cons_of_pos (by simp)]
          refine List.findSome?_eq_some_iff.mpr ⟨_, n, _, rfl, ?_, ?_⟩
          · rw [← htake, List.drop_left' hlen, ha, Option.map_some,
              List.take_left' hlen]
          · intro k hk
            obtain ⟨hk, hkle⟩ := List.mem_filter.mp hk
            have hfail := Option.map_eq_none_iff.mp (hnone k hk)
            rw [Option.map_eq_none_iff]
            cases hshare : capturePieces? ps ((cs.take (n + a.length)).drop k) with
            | none => rfl
            | some us' =>
                have hsome := capturePieces?_append_isSome hshare hb
                have hdrop : (cs.take (n + a.length)).drop k ++ b = cs.drop k := by
                  have hk' : k ≤ (cs.take (n + a.length)).length := by
                    rw [← htake]
                    simp only [decide_eq_true_eq] at hkle
                    simp only [List.length_append, List.length_take]
                    omega
                  conv_rhs => rw [hcs, htake]
                  rw [List.drop_append_of_le_length hk']
                rw [hdrop, hfail] at hsome
                cases hsome

/-! ## The cut at a slash -/

def SlashFree (ps : List Piece) : Prop := ∀ h ∈ holesOf ps, h.pattern.avoids '/' = true

/-- Without slashes in the holes, the literals say how many slashes there are. -/
theorem count_slash_assemble {ps : List Piece} (hfree : SlashFree ps) {us : List (List Char)}
    (h : Fits (holesOf ps) us) : (assemble ps us).count '/' = (assemble ps []).count '/' := by
  induction ps generalizing us with
  | nil => rfl
  | cons p ps ih =>
      cases p with
      | literal text =>
          rw [SlashFree, holesOf_literal] at hfree
          rw [holesOf_literal] at h
          simp only [assemble, List.count_append, ih hfree h]
      | hole hole =>
          rw [SlashFree, holesOf_hole] at hfree
          rw [holesOf_hole] at h
          cases h with
          | @cons _ u _ us hu hus =>
              have hnone : '/' ∉ u := Pattern.not_mem_of_avoids (hfree _ (List.mem_cons_self ..)) hu
              have hrest := ih (fun k hk => hfree k (List.mem_cons_of_mem _ hk)) hus
              simp only [assemble, List.headD_cons, List.tail_cons, List.count_append, hrest,
                List.count_eq_zero.mpr hnone, List.headD_nil, List.tail_nil, List.count_nil]

/-- A cut in front of a slash is known by the number of slashes before it. -/
theorem cut_unique : ∀ {a a' b b' : List Char}, a ++ b = a' ++ b' → b.head? = some '/' →
    b'.head? = some '/' → a.count '/' = a'.count '/' → a = a' ∧ b = b'
  | [], [], _, _, h, _, _, _ => ⟨rfl, h⟩
  | [], c :: a', b, b', h, hb, _, hc => by
      obtain rfl : b = (c :: a') ++ b' := h
      cases hb
      simp at hc
  | c :: a, [], b, b', h, _, hb', hc => by
      obtain rfl : (c :: a) ++ b = b' := h
      cases hb'
      simp at hc
  | c :: a, c' :: a', b, b', h, hb, hb', hc => by
      rw [List.cons_append, List.cons_append, List.cons.injEq] at h
      obtain ⟨rfl, hrest⟩ := h
      have hc' : a.count '/' = a'.count '/' := by
        simp only [List.count_cons] at hc
        omega
      obtain ⟨rfl, rfl⟩ := cut_unique hrest hb hb' hc'
      exact ⟨rfl, rfl⟩

/-- Pieces that match only texts that start with a slash. -/
def SlashLed (ps : List Piece) : Prop :=
  ∀ cs us, capturePieces? ps cs = some us → cs.head? = some '/'

theorem slashLed_literal (text : List Char) (ps : List Piece) :
    SlashLed (.literal ('/' :: text) :: ps) := by
  intro cs us h
  obtain ⟨rest, hrest, _⟩ := Option.bind_eq_some_iff.mp h
  rw [Text.after?_eq_some hrest]
  rfl

/-- Where no hole of the first pieces takes a slash and the others start with one, each of the
two captures from its share as if the other were not there. -/
theorem capturePieces?_append_iff {ps qs : List Piece} (hfree : SlashFree ps)
    (hled : SlashLed qs) {cs : List Char} {ws : List (List Char)} :
    capturePieces? (ps ++ qs) cs = some ws ↔
      ∃ a b us vs, cs = a ++ b ∧ capturePieces? ps a = some us ∧ capturePieces? qs b = some vs ∧
        ws = us ++ vs := by
  refine ⟨capturePieces?_split, ?_⟩
  rintro ⟨a, b, us, vs, rfl, ha, hb, rfl⟩
  obtain ⟨ws, hws⟩ := Option.isSome_iff_exists.mp (capturePieces?_append_isSome ha hb)
  obtain ⟨a', b', us', vs', hcs, ha', hb', rfl⟩ := capturePieces?_split hws
  have hcount : a.count '/' = a'.count '/' := by
    obtain ⟨hfits, hass⟩ := capturePieces?_sound ha
    obtain ⟨hfits', hass'⟩ := capturePieces?_sound ha'
    rw [← hass, ← hass', count_slash_assemble hfree hfits, count_slash_assemble hfree hfits']
  obtain ⟨rfl, rfl⟩ := cut_unique hcs (hled _ _ hb) (hled _ _ hb') hcount
  rw [ha] at ha'
  rw [hb] at hb'
  cases ha'
  cases hb'
  exact hws

/-! ## Filling -/

theorem fillPieces_eq_ok_iff {params : Params} {blank : Option String} {ps : List Piece}
    {text : List Char} :
    fillPieces params blank ps = .ok text ↔
      ∃ us, List.Forall₂ (fun h u => fillPiece params blank (.hole h) = .ok u) (holesOf ps) us ∧
        assemble ps us = text := by
  induction ps generalizing text with
  | nil =>
      constructor
      · intro h
        cases h
        exact ⟨[], .nil, rfl⟩
      · rintro ⟨us, _, rfl⟩
        rfl
  | cons p ps ih =>
      simp only [fillPieces, Except.bind_eq_ok_iff, Except.pure_eq_ok_iff, ih]
      cases p with
      | literal lit =>
          rw [holesOf_literal]
          constructor
          · rintro ⟨_, hlit, _, ⟨us, hus, rfl⟩, rfl⟩
            cases hlit
            exact ⟨us, hus, rfl⟩
          · rintro ⟨us, hus, rfl⟩
            exact ⟨lit, rfl, _, ⟨us, hus, rfl⟩, rfl⟩
      | hole hole =>
          rw [holesOf_hole]
          constructor
          · rintro ⟨u, hu, _, ⟨us, hus, rfl⟩, rfl⟩
            exact ⟨u :: us, .cons hu hus, rfl⟩
          · rintro ⟨_, hus, rfl⟩
            cases hus with
            | cons hu hus => exact ⟨_, hu, _, ⟨_, hus, rfl⟩, rfl⟩

end Template

end Waymark
