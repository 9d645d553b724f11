import Mathlib.Data.List.Basic
import Waymark.Proofs.Except
import Waymark.Proofs.Text.Cut
import Waymark.Template.Filling
import Waymark.Template.Matching

/-!
# Templates put together

The template of a mount is its prefix with a tail behind it, and mounting one
path below another puts two templates together. Compiling does not quite
commute with that: where the two meet, a literal at the end of the first and
one at the front of the second become one. So templates are compared by their
*atoms*, in which each character of a literal stands by itself. What a
template captures and how it is filled depends on its atoms only
(`capturePieces?_atoms`, `fillPieces_atoms`), and behind a slash the atoms of
a template are simply appended (`atoms?_append`): a slash is in no hole, so no
hole of the first part can be left open for the second to close.

`compile_eq_ok_iff` says what compiling does with the parts of a text, and
`compile_of_atoms?` that nothing but a name used twice stands in the way once
every part is understood.
-/

namespace Waymark

namespace Template

/-! ## Atoms -/

end Template

/-- The piece with each character of a literal by itself. -/
def Piece.atoms : Piece → List Piece
  | .literal text => text.map fun c => .literal [c]
  | .hole h => [.hole h]

def Template.Part.atoms : Template.Part → List Template.Part
  | .literal text => text.map fun c => .literal [c]
  | .hole name kind => [.hole name kind]

namespace Template

def atoms (ps : List Piece) : List Piece := ps.flatMap Piece.atoms

theorem atoms_literal (text : List Char) (ps : List Piece) :
    atoms (.literal text :: ps) = (text.map fun c => .literal [c]) ++ atoms ps := rfl

theorem atoms_hole (h : Hole) (ps : List Piece) :
    atoms (.hole h :: ps) = .hole h :: atoms ps := rfl

theorem after?_nil (cs : List Char) : Text.after? [] cs = some cs := by
  simp [Text.after?]

theorem after?_cons (c : Char) (text cs : List Char) :
    Text.after? (c :: text) cs = (Text.after? [c] cs).bind (Text.after? text) := by
  cases cs with
  | nil => rfl
  | cons d ds =>
      by_cases h : c = d
      · subst h
        simp [Text.after?]
      · simp [Text.after?, h]

theorem capturePieces?_atoms (ps : List Piece) (cs : List Char) :
    capturePieces? (atoms ps) cs = capturePieces? ps cs := by
  induction ps generalizing cs with
  | nil => rfl
  | cons p ps ih =>
      cases p with
      | hole h => simp only [atoms_hole, capturePieces?, ih]
      | literal text =>
          rw [atoms_literal]
          induction text generalizing cs with
          | nil => simp [capturePieces?, after?_nil, ih]
          | cons c text ihtext =>
              have hrest : capturePieces? (.literal (c :: text) :: ps) cs =
                  (Text.after? [c] cs).bind (capturePieces? (.literal text :: ps)) := by
                simp only [capturePieces?, after?_cons c text, Option.bind_assoc]
              rw [hrest, List.map_cons, List.cons_append, capturePieces?]
              exact congrArg _ (funext ihtext)

theorem fillPieces_atoms (params : Params) (blank : Option String) (ps : List Piece) :
    fillPieces params blank (atoms ps) = fillPieces params blank ps := by
  induction ps with
  | nil => rfl
  | cons p ps ih =>
      cases p with
      | hole h => simp only [atoms_hole, fillPieces, ih]
      | literal text =>
          rw [atoms_literal]
          induction text with
          | nil =>
              simp only [List.map_nil, List.nil_append, ih, fillPieces, fillPiece]
              cases fillPieces params blank ps <;> rfl
          | cons c text ihtext =>
              rw [List.map_cons, List.cons_append, fillPieces, ihtext]
              simp only [fillPieces, fillPiece]
              cases fillPieces params blank ps <;> rfl

theorem holes_atoms (ps : List Piece) :
    (atoms ps).filterMap Piece.hole? = ps.filterMap Piece.hole? := by
  induction ps with
  | nil => rfl
  | cons p ps ih =>
      cases p with
      | hole h => simp [atoms_hole, ih, Piece.hole?]
      | literal text =>
          have hnone : (text.map fun c => Piece.literal [c]).filterMap Piece.hole? = [] := by
            simp [List.filterMap_map, Function.comp_def, Piece.hole?]
          rw [atoms_literal, List.filterMap_append, hnone, ih, List.filterMap_cons_none rfl,
            List.nil_append]

theorem names_eq_map_holes (ps : List Piece) :
    ps.filterMap Piece.name? = (ps.filterMap Piece.hole?).map Hole.name := by
  induction ps with
  | nil => rfl
  | cons p ps ih =>
      cases p with
      | literal text => rw [List.filterMap_cons_none rfl, List.filterMap_cons_none rfl, ih]
      | hole h =>
          rw [List.filterMap_cons_some (f := Piece.name?) rfl,
            List.filterMap_cons_some (f := Piece.hole?) rfl, ih, List.map_cons]

theorem names_atoms (ps : List Piece) :
    (atoms ps).filterMap Piece.name? = ps.filterMap Piece.name? := by
  rw [names_eq_map_holes, names_eq_map_holes, holes_atoms]

/-! ## Parts of a text with a slash -/

/-- A slash ends a name. -/
theorem readName?_behind_slash {b : List Char} (hb : b.head? = some '/') (a : List Char) :
    readName? (a ++ b) = (readName? a).map fun (name, rest) => (name, rest ++ b) := by
  have hstop : ∀ c ∈ b.head?, isNameChar c = false := by
    rw [hb]
    rintro c ⟨⟩
    decide
  cases a with
  | nil =>
      obtain ⟨rest, rfl⟩ := List.head?_eq_some_iff.mp hb
      rfl
  | cons c a =>
      simp only [List.cons_append, readName?, Text.takeWhile_append_stop hstop,
        Text.dropWhile_append_stop hstop]
      split <;> rfl

/-- A slash stands in no hole. -/
theorem readHole?_behind_slash {b : List Char} (hb : b.head? = some '/') (a : List Char) :
    readHole? (a ++ b) = (readHole? a).map fun (name, kind, rest) => (name, kind, rest ++ b) := by
  obtain ⟨tail, rfl⟩ := List.head?_eq_some_iff.mp hb
  have hname := readName?_behind_slash hb
  unfold readHole?
  rw [hname]
  cases readName? a with
  | none => rfl
  | some found =>
      obtain ⟨name, rest⟩ := found
      cases rest with
      | nil => rfl
      | cons c rest =>
          by_cases hc : c = '\x7d'
          · subst hc
            rfl
          · by_cases hc' : c = ':'
            · subst hc'
              simp only [Option.map_some, List.cons_append]
              rw [hname]
              cases readName? rest with
              | none => rfl
              | some found =>
                  obtain ⟨kind, rest⟩ := found
                  cases rest with
                  | nil => rfl
                  | cons d rest =>
                      by_cases hd : d = '\x7d'
                      · subst hd
                        rfl
                      · simp [hd]
            · simp [hc, hc']

theorem atoms_consChar (c : Char) (ps : List Part) :
    (consChar c ps).flatMap Part.atoms = .literal [c] :: ps.flatMap Part.atoms := by
  unfold consChar
  split <;> simp [Part.atoms]

/-- A slash starts parts of its own, but for the literal that it may stand in. -/
theorem parts_append {b : List Char} (hb : b.head? = some '/') : ∀ a : List Char,
    (parts (a ++ b)).flatMap Part.atoms =
      (parts a).flatMap Part.atoms ++ (parts b).flatMap Part.atoms
  | [] => by simp [parts]
  | c :: a => by
      have hchar : (consChar c (parts (a ++ b))).flatMap Part.atoms =
          (consChar c (parts a)).flatMap Part.atoms ++ (parts b).flatMap Part.atoms := by
        rw [atoms_consChar, atoms_consChar, parts_append hb a, List.cons_append]
      rw [List.cons_append, parts, parts]
      by_cases hc : c = '\x7b'
      · rw [if_pos hc, if_pos hc]
        have happ := readHole?_behind_slash hb a
        cases hh : readHole? a with
        | none =>
            rw [hh] at happ
            split
            · simp_all
            · exact hchar
        | some found =>
            obtain ⟨name, kind, rest⟩ := found
            rw [hh] at happ
            have hlen := readHole?_length hh
            split
            · rename_i n k r heq
              obtain ⟨rfl, rfl, rfl⟩ : n = name ∧ k = kind ∧ r = rest ++ b := by simp_all
              rw [List.flatMap_cons, parts_append hb rest]
              simp_all
            · simp_all
      · rw [if_neg hc, if_neg hc]
        exact hchar
  termination_by a => a.length

/-! ## Compiling -/

end Template

/-- What a part becomes: a hole gets the converter of its kind, and that converter's pattern. -/
def Piece.of? (registry : Registry) : Template.Part → Option Piece
  | .literal text => some (.literal text)
  | .hole name kind => do
    let converter ← registry.get? (String.ofList kind)
    let pattern ← Pattern.read? converter.pattern
    return .hole ⟨String.ofList name, converter, pattern⟩

namespace Template

theorem mapM_of_bind {registry : Registry} {source : String} {ps : List Part}
    {seen : List String} {bs : List Bound} {qs : List Piece}
    (hb : bind registry source seen ps = .ok bs) (hq : readPatterns? bs = some qs) :
    ps.mapM (Piece.of? registry) = some qs := by
  induction ps generalizing seen bs qs with
  | nil =>
      cases hb
      exact hq
  | cons p ps ih =>
      cases p with
      | literal text =>
          simp only [bind] at hb
          obtain ⟨rest, hrest, hb⟩ := Except.bind_eq_ok_iff.mp hb
          cases hb
          obtain ⟨qs', hqs', rfl⟩ := Option.map_eq_some_iff.mp hq
          rw [List.mapM_cons, ih hrest hqs']
          rfl
      | hole name kind =>
          simp only [bind] at hb
          split at hb
          case h_2 => cases hb
          rename_i converter hconv
          split at hb
          · cases hb
          · obtain ⟨rest, hrest, hb⟩ := Except.bind_eq_ok_iff.mp hb
            cases hb
            obtain ⟨pattern, hpat, hq⟩ := Option.bind_eq_some_iff.mp hq
            obtain ⟨qs', hqs', hq⟩ := Option.bind_eq_some_iff.mp hq
            cases hq
            rw [List.mapM_cons, ih hrest hqs']
            simp [Piece.of?, hconv, hpat]

theorem bind_of_mapM {registry : Registry} (source : String) {ps : List Part}
    {seen : List String} {qs : List Piece} (h : ps.mapM (Piece.of? registry) = some qs)
    (hn : (qs.filterMap Piece.name?).Nodup) (hs : ∀ n ∈ qs.filterMap Piece.name?, n ∉ seen) :
    ∃ bs, bind registry source seen ps = .ok bs ∧ readPatterns? bs = some qs := by
  induction ps generalizing seen qs with
  | nil =>
      cases h
      exact ⟨[], rfl, rfl⟩
  | cons p ps ih =>
      rw [List.mapM_cons] at h
      obtain ⟨q, hq, h⟩ := Option.bind_eq_some_iff.mp h
      obtain ⟨qs', hqs', h⟩ := Option.bind_eq_some_iff.mp h
      cases h
      cases p with
      | literal text =>
          cases hq
          rw [List.filterMap_cons_none rfl] at hn hs
          obtain ⟨bs, hb, hr⟩ := ih hqs' hn hs
          exact ⟨.literal text :: bs, by simp only [bind, hb]; rfl,
            by simp only [readPatterns?, hr, Option.map_some]⟩
      | hole name kind =>
          obtain ⟨converter, hconv, hq⟩ := Option.bind_eq_some_iff.mp hq
          obtain ⟨pattern, hpat, hq⟩ := Option.bind_eq_some_iff.mp hq
          cases hq
          rw [List.filterMap_cons_some (f := Piece.name?) rfl] at hn hs
          obtain ⟨hnew, hn⟩ := List.nodup_cons.mp hn
          have hfree := hs _ (List.mem_cons_self ..)
          obtain ⟨bs, hb, hr⟩ := @ih (String.ofList name :: seen) qs' hqs' hn
            (fun n hin => by
              rw [List.mem_cons, not_or]
              exact ⟨fun heq => hnew (heq ▸ hin), hs n (List.mem_cons_of_mem _ hin)⟩)
          refine ⟨.hole (String.ofList name) converter :: bs, ?_, ?_⟩
          · simp only [bind, hconv, hb]
            rw [if_neg hfree]
            rfl
          · simp only [readPatterns?, hpat, hr]
            rfl

/-- A text compiles to what its parts become, provided that no name is used twice. -/
theorem compile_eq_ok_iff {registry : Registry} {source : String} {t : Template} :
    compile registry source = .ok t ↔
      t.source = source ∧ (parts source.toList).mapM (Piece.of? registry) = some t.pieces := by
  constructor
  · intro h
    unfold compile at h
    split at h
    · cases h
    · rename_i bounds hb
      split at h
      · cases h
      · rename_i pieces hp
        cases h
        exact ⟨rfl, mapM_of_bind hb hp⟩
  · rintro ⟨rfl, h⟩
    obtain ⟨bs, hb, hr⟩ := @bind_of_mapM registry t.source _ [] _ h t.distinct (by simp)
    unfold compile
    split
    · rename_i e he
      rw [hb] at he
      cases he
    · rename_i bounds hbounds
      rw [hb] at hbounds
      cases hbounds
      split
      · rename_i hnone
        rw [hr] at hnone
        cases hnone
      · rename_i pieces hp
        rw [hr] at hp
        cases hp
        rfl

def atoms? (registry : Registry) (cs : List Char) : Option (List Piece) :=
  ((parts cs).mapM (Piece.of? registry)).map atoms

/-- The atoms of the pieces are what the atoms of the parts become. -/
theorem atoms?_eq_mapM (registry : Registry) (cs : List Char) :
    atoms? registry cs = ((parts cs).flatMap Part.atoms).mapM (Piece.of? registry) := by
  unfold atoms?
  induction parts cs with
  | nil => rfl
  | cons p ps ih =>
      have hp : (Part.atoms p).mapM (Piece.of? registry) =
          (Piece.of? registry p).map Piece.atoms := by
        cases p with
        | hole name kind =>
            simp only [Part.atoms, List.mapM_cons, List.mapM_nil, Piece.of?]
            cases registry.get? (String.ofList kind) with
            | none => rfl
            | some converter =>
                cases hp : Pattern.read? converter.pattern with
                | none => simp [hp]
                | some pattern =>
                    simp only [Option.bind_eq_bind, Option.bind_some, hp]
                    rfl
        | literal text =>
            simp only [Part.atoms, Piece.of?, Option.map_some, Piece.atoms]
            induction text with
            | nil => rfl
            | cons c text ihtext => rw [List.map_cons, List.mapM_cons, ihtext]; rfl
      rw [List.mapM_cons, List.flatMap_cons, List.mapM_append, ← ih, hp]
      cases Piece.of? registry p with
      | none => rfl
      | some q => cases ps.mapM (Piece.of? registry) <;> rfl

theorem atoms?_append (registry : Registry) (a : List Char) {b : List Char}
    (hb : b.head? = some '/') :
    atoms? registry (a ++ b) =
      (atoms? registry a).bind fun as => (atoms? registry b).map (as ++ ·) := by
  rw [atoms?_eq_mapM, parts_append hb, List.mapM_append, ← atoms?_eq_mapM, ← atoms?_eq_mapM]
  cases atoms? registry a with
  | none => rfl
  | some as => cases atoms? registry b <;> rfl

theorem atoms?_of_compile {registry : Registry} {source : String} {t : Template}
    (h : compile registry source = .ok t) :
    atoms? registry source.toList = some (atoms t.pieces) := by
  rw [atoms?, (compile_eq_ok_iff.mp h).2, Option.map_some]

theorem compile_of_atoms? {registry : Registry} {source : String} {as : List Piece}
    (h : atoms? registry source.toList = some as) (hn : (as.filterMap Piece.name?).Nodup) :
    ∃ t, compile registry source = .ok t ∧ atoms t.pieces = as := by
  obtain ⟨ps, hps, rfl⟩ := Option.map_eq_some_iff.mp h
  rw [names_atoms] at hn
  exact ⟨⟨source, ps, hn⟩, compile_eq_ok_iff.mpr ⟨rfl, hps⟩, rfl⟩

/-! ## Atoms and the text they are from -/

theorem readHole?_suffix {cs name kind rest : List Char}
    (h : readHole? cs = some (name, kind, rest)) : ∃ lead, cs = lead ++ rest := by
  unfold readHole? at h
  split at h
  · rename_i n r hn
    cases h
    exact ⟨name ++ ['\x7d'], by simp [readName?_append hn]⟩
  · rename_i n r hn
    split at h
    · rename_i k r' hk
      cases h
      exact ⟨name ++ ':' :: kind ++ ['\x7d'], by simp [readName?_append hn, readName?_append hk]⟩
    · cases h
  · cases h

/-- The first atom of a text is its first character, or a hole with some more of the text. -/
theorem atoms?_cons {registry : Registry} {c : Char} {cs : List Char} {as : List Piece}
    (h : atoms? registry (c :: cs) = some as) :
    (∃ as', atoms? registry cs = some as' ∧ as = .literal [c] :: as') ∨
      ∃ hole lead rest as', cs = lead ++ rest ∧ atoms? registry rest = some as' ∧
        as = .hole hole :: as' := by
  have hchar (hp : parts (c :: cs) = consChar c (parts cs)) :
      ∃ as', atoms? registry cs = some as' ∧ as = .literal [c] :: as' := by
    rw [atoms?_eq_mapM, hp, atoms_consChar, List.mapM_cons, ← atoms?_eq_mapM] at h
    obtain ⟨q, hq, h⟩ := Option.bind_eq_some_iff.mp h
    obtain ⟨as', has', h⟩ := Option.bind_eq_some_iff.mp h
    cases hq
    cases h
    exact ⟨as', has', rfl⟩
  by_cases hc : c = '\x7b'
  · cases hh : readHole? cs with
    | none => exact Or.inl (hchar (by rw [parts, if_pos hc]; split <;> simp_all))
    | some found =>
        obtain ⟨name, kind, rest⟩ := found
        have hp : parts (c :: cs) = .hole name kind :: parts rest := by
          rw [parts, if_pos hc]
          split <;> simp_all
        obtain ⟨lead, hlead⟩ := readHole?_suffix hh
        rw [atoms?, hp, List.mapM_cons] at h
        obtain ⟨ps, hps, rfl⟩ := Option.map_eq_some_iff.mp h
        obtain ⟨q, hq, hps⟩ := Option.bind_eq_some_iff.mp hps
        obtain ⟨qs, hqs, hps⟩ := Option.bind_eq_some_iff.mp hps
        cases hps
        obtain ⟨converter, hconv, hq⟩ := Option.bind_eq_some_iff.mp hq
        obtain ⟨pattern, hpat, hq⟩ := Option.bind_eq_some_iff.mp hq
        cases hq
        exact Or.inr ⟨_, lead, rest, atoms qs, hlead, by rw [atoms?, hqs]; rfl, rfl⟩
  · exact Or.inl (hchar (by rw [parts, if_neg hc]))

@[simp] theorem atoms?_nil (registry : Registry) : atoms? registry [] = some [] := by
  rw [atoms?, parts]
  rfl

theorem atoms?_slash {registry : Registry} {cs : List Char} {as : List Piece}
    (h : atoms? registry ('/' :: cs) = some as) : ∃ as', as = .literal ['/'] :: as' := by
  rw [atoms?_eq_mapM, parts, if_neg (by decide), atoms_consChar, List.mapM_cons] at h
  obtain ⟨q, hq, h⟩ := Option.bind_eq_some_iff.mp h
  obtain ⟨as', _, h⟩ := Option.bind_eq_some_iff.mp h
  cases hq
  cases h
  exact ⟨as', rfl⟩

theorem mem_of_literal_mem {registry : Registry} : ∀ {cs : List Char} {as : List Piece},
    atoms? registry cs = some as → ∀ {t : List Char}, .literal t ∈ as → ∃ c ∈ cs, t = [c]
  | [], as, h, t, ht => by
      rw [atoms?_nil] at h
      cases h
      simp at ht
  | c :: cs, as, h, t, ht => by
      rcases atoms?_cons h with ⟨as', h', rfl⟩ | ⟨hole, lead, rest, as', rfl, h', rfl⟩
      · rcases List.mem_cons.mp ht with heq | ht
        · cases heq
          exact ⟨c, List.mem_cons_self .., rfl⟩
        · obtain ⟨d, hd, rfl⟩ := mem_of_literal_mem h' ht
          exact ⟨d, List.mem_cons_of_mem _ hd, rfl⟩
      · have ht' := (List.mem_cons.mp ht).resolve_left (by simp)
        obtain ⟨d, hd, rfl⟩ := mem_of_literal_mem h' ht'
        exact ⟨d, List.mem_cons_of_mem _ (List.mem_append_right _ hd), rfl⟩
  termination_by cs => cs.length

theorem getLast?_of_literal {registry : Registry} : ∀ {cs : List Char} {as : List Piece},
    atoms? registry cs = some as → ∀ {t : List Char}, as.getLast? = some (.literal t) →
      ∃ c, cs.getLast? = some c ∧ t = [c]
  | [], as, h, t, ht => by
      rw [atoms?_nil] at h
      cases h
      simp at ht
  | c :: cs, as, h, t, ht => by
      rcases atoms?_cons h with ⟨as', h', rfl⟩ | ⟨hole, lead, rest, as', rfl, h', rfl⟩
      · cases as' with
        | nil =>
            cases cs with
            | nil =>
                cases ht
                exact ⟨c, rfl, rfl⟩
            | cons d cs =>
                rcases atoms?_cons h' with ⟨_, _, heq⟩ | ⟨_, _, _, _, _, _, heq⟩ <;> cases heq
        | cons a as' =>
            rw [List.getLast?_cons_cons] at ht
            obtain ⟨d, hd, rfl⟩ := getLast?_of_literal h' ht
            exact ⟨d, by rw [List.getLast?_cons, hd]; rfl, rfl⟩
      · cases as' with
        | nil => cases ht
        | cons a as' =>
            rw [List.getLast?_cons_cons] at ht
            obtain ⟨d, hd, rfl⟩ := getLast?_of_literal h' ht
            exact ⟨d, by rw [← List.cons_append, List.getLast?_append, hd]; rfl, rfl⟩
  termination_by cs => cs.length

end Template

end Waymark
