import Waymark.Proofs.Converter.Builtin
import Waymark.Proofs.Template.Atoms
import Waymark.Proofs.Text.Cut

/-!
# Which texts are templates

Every text has parts, but it is compiled only if each of its holes is of a
kind that is registered and has a name of its own. With the builtin converters
nothing else is needed (`exists_compile_iff`): all their patterns can be read.
What is compiled has the holes and the format that the text shows
(`names_of_mapM`, `format_of_compile`).

A slash stands in no hole, so what a text has in front of a slash and what it
has behind it can be looked at one after the other (`placeholders_append`,
`erased_append`), and slashes at the end say nothing
(`placeholders_dropTrailing`).
-/

namespace Waymark.Template

/-! ## The holes of a text -/

def Part.placeholder? : Part → Option (String × String)
  | .literal _ => none
  | .hole name kind => some (String.ofList name, String.ofList kind)

def placeholders (source : String) : List (String × String) :=
  (parts source.toList).filterMap Part.placeholder?

/-- The text with the kinds of its holes erased. -/
def erased (source : String) : String := String.ofList ((parts source.toList).flatMap Part.spelled)

/-- Each hole is of a builtin kind, and no two of them have one name. -/
structure Valid (source : String) : Prop where
  kinds : ∀ p ∈ placeholders source, Registry.builtin.contains p.2 = true
  names : ((placeholders source).map Prod.fst).Nodup

/-! ## What is compiled -/

theorem read?_builtin {kind : String} {c : Converter} (h : Registry.builtin.get? kind = some c) :
    (Pattern.read? c.pattern).isSome = true := by
  rcases Registry.builtin_get? h with rfl | rfl | rfl | rfl | rfl
  · rw [Converter.read?_str]; rfl
  · rw [Converter.read?_path]; rfl
  · rw [Converter.read?_int]; rfl
  · rw [Converter.read?_float]; rfl
  · rw [Converter.read?_uuid]; rfl

theorem isSome_piece_iff (p : Part) : (Piece.of? .builtin p).isSome = true ↔
    ∀ e, p.placeholder? = some e → Registry.builtin.contains e.2 = true := by
  cases p with
  | literal text => simp [Piece.of?, Part.placeholder?]
  | hole name kind =>
      simp only [Piece.of?, Part.placeholder?, Option.some.injEq, forall_eq', Registry.contains]
      cases hget : Registry.builtin.get? (String.ofList kind) with
      | none => simp
      | some c =>
          obtain ⟨pattern, hpattern⟩ := Option.isSome_iff_exists.mp (read?_builtin hget)
          simp [hpattern]

theorem mapM_isSome_iff (ps : List Part) : (ps.mapM (Piece.of? .builtin)).isSome = true ↔
    ∀ e ∈ ps.filterMap Part.placeholder?, Registry.builtin.contains e.2 = true := by
  induction ps with
  | nil => simp
  | cons p ps ih =>
      have hcons : (List.mapM (Piece.of? .builtin) (p :: ps)).isSome = true ↔
          (Piece.of? .builtin p).isSome = true ∧ (ps.mapM (Piece.of? .builtin)).isSome = true := by
        rw [List.mapM_cons]
        cases Piece.of? .builtin p with
        | none => simp
        | some q => cases ps.mapM (Piece.of? .builtin) <;> simp
      rw [hcons, ih, isSome_piece_iff]
      cases hp : p.placeholder? with
      | none => rw [List.filterMap_cons_none hp]; simp
      | some e => rw [List.filterMap_cons_some hp, List.forall_mem_cons]; simp

section Pieces

variable {registry : Registry}

theorem piece_of? {p : Part} {q : Piece} (h : Piece.of? registry p = some q) :
    q.name? = p.placeholder?.map Prod.fst ∧ q.format = p.spelled := by
  cases p with
  | literal text =>
      cases h
      exact ⟨rfl, rfl⟩
  | hole name kind =>
      obtain ⟨c, _, h⟩ := Option.bind_eq_some_iff.mp h
      obtain ⟨pattern, _, h⟩ := Option.bind_eq_some_iff.mp h
      cases h
      refine ⟨rfl, ?_⟩
      rw [Piece.format, Part.spelled, String.toList_ofList]

theorem names_of_mapM {ps : List Part} {qs : List Piece}
    (h : ps.mapM (Piece.of? registry) = some qs) :
    qs.filterMap Piece.name? = (ps.filterMap Part.placeholder?).map Prod.fst ∧
      qs.flatMap Piece.format = ps.flatMap Part.spelled := by
  induction ps generalizing qs with
  | nil =>
      cases h
      exact ⟨rfl, rfl⟩
  | cons p ps ih =>
      rw [List.mapM_cons] at h
      obtain ⟨q, hq, h⟩ := Option.bind_eq_some_iff.mp h
      obtain ⟨qs', hqs', h⟩ := Option.bind_eq_some_iff.mp h
      cases h
      obtain ⟨hnames, hformat⟩ := ih hqs'
      obtain ⟨hname, hspelled⟩ := piece_of? hq
      rw [List.flatMap_cons, List.flatMap_cons, hspelled, hformat]
      refine ⟨?_, rfl⟩
      cases hp : p.placeholder? with
      | none =>
          rw [hp] at hname
          rw [List.filterMap_cons_none hname, List.filterMap_cons_none hp, hnames]
      | some e =>
          rw [hp] at hname
          rw [List.filterMap_cons_some hname, List.filterMap_cons_some hp, hnames, List.map_cons]

theorem format_of_compile {source : String} {t : Template}
    (h : compile registry source = .ok t) : t.format = erased source := by
  obtain ⟨_, hpieces⟩ := compile_eq_ok_iff.mp h
  rw [format, erased, (names_of_mapM hpieces).2]

end Pieces

/-- With the builtin converters just the valid texts are compiled. -/
theorem exists_compile_iff {source : String} :
    (∃ t, compile .builtin source = .ok t) ↔ Valid source := by
  constructor
  · rintro ⟨t, ht⟩
    obtain ⟨_, hpieces⟩ := compile_eq_ok_iff.mp ht
    refine ⟨(mapM_isSome_iff _).mp (by rw [hpieces]; rfl), ?_⟩
    have hnames := (names_of_mapM hpieces).1
    rw [placeholders, ← hnames]
    exact t.distinct
  · rintro ⟨hkinds, hnodup⟩
    obtain ⟨ps, hps⟩ := Option.isSome_iff_exists.mp ((mapM_isSome_iff _).mpr hkinds)
    rw [placeholders, ← (names_of_mapM hps).1] at hnodup
    exact ⟨⟨source, ps, hnodup⟩, compile_eq_ok_iff.mpr ⟨rfl, hps⟩⟩

/-! ## Texts put together -/

theorem placeholder?_atoms (ps : List Part) :
    (ps.flatMap Part.atoms).filterMap Part.placeholder? = ps.filterMap Part.placeholder? := by
  induction ps with
  | nil => rfl
  | cons p ps ih =>
      rw [List.flatMap_cons, List.filterMap_append, ih]
      cases p with
      | literal text =>
          have hnone : (Part.atoms (.literal text)).filterMap Part.placeholder? = [] := by
            simp [Part.atoms, List.filterMap_map, Function.comp_def, Part.placeholder?]
          rw [hnone, List.filterMap_cons_none rfl, List.nil_append]
      | hole name kind => rfl

theorem spelled_atoms (ps : List Part) :
    (ps.flatMap Part.atoms).flatMap Part.spelled = ps.flatMap Part.spelled := by
  induction ps with
  | nil => rfl
  | cons p ps ih =>
      rw [List.flatMap_cons, List.flatMap_append, ih, List.flatMap_cons]
      cases p with
      | literal text =>
          have htext : (Part.atoms (.literal text)).flatMap Part.spelled = text := by
            simp [Part.atoms, List.flatMap_map, Part.spelled]
          rw [htext]
          rfl
      | hole name kind => simp [Part.atoms]

theorem placeholders_append (a : String) {b : String} (hb : b.toList.head? = some '/') :
    placeholders (a ++ b) = placeholders a ++ placeholders b := by
  unfold placeholders
  rw [String.toList_append, ← placeholder?_atoms, parts_append hb, List.filterMap_append,
    placeholder?_atoms, placeholder?_atoms]

theorem erased_append (a : String) {b : String} (hb : b.toList.head? = some '/') :
    erased (a ++ b) = erased a ++ erased b := by
  unfold erased
  rw [String.toList_append, ← spelled_atoms, parts_append hb, List.flatMap_append,
    spelled_atoms, spelled_atoms, String.ofList_append]

theorem placeholders_of_slashes {cs : List Char} (h : ∀ c ∈ cs, (c == '/') = true) :
    (parts cs).filterMap Part.placeholder? = [] := by
  induction cs with
  | nil => simp [parts]
  | cons c cs ih =>
      obtain ⟨hc, hcs⟩ := List.forall_mem_cons.mp h
      rw [eq_of_beq hc, parts, if_neg (by decide), ← placeholder?_atoms, atoms_consChar,
        List.filterMap_cons_none rfl, placeholder?_atoms, ih hcs]

theorem placeholders_dropTrailing (source : String) :
    placeholders (Text.dropTrailing '/' source) = placeholders source := by
  obtain ⟨ds, hds, hall⟩ := Text.exists_trimmed (· == '/') source.toList
  have hsource : source = Text.dropTrailing '/' source ++ String.ofList ds := by
    rw [← String.toList_inj, String.toList_append, Text.dropTrailing, String.toList_ofList,
      String.toList_ofList]
    exact hds
  cases ds with
  | nil =>
      have hnil : String.ofList [] = "" := rfl
      rw [hnil, String.append_empty] at hsource
      exact congrArg placeholders hsource.symm
  | cons d ds =>
      have hhead : (String.ofList (d :: ds)).toList.head? = some '/' := by
        rw [String.toList_ofList, eq_of_beq (hall d (List.mem_cons_self ..))]
        rfl
      have hbehind : placeholders (String.ofList (d :: ds)) = [] := by
        rw [placeholders, String.toList_ofList, placeholders_of_slashes hall]
      have happend := placeholders_append (Text.dropTrailing '/' source) hhead
      rw [← hsource, hbehind, List.append_nil] at happend
      exact happend.symm

/-! ## Prefixes of mounts -/

theorem placeholders_rest : placeholders "/\x7bpath:path\x7d" = [("path", "path")] := by
  decide +kernel

theorem erased_rest : erased "/\x7bpath:path\x7d" = "/\x7bpath\x7d" := by decide +kernel

/-- A prefix can be mounted if it is valid and leaves the name of the rest free. -/
theorem exists_compile_prefix_iff {path : String} :
    (∃ t, compile .builtin (Text.dropTrailing '/' path ++ "/\x7bpath:path\x7d") = .ok t) ↔
      Valid path ∧ "path" ∉ (placeholders path).map Prod.fst := by
  have hall : placeholders (Text.dropTrailing '/' path ++ "/\x7bpath:path\x7d") =
      placeholders path ++ [("path", "path")] := by
    rw [placeholders_append _ rfl, placeholders_dropTrailing, placeholders_rest]
  have hpath : Registry.builtin.contains "path" = true := by decide
  rw [exists_compile_iff]
  constructor
  · rintro ⟨hkinds, hnodup⟩
    rw [hall] at hkinds hnodup
    rw [List.map_append, List.map_singleton, List.nodup_append] at hnodup
    refine ⟨⟨fun p hp => hkinds p (List.mem_append_left _ hp), hnodup.1⟩, fun hin => ?_⟩
    exact hnodup.2.2 _ hin _ (List.mem_singleton_self _) rfl
  · rintro ⟨⟨hkinds, hnodup⟩, hfree⟩
    refine ⟨?_, ?_⟩
    · rw [hall, List.forall_mem_append]
      exact ⟨hkinds, fun p hp => List.mem_singleton.mp hp ▸ hpath⟩
    · rw [hall, List.map_append, List.map_singleton, List.nodup_append]
      refine ⟨hnodup, List.pairwise_singleton _ _, fun a ha b hb heq => hfree ?_⟩
      rw [← show a = "path" from heq.trans (List.mem_singleton.mp hb)]
      exact ha

end Waymark.Template
