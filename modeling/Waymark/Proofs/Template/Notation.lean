import Waymark.Proofs.Converter.Kinds
import Waymark.Proofs.Template.Captures

/-!
# How holes are written

`HoleText` says which texts are holes, without reading from left to right. No
hole has a brace inside, so a hole is one wherever it stands
(`HoleText.unique`), and what a text is compiled to can be followed from its
front: either a hole stands there (`atoms?_hole`), or its first character is
text (`atoms?_char`). `Scans` puts the two together into a judgment, so that
what is said of all compiled texts is proved by induction on it.
-/

namespace Waymark.Template

/-- A letter or an underscore, and then letters, digits and underscores. -/
structure IsName (cs : List Char) : Prop where
  first : ∃ c ∈ cs.head?, isNameStart c = true
  chars : ∀ c ∈ cs, isNameChar c = true

/-- The written forms of a hole, by its name and its kind. -/
inductive HoleText : List Char → List Char → List Char → Prop
  | plain {name : List Char} (hname : IsName name) :
      HoleText ('\x7b' :: (name ++ ['\x7d'])) name defaultKind
  | kinded {name kind : List Char} (hname : IsName name) (hkind : IsName kind) :
      HoleText ('\x7b' :: (name ++ ':' :: (kind ++ ['\x7d']))) name kind

def StartsHole (cs : List Char) : Prop :=
  ∃ u name kind rest, HoleText u name kind ∧ cs = u ++ rest

/-! ## Reading a hole -/

theorem readName?_eq_some_iff {cs name rest : List Char} :
    readName? cs = some (name, rest) ↔
      IsName name ∧ cs = name ++ rest ∧ ∀ c ∈ rest.head?, isNameChar c = false := by
  constructor
  · intro h
    have happend := readName?_append h
    cases cs with
    | nil => cases h
    | cons c cs =>
        rw [readName?] at h
        split at h
        · rename_i hstart
          cases h
          refine ⟨⟨⟨c, rfl, hstart⟩, List.forall_mem_cons.mpr ⟨?_, ?_⟩⟩, happend, ?_⟩
          · rw [isNameChar, hstart, Bool.true_or]
          · exact fun d hd => List.mem_takeWhile_imp hd
          · intro d hd
            have hnot := List.head?_dropWhile_not isNameChar cs
            rw [Option.mem_def.mp hd] at hnot
            simpa using hnot
        · cases h
  · rintro ⟨⟨⟨c, hc, hstart⟩, hchars⟩, rfl, hstop⟩
    obtain ⟨tail, rfl⟩ := List.head?_eq_some_iff.mp hc
    obtain ⟨_, htail⟩ := List.forall_mem_cons.mp hchars
    rw [List.cons_append, readName?, if_pos hstart, Text.takeWhile_append_stop hstop,
      Text.dropWhile_append_stop hstop, List.takeWhile_eq_self_iff.mpr htail,
      List.dropWhile_eq_nil_iff.mpr htail, List.nil_append]

theorem readHole?_eq_some_iff {cs name kind rest : List Char} :
    readHole? cs = some (name, kind, rest) ↔
      ∃ u, HoleText ('\x7b' :: u) name kind ∧ cs = u ++ rest := by
  constructor
  · intro h
    unfold readHole? at h
    split at h
    · rename_i n r hn
      cases h
      obtain ⟨hname, rfl, _⟩ := readName?_eq_some_iff.mp hn
      exact ⟨_, .plain hname, by simp⟩
    · rename_i n r hn
      split at h
      · rename_i k r' hk
        cases h
        obtain ⟨hname, rfl, _⟩ := readName?_eq_some_iff.mp hn
        obtain ⟨hkind, rfl, _⟩ := readName?_eq_some_iff.mp hk
        exact ⟨_, .kinded hname hkind, by simp⟩
      · cases h
    · cases h
  · rintro ⟨u, hu, rfl⟩
    generalize hv : '\x7b' :: u = v at hu
    cases hu with
    | plain hname =>
        obtain rfl := (List.cons.inj hv).2
        have hread : readName? (name ++ ['\x7d'] ++ rest) = some (name, '\x7d' :: rest) :=
          readName?_eq_some_iff.mpr ⟨hname, by simp, by simp; decide⟩
        simp only [readHole?, hread]
    | kinded hname hkind =>
        obtain rfl := (List.cons.inj hv).2
        have hread : readName? (name ++ ':' :: (kind ++ ['\x7d']) ++ rest) =
            some (name, ':' :: (kind ++ '\x7d' :: rest)) :=
          readName?_eq_some_iff.mpr ⟨hname, by simp, by simp; decide⟩
        have hread' : readName? (kind ++ '\x7d' :: rest) = some (kind, '\x7d' :: rest) :=
          readName?_eq_some_iff.mpr ⟨hkind, rfl, by simp; decide⟩
        simp only [readHole?, hread, hread']

namespace HoleText

variable {u name kind : List Char}

theorem eq_cons (h : HoleText u name kind) : ∃ v, u = '\x7b' :: v := by
  cases h <;> exact ⟨_, rfl⟩

theorem isName (h : HoleText u name kind) : IsName name := by
  cases h <;> assumption

theorem unique (h : HoleText u name kind) {u' name' kind' rest rest' : List Char}
    (h' : HoleText u' name' kind') (heq : u ++ rest = u' ++ rest') :
    name = name' ∧ kind = kind' ∧ rest = rest' := by
  obtain ⟨v, rfl⟩ := h.eq_cons
  obtain ⟨v', rfl⟩ := h'.eq_cons
  have hread : readHole? (v ++ rest) = some (name, kind, rest) :=
    readHole?_eq_some_iff.mpr ⟨v, h, rfl⟩
  have hread' : readHole? (v' ++ rest') = some (name', kind', rest') :=
    readHole?_eq_some_iff.mpr ⟨v', h', rfl⟩
  have htail : v ++ rest = v' ++ rest' := (List.cons.inj heq).2
  rw [htail, hread'] at hread
  cases hread
  exact ⟨rfl, rfl, rfl⟩

/-- The brace at the front of a hole is the only one of its kind. -/
theorem brace_not_mem_tail (h : HoleText u name kind) : '\x7b' ∉ u.tail := by
  have hname {cs : List Char} (h : IsName cs) : '\x7b' ∉ cs := by
    intro hmem
    have := h.chars _ hmem
    revert this
    decide
  cases h with
  | plain hn => simpa using hname hn
  | kinded hn hk => simpa using ⟨hname hn, hname hk⟩

theorem behind (h : HoleText u name kind) {u' name' kind' before rest after : List Char}
    (h' : HoleText u' name' kind') (hbefore : before ≠ [])
    (heq : u ++ rest = before ++ (u' ++ after)) : ∃ between, rest = between ++ (u' ++ after) := by
  rcases List.append_eq_append_iff.mp heq with ⟨z, rfl, hrest⟩ | ⟨z, rfl, hrest⟩
  · exact ⟨z, hrest⟩
  · cases z with
    | nil => exact ⟨[], hrest.symm⟩
    | cons c z =>
        obtain ⟨v, rfl⟩ := h'.eq_cons
        obtain rfl : '\x7b' = c := (List.cons.inj hrest).1
        refine absurd ?_ h.brace_not_mem_tail
        rw [List.tail_append_of_ne_nil hbefore]
        simp

end HoleText

/-! ## What holes and characters are compiled to -/

theorem parts_hole {u name kind : List Char} (h : HoleText u name kind) (rest : List Char) :
    parts (u ++ rest) = .hole name kind :: parts rest := by
  obtain ⟨v, rfl⟩ := h.eq_cons
  have hread : readHole? (v ++ rest) = some (name, kind, rest) :=
    readHole?_eq_some_iff.mpr ⟨v, h, rfl⟩
  rw [List.cons_append, parts, if_pos rfl]
  split <;> simp_all

theorem parts_char {c : Char} {cs : List Char} (h : ¬ StartsHole (c :: cs)) :
    parts (c :: cs) = consChar c (parts cs) := by
  rw [parts]
  split
  · rename_i hc
    subst hc
    split
    · rename_i name kind rest hread
      obtain ⟨u, hu, rfl⟩ := readHole?_eq_some_iff.mp hread
      exact absurd ⟨_, name, kind, rest, hu, rfl⟩ h
    · rfl
  · rfl

theorem atoms?_hole {registry : Registry} {u name kind rest : List Char}
    (h : HoleText u name kind) {as : List Piece} (has : atoms? registry (u ++ rest) = some as) :
    ∃ (converter : Converter) (pattern : Pattern) (as' : List Piece),
      registry.get? (String.ofList kind) = some converter ∧
      Pattern.read? converter.pattern = some pattern ∧
      as = .hole ⟨String.ofList name, converter, pattern⟩ :: as' ∧
      atoms? registry rest = some as' := by
  rw [atoms?_eq_mapM, parts_hole h, List.flatMap_cons, Part.atoms, List.singleton_append,
    List.mapM_cons] at has
  obtain ⟨piece, hpiece, has⟩ := Option.bind_eq_some_iff.mp has
  obtain ⟨as', has', has⟩ := Option.bind_eq_some_iff.mp has
  cases has
  obtain ⟨converter, hconverter, hpiece⟩ := Option.bind_eq_some_iff.mp hpiece
  obtain ⟨pattern, hpattern, hpiece⟩ := Option.bind_eq_some_iff.mp hpiece
  cases hpiece
  exact ⟨converter, pattern, as', hconverter, hpattern, rfl, by rw [atoms?_eq_mapM]; exact has'⟩

theorem atoms?_char {registry : Registry} {c : Char} {cs : List Char}
    (h : ¬ StartsHole (c :: cs)) {as : List Piece} (has : atoms? registry (c :: cs) = some as) :
    ∃ as', as = .literal [c] :: as' ∧ atoms? registry cs = some as' := by
  rw [atoms?_eq_mapM, parts_char h, atoms_consChar, List.mapM_cons] at has
  obtain ⟨piece, hpiece, has⟩ := Option.bind_eq_some_iff.mp has
  obtain ⟨as', has', has⟩ := Option.bind_eq_some_iff.mp has
  cases hpiece
  cases has
  exact ⟨as', rfl, by rw [atoms?_eq_mapM]; exact has'⟩

/-- What a text is compiled to, from its front: a hole, or a character where no hole stands. -/
inductive Scans : List Char → List Piece → Prop
  | done : Scans [] []
  | hole {u name kind cs : List Char} {k : Converter.Kind} {as : List Piece}
      (hhole : HoleText u name kind) (hkind : k.name = String.ofList kind) (hrest : Scans cs as) :
      Scans (u ++ cs) (.hole ⟨String.ofList name, k.converter, k.pattern⟩ :: as)
  | char {c : Char} {cs : List Char} {as : List Piece} (hplain : ¬ StartsHole (c :: cs))
      (hrest : Scans cs as) : Scans (c :: cs) (.literal [c] :: as)

theorem scans_of_atoms? : ∀ {cs : List Char} {as : List Piece}, atoms? .builtin cs = some as →
    Scans cs as
  | [], as, has => by
      obtain rfl : [] = as := Option.some.inj ((atoms?_nil _).symm.trans has)
      exact .done
  | c :: cs, as, has => by
      by_cases hstart : StartsHole (c :: cs)
      · obtain ⟨u, name, kind, rest, hhole, hcs⟩ := hstart
        have hlen : rest.length ≤ cs.length := by
          obtain ⟨v, rfl⟩ := hhole.eq_cons
          rw [(List.cons.inj hcs).2]
          simp
        rw [hcs] at has ⊢
        obtain ⟨converter, pattern, as', hconverter, hpattern, rfl, has'⟩ := atoms?_hole hhole has
        obtain ⟨k, hkind, rfl⟩ := Converter.kind_of_get? hconverter
        obtain rfl := Option.some.inj (hpattern.symm.trans k.read?_pattern)
        exact .hole hhole hkind (scans_of_atoms? has')
      · obtain ⟨as', rfl, has'⟩ := atoms?_char hstart has
        exact .char hstart (scans_of_atoms? has')
  termination_by cs => cs.length
  decreasing_by
    all_goals
      simp only [List.length_cons]
      omega

theorem scans_of_compile {source : String} {t : Template}
    (hc : compile .builtin source = .ok t) : Scans source.toList (atoms t.pieces) :=
  scans_of_atoms? (atoms?_of_compile hc)

end Waymark.Template
