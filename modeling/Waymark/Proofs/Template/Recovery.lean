import Waymark.Proofs.Converter.Inverse
import Waymark.Proofs.Template.Notation
import Waymark.Proofs.Template.Refilling

/-!
# Values that come back

A template that is filled and matched again gives its values back
(`recovers`), and one that is matched can be filled with what came out
(`extracted_put_back`). The first asks of the written template that each hole
ends at a slash or at the end of the text (`Recoverable`), and nothing of the
values: `Delimited`, which is what `reads_of_fill_paths` needs, can be read
off the written template (`recoverable_iff`). The second holds for every
template, but for numbers that are too large for a `float`.
-/

namespace Waymark

namespace Template

/-! ## Written templates whose holes are delimited -/

/-- No hole is a `float`, and behind each of them stands a slash or nothing; a `path` has nothing
behind it. -/
def Recoverable (source : List Char) : Prop :=
  ∀ before u name kind after, HoleText u name kind → source = before ++ (u ++ after) →
    kind ≠ "float".toList ∧ (after = [] ∨ kind ≠ "path".toList ∧ after.head? = some '/')

theorem Recoverable.of_append {a b : List Char} (h : Recoverable (a ++ b)) : Recoverable b := by
  intro before u name kind after hhole heq
  exact h (a ++ before) u name kind after hhole (by rw [heq, List.append_assoc])

/-- A kind is told from its name as from its converter. -/
theorem kind_ne_iff {k l : Converter.Kind} {kind : List Char} (h : k.name = String.ofList kind) :
    kind ≠ l.name.toList ↔ k.converter ≠ l.converter := by
  refine not_congr ⟨?_, fun hconverter => ?_⟩
  · rintro rfl
    rw [String.ofList_toList] at h
    rw [Converter.Kind.name_injective h]
  · obtain rfl := Converter.Kind.converter_injective hconverter
    rw [h, String.toList_ofList]

/-- What a text is compiled to says whether it is empty and whether it starts with a slash. -/
theorem ends_iff {cs : List Char} {as : List Piece} (h : Scans cs as) :
    (as = [] ↔ cs = []) ∧
      ((∃ text qs, as = .literal ('/' :: text) :: qs) ↔ cs.head? = some '/') := by
  cases h with
  | done => simp
  | hole hhole =>
      obtain ⟨v, rfl⟩ := hhole.eq_cons
      simp
  | @char c cs as =>
      refine ⟨by simp, ?_⟩
      constructor
      · rintro ⟨text, qs, heq⟩
        cases heq
        rfl
      · intro hslash
        obtain rfl := Option.some.inj hslash
        exact ⟨[], as, rfl⟩

/-- Whether holes are delimited can be seen in the written template. -/
theorem recoverable_iff {cs : List Char} {as : List Piece} (h : Scans cs as) :
    Recoverable cs ↔ Delimited as ∧ ∀ h ∈ holesOf as, h.converter ≠ Converter.float := by
  induction h with
  | done =>
      refine iff_of_true ?_ ⟨trivial, by simp⟩
      intro before u name kind after hhole heq
      obtain ⟨v, rfl⟩ := hhole.eq_cons
      simp at heq
  | @hole u name kind cs k as hhole hkind hrest ih =>
      obtain ⟨hnil, hslash⟩ := ends_iff hrest
      rw [holesOf_hole, List.forall_mem_cons]
      have hend : (kind ≠ "float".toList ∧
          (cs = [] ∨ kind ≠ "path".toList ∧ cs.head? = some '/')) ↔
          k.converter ≠ Converter.float ∧ (as = [] ∨ k.converter ≠ Converter.path ∧
            ∃ text qs, as = .literal ('/' :: text) :: qs) := by
        rw [hnil, hslash]
        exact and_congr (kind_ne_iff (l := .float) hkind)
          (or_congr_right (and_congr_left' (kind_ne_iff (l := .path) hkind)))
      constructor
      · intro hr
        obtain ⟨hfloat, hbehind⟩ := hend.mp (hr [] u name kind cs hhole rfl)
        obtain ⟨hd, hrest⟩ := ih.mp hr.of_append
        exact ⟨⟨hbehind, hd⟩, hfloat, hrest⟩
      · rintro ⟨⟨hbehind, hd⟩, hfloat, hrest⟩ before u' name' kind' after hhole' heq
        by_cases hbefore : before = []
        · subst hbefore
          obtain ⟨rfl, rfl, rfl⟩ := hhole.unique hhole' heq
          exact hend.mpr ⟨hfloat, hbehind⟩
        · obtain ⟨between, hbetween⟩ := hhole.behind hhole' hbefore heq
          exact ih.mpr ⟨hd, hrest⟩ between u' name' kind' after hhole' hbetween
  | @char c cs as hplain _ ih =>
      rw [holesOf_literal]
      have hrest : Recoverable (c :: cs) ↔ Recoverable cs := by
        constructor
        · exact fun hr => Recoverable.of_append (a := [c]) hr
        · intro hr before u name kind after hhole heq
          cases before with
          | nil => exact absurd ⟨u, name, kind, after, hhole, heq⟩ hplain
          | cons d before => exact hr before u name kind after hhole (List.cons.inj heq).2
      rw [hrest, ih]
      exact Iff.rfl

/-! ## Filling with a value for every hole -/

/-- Filled with values for its holes and no others, a template leaves no parameter over. -/
theorem fill_eq_ok_iff {t : Template} {params : Params}
    (hnames : ∀ name, params.contains name = true ↔ name ∈ t.names) {text : String} :
    t.fill params none = .ok (text, .empty) ↔
      fillPieces params none t.pieces = .ok text.toList := by
  have hleft : (params.restrict fun name => !t.names.contains name && none != some name) =
      .empty := by
    refine Params.ext (List.filter_eq_nil_iff.mpr fun e he => ?_)
    have hname : e.1 ∈ t.names :=
      (hnames e.1).mp (Params.contains_iff.mpr (List.mem_map_of_mem he))
    simp [hname]
  rw [fill_eq_ok_restrict_iff, hleft, and_iff_left rfl]

theorem covered_of_names {t : Template} {params : Params}
    (hnames : ∀ name, params.contains name = true ↔ name ∈ t.names) :
    ∀ h ∈ t.holes, (none : Option String) ≠ some h.name ∧ params.contains h.name = true := by
  intro h hmem
  refine ⟨by simp, (hnames h.name).mpr ?_⟩
  rw [names, names_eq_map_holes]
  exact List.mem_map_of_mem hmem

theorem exists_fill_iff {t : Template} {params : Params}
    (hnames : ∀ name, params.contains name = true ↔ name ∈ t.names) :
    (∃ text, t.fill params none = .ok (text, .empty)) ↔
      ∀ h ∈ t.holes, ∀ v, params.get? h.name = some v →
        ∃ text, h.converter.encode v = .ok text := by
  have hcovered := covered_of_names hnames
  simp only [fill_eq_ok_iff hnames, fillPieces_eq_ok_iff_written hcovered]
  constructor
  · rintro ⟨text, hwritten, _⟩ h hmem v hv
    have hsome := hwritten h hmem
    rw [Hole.written?, hv, Option.bind_some] at hsome
    cases hencode : h.converter.encode v with
    | error e =>
        rw [hencode] at hsome
        cases hsome
    | ok text => exact ⟨text, rfl⟩
  · intro hall
    refine ⟨String.ofList (written params t.pieces), fun h hmem => ?_, String.toList_ofList⟩
    obtain ⟨v, hv⟩ := Option.isSome_iff_exists.mp (hcovered h hmem).2
    obtain ⟨text, htext⟩ := hall h hmem v hv
    rw [Hole.written?, hv, Option.bind_some, htext]
    rfl

/-! ## From values to a text and back -/

/-- The parameters have values for the holes and for nothing else, each of the kind of its hole
and such that it can be encoded. The value of a `path` is of one line. -/
structure Supplies (t : Template) (params : Params) : Prop where
  names : ∀ name, params.contains name = true ↔ name ∈ t.names
  values : ∀ h ∈ t.holes, ∀ v, params.get? h.name = some v → ∃ k : Converter.Kind,
    h.converter = k.converter ∧ k.Holds v ∧ (∃ text, k.converter.encode v = .ok text) ∧
      (k = .path → '\n' ∉ v.text.toList)

/-- What comes back for a value of the kind is the value. -/
theorem Supplies.eq_of_regains {t : Template} {params : Params} (hp : Supplies t params)
    {h : Hole} (hmem : h ∈ t.holes) (hfloat : h.converter ≠ Converter.float)
    {es : List (String × Value)} (hr : h.Regains params es) :
    ∃ v, params.get? h.name = some v ∧ (h.name, v) ∈ es := by
  obtain ⟨v, text, w, hv, htext, hw, hin⟩ := hr
  obtain ⟨k, hk, hholds, _⟩ := hp.values h hmem v hv
  rw [hk] at hfloat htext hw
  obtain ⟨w', hw', _, hsame⟩ := Converter.Kind.decode_encode htext
  obtain rfl : w' = w := Except.ok.inj (hw'.symm.trans hw)
  have hne : k ≠ .float := fun heq => hfloat (congrArg Converter.Kind.converter heq)
  rw [Value.eq_of_same (hsame hholds) (hholds.float?_eq_none hne)] at hin
  exact ⟨v, hv, hin⟩

/-- A template whose holes are delimited gives back the values that it is filled with, whatever
characters they have. -/
theorem recovers {source : String} {t : Template} (hc : compile .builtin source = .ok t)
    (hr : Recoverable source.toList) {params : Params} (hp : Supplies t params) :
    ∃ text q, t.fill params none = .ok (text, .empty) ∧ t.match? text = some (.ok q) ∧
      ∀ name, q.get? name = params.get? name := by
  have hholes : holesOf (atoms t.pieces) = t.holes := holesOf_atoms t.pieces
  obtain ⟨hd, hfloat⟩ := (recoverable_iff (scans_of_compile hc)).mp hr
  rw [hholes] at hfloat
  have hbuiltin : ∀ h ∈ t.holes, h.Builtin ∧ h.converter ≠ Converter.float :=
    fun h hmem => ⟨builtin_of_compile hc h hmem, hfloat h hmem⟩
  have hline : ∀ h ∈ t.holes, h.converter = Converter.path → ∀ v, params.get? h.name = some v →
      '\n' ∉ v.text.toList := by
    intro h hmem hpath v hv
    obtain ⟨k, hk, _, _, hline⟩ := hp.values h hmem v hv
    exact hline (Converter.Kind.converter_injective (l := .path) (hk.symm.trans hpath))
  obtain ⟨text, hfill⟩ := (exists_fill_iff hp.names).mpr fun h hmem v hv => by
    obtain ⟨k, hk, _, hencode, _⟩ := hp.values h hmem v hv
    rwa [hk]
  have hpieces : fillPieces params none (atoms t.pieces) = .ok text.toList := by
    rw [fillPieces_atoms]
    exact (fill_eq_ok_iff hp.names).mp hfill
  obtain ⟨es, hreads, hregains⟩ := reads_of_fill_paths hd (by rwa [hholes])
    (by rw [hholes]; exact covered_of_names hp.names) (by rwa [hholes]) hpieces
  rw [reads_atoms] at hreads
  rw [hholes] at hregains
  refine ⟨text, ⟨es, hreads.nodup⟩, hfill, match?_eq_ok_iff.mpr hreads, fun name => ?_⟩
  by_cases hname : name ∈ t.names
  · rw [names, names_eq_map_holes, List.mem_map] at hname
    obtain ⟨h, hmem, rfl⟩ := hname
    obtain ⟨v, hv, hin⟩ := hp.eq_of_regains hmem (hfloat h hmem) (hregains h hmem)
    rw [hv, Params.get?_eq_some_iff]
    exact hin
  · have hnone {ps : Params} (h : ¬ ps.contains name = true) : ps.get? name = none :=
      Option.not_isSome_iff_eq_none.mp h
    have hkeys (h : Params.contains ⟨es, hreads.nodup⟩ name = true) : name ∈ t.names := by
      have hin : name ∈ es.map (·.1) := Params.contains_iff.mp h
      rwa [hreads.names] at hin
    rw [hnone fun h => hname ((hp.names name).mp h), hnone fun h => hname (hkeys h)]

/-- Values that look like holes and patterns come back as they are. -/
theorem recovers_look_alikes :
    let source := "/\x7ba\x7d/\x7bn:int\x7d/\x7brest:path\x7d"
    let params : Params :=
      .ofList [("a", .str "\x7bn\x7d.*"), ("n", .int 7), ("rest", .str "/\x7ba:str\x7d")]
    ∃ t text q, compile .builtin source = .ok t ∧ t.fill params none = .ok (text, .empty) ∧
      t.match? text = some (.ok q) ∧ ∀ name, q.get? name = params.get? name := by
  intro source params
  let t : Template := ⟨source, [
    .literal ['/'], .hole ⟨"a", Converter.str, Converter.segmentPattern⟩,
    .literal ['/'], .hole ⟨"n", Converter.int, Converter.digitsPattern⟩,
    .literal ['/'], .hole ⟨"rest", Converter.path, Converter.linePattern⟩], by decide⟩
  have hparts : parts source.toList = [.literal ['/'], .hole "a".toList "str".toList,
      .literal ['/'], .hole "n".toList "int".toList, .literal ['/'],
      .hole "rest".toList "path".toList] := by decide +kernel
  have hc : compile .builtin source = .ok t := by
    refine compile_eq_ok_iff.mpr ⟨rfl, ?_⟩
    rw [hparts]
    rfl
  have hne (k l : Converter.Kind) (h : k ≠ l) : k.converter ≠ l.converter :=
    fun heq => h (Converter.Kind.converter_injective heq)
  have hr : Recoverable source.toList := by
    refine (recoverable_iff (scans_of_compile hc)).mpr ⟨delimited_atoms ?_, ?_⟩
    · refine ⟨Or.inr ⟨hne .str .path (by decide), [], _, rfl⟩, ?_⟩
      exact ⟨Or.inr ⟨hne .int .path (by decide), [], _, rfl⟩, Or.inl rfl, trivial⟩
    · rw [holesOf_atoms]
      intro h hmem
      simp only [t, holesOf_literal, holesOf_hole, List.filterMap_nil, List.mem_cons,
        List.not_mem_nil, or_false] at hmem
      rcases hmem with rfl | rfl | rfl
      · exact hne .str .float (by decide)
      · exact hne .int .float (by decide)
      · exact hne .path .float (by decide)
  have hp : Supplies t params := by
    refine ⟨fun name => Params.contains_iff, ?_⟩
    intro h hmem v hv
    simp only [t, holes, holesOf_literal, holesOf_hole, List.filterMap_nil, List.mem_cons,
      List.not_mem_nil, or_false] at hmem
    rcases hmem with rfl | rfl | rfl
    · obtain rfl := Option.some.inj hv
      exact ⟨.str, rfl, .str _, ⟨_, rfl⟩, by simp⟩
    · obtain rfl := Option.some.inj hv
      exact ⟨.int, rfl, .int _, ⟨_, rfl⟩, by simp⟩
    · obtain rfl := Option.some.inj hv
      exact ⟨.path, rfl, .path _, ⟨_, rfl⟩, fun _ => by decide⟩
  obtain ⟨text, q, hfill, hmatch, hsame⟩ := recovers hc hr hp
  exact ⟨t, text, q, hc, hfill, hmatch, hsame⟩

/-! ## From a text to values and back -/

/-- What a hole captured and decoded is encoded again if it is no infinity. -/
theorem encode_iff_isFinite {k : Converter.Kind} {u : List Char} {v : Value} (hu : k.Takes u)
    (hv : k.converter.decode (String.ofList u) = .ok v) :
    (∃ t, k.converter.encode v = .ok t) ↔ ∀ x, v = .float x → x.isFinite = true := by
  rw [Converter.Kind.encode_decode_iff hu hv]
  by_cases hfloat : k = .float
  · subst hfloat
    obtain ⟨d, hwritten⟩ := Converter.Kind.accepts_decimal.mp (Converter.Kind.accepts_iff.mpr hu)
    obtain rfl := Except.ok.inj ((Converter.float_decode_of_written hwritten).symm.trans hv)
    rcases Converter.Kind.ofDecimal_eq hwritten with ⟨⟨size, hsize⟩, hno⟩ | ⟨hinf, hover⟩
    · rw [hsize]
      refine iff_of_true (fun h => hno h.2) ?_
      rintro x ⟨⟩
      rfl
    · rw [hinf]
      refine iff_of_false (fun h => h ⟨rfl, hover⟩) fun h => ?_
      exact absurd (h _ rfl) (by simp [Binary64.isFinite])
  · refine iff_of_true (fun h => hfloat h.1) ?_
    rintro x rfl
    have hnone := (Converter.Kind.holds_of_decode hv).float?_eq_none hfloat
    exact absurd hnone (by simp [Value.float?])

/-- Every hole captured a text of its language, and its entry is what that is decoded to. -/
theorem Reads.captured {ps : List Piece} {cs : List Char} {es : List (String × Value)}
    (h : Reads ps cs es) : ∀ hole ∈ holesOf ps, ∃ u v, hole.pattern.Accepts u ∧
      hole.converter.decode (String.ofList u) = .ok v ∧ (hole.name, v) ∈ es := by
  obtain ⟨us, hus, hes⟩ := h
  obtain ⟨hfits, _⟩ := capturePieces?_sound hus
  have hdecoded := (decodeHoles_eq_ok hfits.length_eq hes).2
  intro hole hmem
  obtain ⟨i, hi, rfl⟩ := List.mem_iff_getElem.mp hmem
  obtain ⟨v, hv, hin⟩ := hdecoded.get hi (hfits.length_eq ▸ hi)
  exact ⟨_, v, hfits.get hi (hfits.length_eq ▸ hi), hv, hin⟩

/-- A template can be filled with what it matched if no number came out as an infinity. -/
theorem fill_of_match_iff {source : String} {t : Template}
    (hc : compile .builtin source = .ok t) {subject : String} {ps : Params}
    (hm : t.match? subject = some (.ok ps)) :
    (∃ text, t.fill ps none = .ok (text, .empty)) ↔
      ∀ name x, ps.get? name = some (.float x) → x.isFinite = true := by
  have hreads := match?_eq_ok_iff.mp hm
  have hnames (name : String) : ps.contains name = true ↔ name ∈ t.names := by
    rw [Params.contains_iff, Params.keys, hreads.names, names]
  have hhole : ∀ h ∈ t.holes, ∃ v, ps.get? h.name = some v ∧
      ((∃ text, h.converter.encode v = .ok text) ↔ ∀ x, v = .float x → x.isFinite = true) := by
    intro h hmem
    obtain ⟨u, v, haccepts, hv, hin⟩ := hreads.captured h hmem
    obtain ⟨k, hk⟩ := (builtin_of_compile hc h hmem).exists_kind
    obtain ⟨name, converter, pattern⟩ := h
    obtain ⟨_, rfl, rfl⟩ := Hole.mk.inj hk
    exact ⟨v, Params.get?_eq_some_iff.mpr hin,
      encode_iff_isFinite (Converter.Kind.accepts_iff.mp haccepts) hv⟩
  rw [exists_fill_iff hnames]
  constructor
  · intro hall name x hx
    have hname : name ∈ t.names := (hnames name).mp (by rw [Params.contains, hx]; rfl)
    rw [names, names_eq_map_holes, List.mem_map] at hname
    obtain ⟨h, hmem, rfl⟩ := hname
    obtain ⟨v, hv, hiff⟩ := hhole h hmem
    exact hiff.mp (hall h hmem v hv) x (Option.some.inj (hv.symm.trans hx))
  · intro hall h hmem v hv
    obtain ⟨w, hw, hiff⟩ := hhole h hmem
    obtain rfl := Option.some.inj (hv.symm.trans hw)
    refine hiff.mpr ?_
    rintro x rfl
    exact hall _ _ hv

/-- What a converter decodes of the texts that its pattern takes it encodes again, to a text that
stands for the same value, and so a template can be filled with what it matched. Only a number
that is too large for the format is decoded, to an infinity, and not encoded. -/
theorem extracted_put_back {k : Converter.Kind} {p : Pattern} {u : List Char} {v : Value}
    (hp : Pattern.read? k.converter.pattern = some p) (hu : p.Accepts u)
    (hv : k.converter.decode (String.ofList u) = .ok v) :
    ((∃ t, k.converter.encode v = .ok t ∧ p.Accepts t.toList ∧ k.converter.decode t = .ok v) ↔
      ¬ (k = .float ∧ Converter.Kind.Overflows u)) ∧
    ∀ (source : String) (t : Template) (subject : String) (ps : Params),
      compile .builtin source = .ok t → t.match? subject = some (.ok ps) →
      ((∃ text, t.fill ps none = .ok (text, .empty)) ↔
        ∀ name x, ps.get? name = some (.float x) → x.isFinite = true) := by
  refine ⟨?_, fun source t subject ps hc hm => fill_of_match_iff hc hm⟩
  obtain rfl : k.pattern = p := Option.some.inj (k.read?_pattern.symm.trans hp)
  have htakes := Converter.Kind.accepts_iff.mp hu
  rw [← Converter.Kind.encode_decode_iff htakes hv]
  constructor
  · rintro ⟨t, ht, _⟩
    exact ⟨t, ht⟩
  · rintro ⟨t, ht⟩
    exact ⟨t, ht, Converter.Kind.decode_encode_of_decode htakes hv ht⟩

/-- Digits with zeros in front stand for the number that is written without them. -/
theorem extracted_put_back_padded :
    let t : Template := ⟨"/\x7bn:int\x7d",
      [.literal ['/'], .hole ⟨"n", Converter.int, Converter.digitsPattern⟩], by decide⟩
    let ps : Params := .ofList [("n", .int 7)]
    compile .builtin "/\x7bn:int\x7d" = .ok t ∧ t.match? "/007" = some (.ok ps) ∧
      (∃ text, t.fill ps none = .ok (text, .empty)) ∧
      ∃ text, Converter.int.encode (.int 7) = .ok text ∧
        Converter.digitsPattern.Accepts text.toList ∧ Converter.int.decode text = .ok (.int 7) := by
  intro t ps
  have hparts : parts "/\x7bn:int\x7d".toList =
      [.literal ['/'], .hole "n".toList "int".toList] := by
    decide +kernel
  have hc : compile .builtin "/\x7bn:int\x7d" = .ok t := by
    refine compile_eq_ok_iff.mpr ⟨rfl, ?_⟩
    rw [hparts]
    rfl
  have hm : t.match? "/007" = some (.ok ps) := rfl
  have hfinite : ∀ name x, ps.get? name = some (.float x) → x.isFinite = true := by
    intro name x hx
    rw [Params.get?_eq_some_iff, Params.entries_ofList (by decide)] at hx
    simp at hx
  have hu : Converter.digitsPattern.Accepts "007".toList :=
    Converter.accepts_digits.mpr ⟨by decide, by simp [Text.isDigit]⟩
  obtain ⟨hvalue, htemplate⟩ :=
    extracted_put_back (k := .int) (v := .int 7) Converter.read?_int hu rfl
  exact ⟨hc, hm, (htemplate _ t _ ps hc hm).mpr hfinite, hvalue.mpr (by simp)⟩

/-- Ten to the power of 309 is read, and what is read is not written. -/
theorem infinity_not_put_back :
    Pattern.read? Converter.float.pattern = some Converter.decimalPattern ∧
    Converter.decimalPattern.Accepts ('1' :: List.replicate 309 '0') ∧
    Converter.float.decode (String.ofList ('1' :: List.replicate 309 '0')) =
      .ok (.float (.infinity false)) ∧
    ∀ t, Converter.float.encode (.float (.infinity false)) ≠ .ok t := by
  have hdigits : ∀ c ∈ '1' :: List.replicate 309 '0', Text.isDigit c = true :=
    List.forall_mem_cons.mpr ⟨by decide, Decimal.isDigit_replicate_zero 309⟩
  have hwritten := Decimal.Written.whole (List.cons_ne_nil _ _) hdigits
  have hlarge : Binary64.ofDecimal ⟨Decimal.digitsValue ('1' :: List.replicate 309 '0'), 0⟩ =
      .infinity false := by decide +kernel
  refine ⟨Converter.read?_float, Converter.Kind.accepts_decimal.mpr ⟨_, hwritten⟩, ?_, ?_⟩
  · rw [Converter.float_decode_of_written hwritten, hlarge]
  · rintro t ⟨⟩

end Template

end Waymark
