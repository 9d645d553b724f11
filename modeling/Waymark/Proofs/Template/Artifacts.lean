import Mathlib.Data.List.Forall2
import Waymark.Proofs.Except
import Waymark.Proofs.Template.Erasing
import Waymark.Template.Filling

/-!
# What a template is compiled to

Four things come out of one pass over the parts of a text: the pattern, the
format, the segments of the format, and the converters that the segments refer
to by their places (`Artifacts.build`). A compiled template keeps its pieces and
has each of the four as a view of them; here they are built side by side, and
they agree with the template at the end (`Artifacts.Agrees`).

The invariant of the pass is `Artifacts.Aligned`: each of the four says the same
of the parts that were read so far. A step adds one part to all of them
(`Aligned.add`). What makes it work for a segment is that converters are only
added at the end, so that a place that is in range stays what it was
(`Segment.bound?_append`).

The pass stops at the first placeholder that has a fault (`LeftmostFault`), which
is its kind if that is not registered, and else its name if that is taken.
-/

namespace Waymark.Template

/-! ## Views of a bound part -/

namespace Bound

/-- The part in the canonical format. -/
def format : Bound → List Char
  | .literal text => text
  | .hole name _ => braced name.toList

/-- The part in the notation of patterns. -/
def expression : Bound → List Char
  | .literal text => Pattern.escape text
  | .hole name c => "(?P<".toList ++ name.toList ++ ['>'] ++ c.pattern.toList ++ [')']

def converter? : Bound → Option (String × Converter)
  | .literal _ => none
  | .hole name c => some (name, c)

def fill (params : Params) (blank : Option String) : Bound → Except ConversionError (List Char)
  | .literal text => .ok text
  | .hole name c =>
    if blank = some name then .ok []
    else match params.get? name with
      | some value => (c.encode value).map String.toList
      | none => .ok (braced name.toList)

end Bound

end Template

/-- The piece without the pattern that was read for it. -/
def Piece.bound : Piece → Template.Bound
  | .literal text => .literal text
  | .hole h => .hole h.name h.converter

namespace Template

theorem bound_of_readPatterns? {bs : List Bound} {ps : List Piece}
    (h : readPatterns? bs = some ps) : bs = ps.map Piece.bound := by
  induction bs generalizing ps with
  | nil =>
      cases h
      rfl
  | cons b bs ih =>
      cases b with
      | literal text =>
          obtain ⟨qs, hqs, rfl⟩ := Option.map_eq_some_iff.mp h
          rw [ih hqs]
          rfl
      | hole name c =>
          obtain ⟨pattern, _, h⟩ := Option.bind_eq_some_iff.mp h
          obtain ⟨qs, hqs, h⟩ := Option.bind_eq_some_iff.mp h
          cases h
          rw [ih hqs]
          rfl

/-! ## The pass -/

inductive Segment where
  | literal (text : List Char)
  /-- A hole, by its place in the list of converters. -/
  | param (index : Nat)

namespace Segment

def index? : Segment → Option Nat
  | .literal _ => none
  | .param index => some index

/-- The part that a segment stands for. There is none if its place is out of range. -/
def bound? (converters : List (String × Converter)) : Segment → Option Bound
  | .literal text => some (.literal text)
  | .param index => converters[index]?.map fun c => .hole c.1 c.2

/-- A segment stands for the same part when more converters follow. -/
theorem bound?_append {converters : List (String × Converter)} {s : Segment} {b : Bound}
    (h : s.bound? converters = some b) (more : List (String × Converter)) :
    s.bound? (converters ++ more) = some b := by
  cases s with
  | literal text => exact h
  | param index =>
      obtain ⟨c, hc, rfl⟩ := Option.map_eq_some_iff.mp h
      obtain ⟨hlt, _⟩ := List.getElem?_eq_some_iff.mp hc
      rw [bound?, List.getElem?_append_left hlt, hc, Option.map_some]

end Segment

/-- What is built from the parts of a text. -/
structure Artifacts where
  pattern : List Char
  format : List Char
  segments : List Segment
  /-- The holes with their converters, in order. -/
  converters : List (String × Converter)

namespace Artifacts

def names (a : Artifacts) : List String := a.converters.map Prod.fst

def start : Artifacts := ⟨['^'], [], [], []⟩

/-- One part more. An empty text is no segment, and a hole gets the next place. -/
def add (a : Artifacts) (b : Bound) : Artifacts where
  pattern := a.pattern ++ b.expression
  format := a.format ++ b.format
  segments := a.segments ++ match b with
    | .literal text => if text.isEmpty then [] else [.literal text]
    | .hole _ _ => [.param a.converters.length]
  converters := a.converters ++ b.converter?.toList

def finish (a : Artifacts) : Artifacts := { a with pattern := a.pattern ++ ['$'] }

/-- Adds the parts of a text one after the other and stops at the first fault. -/
def pass (registry : Registry) (source : String) :
    Artifacts → List Part → Except RouteError Artifacts
  | a, [] => .ok a
  | a, .literal text :: ps => pass registry source (a.add (.literal text)) ps
  | a, .hole name kind :: ps =>
    match registry.get? (String.ofList kind) with
    | none => .error (.unknownConverter (String.ofList kind) source)
    | some c =>
      if String.ofList name ∈ a.names then
        .error (.duplicateParameter (String.ofList name) source)
      else pass registry source (a.add (.hole (String.ofList name) c)) ps

def build (registry : Registry) (source : String) : Except RouteError Artifacts :=
  (pass registry source start (parts source.toList)).map finish

/-- The texts of segments with the values of the parameters, in one pass over them. There is none
if a segment has no converter in its place. -/
def place (converters : List (String × Converter)) (params : Params) (blank : Option String) :
    List Segment → Option (Except ConversionError (List Char))
  | [] => some (.ok [])
  | s :: ss =>
    match s.bound? converters with
    | none => none
    | some b =>
      match b.fill params blank with
      | .error e => some (.error e)
      | .ok text => (place converters params blank ss).map (·.map (text ++ ·))

/-- The format with the parameters in its holes, and the parameters without a hole. -/
def substitute (a : Artifacts) (params : Params) (blank : Option String) :
    Option (Except ConversionError (String × Params)) :=
  (place a.converters params blank a.segments).map fun filled => filled.map fun text =>
    (String.ofList text,
      params.restrict fun name => !a.names.contains name && blank != some name)

end Artifacts

def artifacts (t : Template) : Artifacts :=
  ((t.pieces.map Piece.bound).foldl Artifacts.add .start).finish

/-! ## The pass and its faults -/

/-- Each placeholder is of a registered kind and has a name of its own. -/
structure Admissible (registry : Registry) (ps : List (String × String)) : Prop where
  kinds : ∀ p ∈ ps, registry.contains p.2 = true
  names : (ps.map Prod.fst).Nodup

/-- What is wrong with a placeholder behind others with the names `taken`. -/
inductive Fault (registry : Registry) (source : String) (taken : List String) :
    String × String → RouteError → Prop
  | kind {name kind : String} (hkind : registry.get? kind = none) :
      Fault registry source taken (name, kind) (.unknownConverter kind source)
  | name {name kind : String} (hkind : registry.contains kind = true) (hname : name ∈ taken) :
      Fault registry source taken (name, kind) (.duplicateParameter name source)

/-- The leftmost fault of placeholders that stand behind others with the names `taken`. -/
def LeftmostFault (registry : Registry) (source : String) (taken : List String)
    (ps : List (String × String)) (e : RouteError) : Prop :=
  ∃ before p after, ps = before ++ p :: after ∧ Admissible registry before ∧
    (∀ q ∈ before, q.1 ∉ taken) ∧ Fault registry source (taken ++ before.map Prod.fst) p e

theorem not_mem_concat {n m : String} {taken : List String} :
    n ∉ taken ++ [m] ↔ n ∉ taken ∧ n ≠ m := by
  rw [List.mem_append, List.mem_singleton, not_or]

section Faults

variable {registry : Registry} {source : String} {taken : List String} {p : String × String}
  {ps : List (String × String)} {e : RouteError}

theorem admissible_cons_iff : Admissible registry (p :: ps) ↔
    registry.contains p.2 = true ∧ (∀ q ∈ ps, q.1 ≠ p.1) ∧ Admissible registry ps := by
  have hfresh : p.1 ∉ ps.map Prod.fst ↔ ∀ q ∈ ps, q.1 ≠ p.1 := by
    simp only [List.mem_map, not_exists, not_and, ne_eq]
  constructor
  · rintro ⟨hkinds, hnames⟩
    obtain ⟨hkind, hkinds⟩ := List.forall_mem_cons.mp hkinds
    obtain ⟨hnew, hnames⟩ := List.nodup_cons.mp hnames
    exact ⟨hkind, hfresh.mp hnew, hkinds, hnames⟩
  · rintro ⟨hkind, hnew, hkinds, hnames⟩
    exact ⟨List.forall_mem_cons.mpr ⟨hkind, hkinds⟩,
      List.nodup_cons.mpr ⟨hfresh.mpr hnew, hnames⟩⟩

theorem contains_of_get? {kind : String} {c : Converter} (h : registry.get? kind = some c) :
    registry.contains kind = true := Option.isSome_iff_exists.mpr ⟨c, h⟩

theorem not_contains {kind : String} (h : registry.get? kind = none) :
    ¬ registry.contains kind = true := by
  rw [Registry.contains, h]
  exact Bool.false_ne_true

/-- All that can be wrong with a placeholder of a registered kind is its name. -/
theorem Fault.mem_taken (h : Fault registry source taken p e)
    (hkind : registry.contains p.2 = true) : p.1 ∈ taken := by
  cases h with
  | kind hnone => exact absurd hkind (not_contains hnone)
  | name _ hname => exact hname

theorem Fault.unique {e' : RouteError} (h : Fault registry source taken p e)
    (h' : Fault registry source taken p e') : e = e' := by
  cases h with
  | kind hnone =>
      cases h' with
      | kind _ => rfl
      | name hkind _ => exact absurd hkind (not_contains hnone)
  | name hkind _ =>
      cases h' with
      | kind hnone => exact absurd hkind (not_contains hnone)
      | name _ _ => rfl

/-- The fault of the first placeholder comes first; if it has none, its name is taken. -/
theorem leftmostFault_cons_iff : LeftmostFault registry source taken (p :: ps) e ↔
    Fault registry source taken p e ∨
      registry.contains p.2 = true ∧ p.1 ∉ taken ∧
        LeftmostFault registry source (taken ++ [p.1]) ps e := by
  constructor
  · rintro ⟨before, q, after, heq, hbefore, hfree, hfault⟩
    cases before with
    | nil =>
        cases heq
        rw [List.map_nil, List.append_nil] at hfault
        exact Or.inl hfault
    | cons b before =>
        obtain ⟨rfl, rfl⟩ := List.cons.inj heq
        obtain ⟨hkind, hnew, hbefore⟩ := admissible_cons_iff.mp hbefore
        obtain ⟨hname, hfree⟩ := List.forall_mem_cons.mp hfree
        refine Or.inr ⟨hkind, hname, before, q, after, rfl, hbefore,
          fun k hk => not_mem_concat.mpr ⟨hfree k hk, hnew k hk⟩, ?_⟩
        rw [List.append_assoc]
        exact hfault
  · rintro (hfault | ⟨hkind, hname, before, q, after, rfl, hbefore, hfree, hfault⟩)
    · refine ⟨[], p, ps, rfl, ⟨nofun, List.nodup_nil⟩, nofun, ?_⟩
      rw [List.map_nil, List.append_nil]
      exact hfault
    · refine ⟨p :: before, q, after, rfl, admissible_cons_iff.mpr ⟨hkind,
        fun k hk => (not_mem_concat.mp (hfree k hk)).2, hbefore⟩,
        List.forall_mem_cons.mpr ⟨hname, fun k hk => (not_mem_concat.mp (hfree k hk)).1⟩, ?_⟩
      rw [List.append_assoc] at hfault
      exact hfault

end Faults

namespace Artifacts

variable {registry : Registry} {source : String} {a b : Artifacts} {ps : List Part}

@[simp] theorem names_add_literal (a : Artifacts) (text : List Char) :
    (a.add (.literal text)).names = a.names := by
  simp [names, add, Bound.converter?]

@[simp] theorem names_add_hole (a : Artifacts) (name : String) (c : Converter) :
    (a.add (.hole name c)).names = a.names ++ [name] := by
  simp [names, add, Bound.converter?]

/-- At a placeholder the pass stops with its fault, or goes on with its converter. -/
theorem pass_hole_cases (registry : Registry) (source : String) (a : Artifacts)
    (name kind : List Char) (ps : List Part) :
    (∃ e, Fault registry source a.names (String.ofList name, String.ofList kind) e ∧
      pass registry source a (.hole name kind :: ps) = .error e) ∨
    ∃ c, registry.get? (String.ofList kind) = some c ∧ String.ofList name ∉ a.names ∧
      pass registry source a (.hole name kind :: ps) =
        pass registry source (a.add (.hole (String.ofList name) c)) ps := by
  rw [pass]
  cases hkind : registry.get? (String.ofList kind) with
  | none => exact Or.inl ⟨_, .kind hkind, rfl⟩
  | some c =>
      by_cases hname : String.ofList name ∈ a.names
      · exact Or.inl ⟨_, .name (contains_of_get? hkind) hname, if_pos hname⟩
      · exact Or.inr ⟨c, rfl, hname, if_neg hname⟩

/-- The pass goes through exactly if nothing is wrong with any placeholder. -/
theorem exists_pass_iff : (∃ b, pass registry source a ps = .ok b) ↔
    Admissible registry (ps.filterMap Part.placeholder?) ∧
      ∀ p ∈ ps.filterMap Part.placeholder?, p.1 ∉ a.names := by
  induction ps generalizing a with
  | nil => exact iff_of_true ⟨a, rfl⟩ ⟨⟨nofun, List.nodup_nil⟩, nofun⟩
  | cons p ps ih =>
      cases p with
      | literal text => rw [pass, ih, names_add_literal, List.filterMap_cons_none rfl]
      | hole name kind =>
          rw [List.filterMap_cons_some (f := Part.placeholder?) rfl, admissible_cons_iff,
            List.forall_mem_cons]
          rcases pass_hole_cases registry source a name kind ps with
            ⟨e, hfault, hpass⟩ | ⟨c, hkind, hname, hpass⟩
          · rw [hpass]
            refine iff_of_false nofun ?_
            rintro ⟨⟨hkind, _⟩, hname, _⟩
            exact hname (hfault.mem_taken hkind)
          · rw [hpass, ih, names_add_hole]
            constructor
            · rintro ⟨hps, hfree⟩
              exact ⟨⟨contains_of_get? hkind, fun q hq => (not_mem_concat.mp (hfree q hq)).2, hps⟩,
                hname, fun q hq => (not_mem_concat.mp (hfree q hq)).1⟩
            · rintro ⟨⟨_, hnew, hps⟩, _, hfree⟩
              exact ⟨hps, fun q hq => not_mem_concat.mpr ⟨hfree q hq, hnew q hq⟩⟩

theorem pass_eq_error_iff {e : RouteError} : pass registry source a ps = .error e ↔
    LeftmostFault registry source a.names (ps.filterMap Part.placeholder?) e := by
  induction ps generalizing a with
  | nil =>
      refine iff_of_false nofun ?_
      rintro ⟨before, p, after, heq, _⟩
      cases before <;> cases heq
  | cons p ps ih =>
      cases p with
      | literal text => rw [pass, ih, names_add_literal, List.filterMap_cons_none rfl]
      | hole name kind =>
          rw [List.filterMap_cons_some (f := Part.placeholder?) rfl, leftmostFault_cons_iff]
          rcases pass_hole_cases registry source a name kind ps with
            ⟨e', hfault, hpass⟩ | ⟨c, hkind, hname, hpass⟩
          · rw [hpass]
            constructor
            · intro heq
              cases heq
              exact Or.inl hfault
            · rintro (hfault' | ⟨hkind, hname, _⟩)
              · rw [hfault.unique hfault']
              · exact absurd (hfault.mem_taken hkind) hname
          · rw [hpass, ih, names_add_hole]
            constructor
            · exact fun h => Or.inr ⟨contains_of_get? hkind, hname, h⟩
            · rintro (hfault | ⟨_, _, h⟩)
              · exact absurd (hfault.mem_taken (contains_of_get? hkind)) hname
              · exact h

/-- The pass binds the parts and adds them as it goes. -/
theorem pass_eq_map {seen : List String} (hseen : ∀ n, n ∈ a.names ↔ n ∈ seen) :
    pass registry source a ps = (bind registry source seen ps).map (List.foldl add a) := by
  induction ps generalizing a seen with
  | nil => rfl
  | cons p ps ih =>
      cases p with
      | literal text =>
          rw [pass, ih (by simpa using hseen), bind]
          cases bind registry source seen ps <;> rfl
      | hole name kind =>
          rw [pass, bind]
          cases hkind : registry.get? (String.ofList kind) with
          | none => rfl
          | some c =>
              by_cases hname : String.ofList name ∈ seen
              · simp only [if_pos hname, if_pos ((hseen _).mpr hname)]
                rfl
              · have hseen' : ∀ n, n ∈ (a.add (.hole (String.ofList name) c)).names ↔
                    n ∈ String.ofList name :: seen := by
                  intro n
                  rw [names_add_hole, List.mem_append, List.mem_singleton, List.mem_cons, hseen,
                    or_comm]
                simp only [if_neg hname, if_neg (mt (hseen _).mp hname), ih hseen']
                cases bind registry source (String.ofList name :: seen) ps <;> rfl

end Artifacts

/-! ## Compiling -/

/-- The converters that a text names have patterns that can be read. -/
def Readable (registry : Registry) (source : String) : Prop :=
  ∀ p ∈ placeholders source, ∀ c, registry.get? p.2 = some c →
    (Pattern.read? c.pattern).isSome = true

theorem readPatterns?_of_bind {registry : Registry} {source : String} {seen : List String}
    {ps : List Part} {bs : List Bound} (h : bind registry source seen ps = .ok bs)
    (hread : ∀ p ∈ ps.filterMap Part.placeholder?, ∀ c, registry.get? p.2 = some c →
      (Pattern.read? c.pattern).isSome = true) : ∃ qs, readPatterns? bs = some qs := by
  induction ps generalizing seen bs with
  | nil =>
      cases h
      exact ⟨[], rfl⟩
  | cons p ps ih =>
      cases p with
      | literal text =>
          rw [List.filterMap_cons_none rfl] at hread
          rw [bind] at h
          obtain ⟨rest, hrest, h⟩ := Except.bind_eq_ok_iff.mp h
          cases h
          obtain ⟨qs, hqs⟩ := ih hrest hread
          exact ⟨.literal text :: qs, by rw [readPatterns?, hqs, Option.map_some]⟩
      | hole name kind =>
          rw [List.filterMap_cons_some (f := Part.placeholder?) rfl, List.forall_mem_cons] at hread
          simp only [bind] at h
          split at h
          case h_2 => cases h
          rename_i c hkind
          split at h
          · cases h
          · obtain ⟨rest, hrest, h⟩ := Except.bind_eq_ok_iff.mp h
            cases h
            obtain ⟨qs, hqs⟩ := ih hrest hread.2
            obtain ⟨pattern, hpattern⟩ := Option.isSome_iff_exists.mp (hread.1 c hkind)
            refine ⟨.hole ⟨String.ofList name, c, pattern⟩ :: qs, ?_⟩
            simp only [readPatterns?, hpattern, hqs]
            rfl

/-- If the patterns can be read, compiling goes through or stops as the pass does. -/
theorem build_eq_map {registry : Registry} {source : String} (hread : Readable registry source) :
    Artifacts.build registry source = (compile registry source).map artifacts := by
  have hbuild {bound : Except RouteError (List Bound)}
      (h : bind registry source [] (parts source.toList) = bound) :
      Artifacts.build registry source =
        (bound.map (List.foldl Artifacts.add .start)).map Artifacts.finish := by
    rw [Artifacts.build, ← h, Artifacts.pass_eq_map fun _ => Iff.rfl]
    rfl
  unfold compile
  split
  · rename_i e hbind
    rw [hbuild hbind]
    rfl
  · rename_i bs hbind
    obtain ⟨qs, hqs⟩ := readPatterns?_of_bind hbind hread
    split
    · rename_i hnone
      cases hnone.symm.trans hqs
    · rename_i pieces hpieces
      obtain rfl := bound_of_readPatterns? hpieces
      rw [hbuild hbind]
      rfl

/-! ## What the artifacts say -/

namespace Artifacts

/-- The artifacts all say what the parts `bs` say. -/
structure Aligned (a : Artifacts) (bs : List Bound) : Prop where
  pattern_eq : a.pattern = '^' :: bs.flatMap Bound.expression
  format_eq : a.format = bs.flatMap Bound.format
  converters_eq : a.converters = bs.filterMap Bound.converter?
  segments : List.Forall₂ (fun s b => s.bound? a.converters = some b) a.segments bs
  indices : a.segments.filterMap Segment.index? = List.range a.converters.length

theorem aligned_start : Aligned start [] := ⟨rfl, rfl, rfl, .nil, rfl⟩

/-- One part more keeps the artifacts aligned. -/
theorem Aligned.add {a : Artifacts} {bs : List Bound} (h : a.Aligned bs) {b : Bound}
    (hb : b ≠ .literal []) : (a.add b).Aligned (bs ++ [b]) := by
  have hold : List.Forall₂ (fun s b' => s.bound? (a.add b).converters = some b') a.segments bs :=
    h.segments.imp fun _ _ hs => Segment.bound?_append hs _
  have hpattern : (a.add b).pattern = '^' :: (bs ++ [b]).flatMap Bound.expression := by
    rw [List.flatMap_append, List.flatMap_singleton, ← List.cons_append, ← h.pattern_eq]
    rfl
  have hformat : (a.add b).format = (bs ++ [b]).flatMap Bound.format := by
    rw [List.flatMap_append, List.flatMap_singleton, ← h.format_eq]
    rfl
  cases b with
  | literal text =>
      have hsegments : (a.add (.literal text)).segments = a.segments ++ [.literal text] := by
        have htext : text.isEmpty = false := by
          cases text with
          | nil => exact absurd rfl hb
          | cons c cs => rfl
        simp only [Artifacts.add, htext, Bool.false_eq_true, if_false]
      have hconverters : (a.add (.literal text)).converters = a.converters := List.append_nil _
      refine ⟨hpattern, hformat, ?_, ?_, ?_⟩
      · rw [hconverters, h.converters_eq, List.filterMap_append]
        exact (List.append_nil _).symm
      · rw [hsegments]
        exact List.rel_append hold (.cons rfl .nil)
      · rw [hsegments, hconverters, List.filterMap_append, h.indices]
        exact List.append_nil _
  | hole name c =>
      have hconverters : (a.add (.hole name c)).converters = a.converters ++ [(name, c)] := rfl
      have hsegments : (a.add (.hole name c)).segments =
          a.segments ++ [.param a.converters.length] := rfl
      refine ⟨hpattern, hformat, ?_, ?_, ?_⟩
      · rw [hconverters, h.converters_eq, List.filterMap_append]
        rfl
      · rw [hsegments]
        refine List.rel_append hold (.cons ?_ .nil)
        rw [Segment.bound?, hconverters, List.getElem?_concat_length, Option.map_some]
      · rw [hsegments, hconverters, List.filterMap_append, h.indices, List.length_append,
          List.length_singleton, List.range_succ]
        rfl

/-- What is added part by part is aligned with the parts. -/
theorem Aligned.foldl {a : Artifacts} {bs cs : List Bound} (h : a.Aligned bs)
    (hcs : ∀ b ∈ cs, b ≠ .literal []) : (cs.foldl Artifacts.add a).Aligned (bs ++ cs) := by
  induction cs generalizing a bs with
  | nil => rwa [List.append_nil]
  | cons c cs ih =>
      obtain ⟨hc, hcs⟩ := List.forall_mem_cons.mp hcs
      rw [List.append_cons]
      exact ih (h.add hc) hcs

/-- The part that a segment stands for, in the canonical format. -/
def spelled (a : Artifacts) (s : Segment) : List Char :=
  ((s.bound? a.converters).map Bound.format).getD []

/-- The part that a segment stands for, in the notation of patterns. -/
def grouped (a : Artifacts) (s : Segment) : List Char :=
  ((s.bound? a.converters).map Bound.expression).getD []

/-- The artifacts of a template say what it says, and what each other says: the segments spell
the format and the pattern, they refer to the converters one after the other, and filling them
is filling the template. -/
structure Agrees (a : Artifacts) (t : Template) : Prop where
  pattern_eq : String.ofList a.pattern = t.expression
  format_eq : String.ofList a.format = t.format
  converters_eq : a.converters = t.holes.map fun h => (h.name, h.converter)
  names_eq : a.names = t.names
  spelled : a.segments.flatMap a.spelled = a.format
  grouped : '^' :: a.segments.flatMap a.grouped ++ ['$'] = a.pattern
  in_range : ∀ index, .param index ∈ a.segments → index < a.converters.length
  in_order : a.segments.filterMap Segment.index? = List.range a.converters.length
  fill_eq : ∀ params blank, a.substitute params blank = some (t.fill params blank)

theorem flatMap_segments {α : Type} {a : Artifacts} {ss : List Segment} {bs : List Bound}
    (h : List.Forall₂ (fun s b => s.bound? a.converters = some b) ss bs) (view : Bound → List α) :
    (ss.flatMap fun s => ((s.bound? a.converters).map view).getD []) = bs.flatMap view := by
  induction h with
  | nil => rfl
  | cons hs _ ih =>
      rw [List.flatMap_cons, List.flatMap_cons, ih, hs, Option.map_some, Option.getD_some]

theorem place_eq {converters : List (String × Converter)} {ss : List Segment} {ps : List Piece}
    (h : List.Forall₂ (fun s b => s.bound? converters = some b) ss (ps.map Piece.bound))
    (params : Params) (blank : Option String) :
    place converters params blank ss = some (fillPieces params blank ps) := by
  induction ps generalizing ss with
  | nil =>
      cases h
      rfl
  | cons p ps ih =>
      rw [List.map_cons] at h
      cases h with
      | cons hs h =>
          have hpiece : fillPiece params blank p = p.bound.fill params blank := by
            cases p <;> rfl
          simp only [place, hs, fillPieces, hpiece, ih h]
          cases p.bound.fill params blank with
          | error e => rfl
          | ok text => cases fillPieces params blank ps <;> rfl

end Artifacts

theorem ne_literal_nil_of_mem_parts {cs : List Char} {p : Part} (h : p ∈ parts cs) :
    p ≠ .literal [] := by
  have hchar {c : Char} {ps : List Part} (ih : ∀ q ∈ ps, q ≠ .literal []) :
      ∀ q ∈ consChar c ps, q ≠ .literal [] := by
    intro q hq
    cases ps with
    | nil =>
        obtain rfl := List.mem_singleton.mp hq
        rintro ⟨⟩
    | cons k ps =>
        cases k with
        | literal text =>
            rcases List.mem_cons.mp hq with rfl | hq
            · rintro ⟨⟩
            · exact ih q (List.mem_cons_of_mem _ hq)
        | hole name kind =>
            rcases List.mem_cons.mp hq with rfl | hq
            · rintro ⟨⟩
            · exact ih q hq
  fun_induction parts cs generalizing p with
  | case1 => cases h
  | case2 cs name kind rest hread ih =>
      rcases List.mem_cons.mp h with rfl | h
      · rintro ⟨⟩
      · exact ih h
  | case3 cs hread ih => exact hchar (fun q hq => ih hq) p h
  | case4 c cs hc ih => exact hchar (fun q hq => ih hq) p h

theorem bound_ne_literal_nil {registry : Registry} {source : String} {t : Template}
    (h : compile registry source = .ok t) : ∀ b ∈ t.pieces.map Piece.bound, b ≠ .literal [] := by
  rw [List.forall_mem_map]
  intro q hq heq
  obtain ⟨_, hpieces⟩ := compile_eq_ok_iff.mp h
  obtain ⟨p, hp, hof⟩ := Option.exists_of_mem_mapM hpieces q hq
  cases p with
  | literal text =>
      cases hof
      cases heq
      exact ne_literal_nil_of_mem_parts hp rfl
  | hole name kind =>
      obtain ⟨c, _, hof⟩ := Option.bind_eq_some_iff.mp hof
      obtain ⟨pattern, _, hof⟩ := Option.bind_eq_some_iff.mp hof
      cases hof
      cases heq

section Views

variable (t : Template)

theorem format_bounds : (t.pieces.map Piece.bound).flatMap Bound.format =
    t.pieces.flatMap Piece.format := by
  rw [List.flatMap_map]
  exact List.flatMap_congr fun p _ => by cases p <;> rfl

theorem expression_bounds : (t.pieces.map Piece.bound).flatMap Bound.expression =
    t.pieces.flatMap Piece.expression := by
  rw [List.flatMap_map]
  exact List.flatMap_congr fun p _ => by cases p <;> rfl

theorem converters_bounds : (t.pieces.map Piece.bound).filterMap Bound.converter? =
    t.holes.map fun h => (h.name, h.converter) := by
  rw [List.filterMap_map, holes, List.map_filterMap]
  exact List.filterMap_congr fun p _ => by cases p <;> rfl

end Views

/-- The artifacts of a compiled template agree with it. -/
theorem agrees_of_compile {registry : Registry} {source : String} {t : Template}
    (h : compile registry source = .ok t) : t.artifacts.Agrees t := by
  have haligned := Artifacts.aligned_start.foldl (bound_ne_literal_nil h)
  rw [List.nil_append] at haligned
  have hconverters : t.artifacts.converters = t.holes.map fun h => (h.name, h.converter) := by
    rw [← converters_bounds, ← haligned.converters_eq]
    rfl
  have hnames : t.artifacts.names = t.names := by
    rw [Artifacts.names, hconverters, List.map_map, names, names_eq_map_holes]
    rfl
  refine ⟨?_, ?_, hconverters, hnames, ?_, ?_, ?_, haligned.indices, ?_⟩
  · rw [expression, ← expression_bounds, ← haligned.pattern_eq]
    rfl
  · rw [format, ← format_bounds, ← haligned.format_eq]
    rfl
  · exact (Artifacts.flatMap_segments haligned.segments _).trans haligned.format_eq.symm
  · have hpattern := Artifacts.flatMap_segments haligned.segments Bound.expression
    rw [← List.cons_inj_right '^', ← haligned.pattern_eq] at hpattern
    exact congrArg (· ++ ['$']) hpattern
  · intro index hindex
    have hmem : index ∈ t.artifacts.segments.filterMap Segment.index? :=
      List.mem_filterMap.mpr ⟨_, hindex, rfl⟩
    exact List.mem_range.mp (haligned.indices ▸ hmem)
  · intro params blank
    have hplace : Artifacts.place t.artifacts.converters params blank t.artifacts.segments =
        some (fillPieces params blank t.pieces) := Artifacts.place_eq haligned.segments params blank
    rw [Artifacts.substitute, hnames, hplace, fill]
    cases fillPieces params blank t.pieces <;> rfl

/-! ## The whole -/

theorem fill_empty (t : Template) : t.fill .empty none = .ok (t.format, .empty) := by
  have hpieces (ps : List Piece) :
      fillPieces .empty none ps = .ok (ps.flatMap Piece.format) := by
    induction ps with
    | nil => rfl
    | cons p ps ih =>
        rw [fillPieces, ih, List.flatMap_cons]
        cases p <;> rfl
  rw [fill, hpieces]
  rfl

section Compiling

variable {registry : Registry} {source : String} (hread : Readable registry source)

include hread

theorem exists_compile_iff_admissible :
    (∃ t, compile registry source = .ok t) ↔ Admissible registry (placeholders source) := by
  rw [← Except.exists_map_eq_ok_iff (f := artifacts), ← build_eq_map hread, Artifacts.build,
    Except.exists_map_eq_ok_iff, Artifacts.exists_pass_iff]
  exact and_iff_left fun _ _ => List.not_mem_nil

theorem compile_eq_error_iff {e : RouteError} : compile registry source = .error e ↔
    LeftmostFault registry source [] (placeholders source) e := by
  rw [← Except.map_eq_error_iff (f := artifacts), ← build_eq_map hread, Artifacts.build,
    Except.map_eq_error_iff, Artifacts.pass_eq_error_iff]
  rfl

end Compiling

/-- The format of a template is compiled to a template with the same format and the same names,
with any converter for the kind that a hole has if it gives none. -/
theorem exists_compile_format {source : String}
    (hnames : ((placeholders source).map Prod.fst).Nodup)
    {registry : Registry} (hstr : registry.contains "str" = true)
    (hread : Readable registry (erased source)) : ∃ u, compile registry (erased source) = .ok u ∧
      u.format = erased source ∧ u.names = (placeholders source).map Prod.fst := by
  have hall := placeholders_erased source
  have hfst : (placeholders (erased source)).map Prod.fst = (placeholders source).map Prod.fst := by
    rw [hall, List.map_map]
    rfl
  have hadmissible : Admissible registry (placeholders (erased source)) := by
    refine ⟨fun p hp => ?_, hfst ▸ hnames⟩
    obtain ⟨_, _, rfl⟩ := List.mem_map.mp (hall ▸ hp)
    exact hstr
  obtain ⟨u, hu⟩ := (exists_compile_iff_admissible hread).mpr hadmissible
  obtain ⟨_, hpieces⟩ := compile_eq_ok_iff.mp hu
  refine ⟨u, hu, ?_, ?_⟩
  · rw [format_of_compile hu, erased_erased]
  · rw [names, (names_of_mapM hpieces).1, ← hfst, placeholders]

/-- A text is compiled exactly if each of its placeholders is of a registered kind and has a name
of its own; if not, the leftmost fault is reported, and at one placeholder an unknown kind before
a name that is taken. What is compiled has the text with nothing but the kinds erased for its
format and the names of the placeholders in order; the artifacts that are built side by side agree
with it and with each other; without parameters it is filled to its format; and the format is
compiled again to one with the same format and the same names. -/
theorem artifacts_agree {registry : Registry} {source : String}
    (hread : Readable registry source) :
    (∀ ps out, Erases source.toList ps out ↔
      ps = placeholders source ∧ out = (erased source).toList) ∧
    ((∃ t, compile registry source = .ok t) ↔ Admissible registry (placeholders source)) ∧
    (∀ e, compile registry source = .error e ↔ ∃ before p after,
      placeholders source = before ++ p :: after ∧ Admissible registry before ∧
        Fault registry source (before.map Prod.fst) p e) ∧
    Artifacts.build registry source = (compile registry source).map artifacts ∧
    ∀ t, compile registry source = .ok t →
      t.format = erased source ∧ t.names = (placeholders source).map Prod.fst ∧ t.names.Nodup ∧
      t.artifacts.Agrees t ∧ t.fill .empty none = .ok (t.format, .empty) ∧
      ∀ again : Registry, again.contains "str" = true → Readable again t.format →
        ∃ u, compile again t.format = .ok u ∧ u.format = t.format ∧ u.names = t.names := by
  refine ⟨fun ps out => erases_source_iff, exists_compile_iff_admissible hread, fun e => ?_,
    build_eq_map hread, fun t ht => ?_⟩
  · rw [compile_eq_error_iff hread]
    constructor
    · rintro ⟨before, p, after, hps, hbefore, _, hfault⟩
      exact ⟨before, p, after, hps, hbefore, hfault⟩
    · rintro ⟨before, p, after, hps, hbefore, hfault⟩
      exact ⟨before, p, after, hps, hbefore, fun _ _ => List.not_mem_nil, hfault⟩
  · have hformat := format_of_compile ht
    have hnames : t.names = (placeholders source).map Prod.fst :=
      (names_of_mapM (compile_eq_ok_iff.mp ht).2).1
    refine ⟨hformat, hnames, t.distinct, agrees_of_compile ht, fill_empty t, ?_⟩
    intro again hstr hagain
    rw [hformat] at hagain ⊢
    rw [hnames]
    exact exists_compile_format (hnames ▸ t.distinct) hstr hagain

theorem readable_builtin (source : String) : Readable .builtin source :=
  fun _ _ _ hget => read?_builtin hget

/-- A prefix with two holes, one of which gives its kind. -/
theorem artifacts_agree_teams : ∃ t,
    compile .builtin "/teams/{team:int}/{member}" = .ok t ∧
      t.format = "/teams/{team}/{member}" ∧ t.names = ["team", "member"] ∧
      t.artifacts.Agrees t ∧ ∃ u, compile .builtin t.format = .ok u ∧ u.format = t.format := by
  have hread := readable_builtin "/teams/{team:int}/{member}"
  have hplaceholders : placeholders "/teams/{team:int}/{member}" =
      [("team", "int"), ("member", "str")] := by decide +kernel
  have herased : erased "/teams/{team:int}/{member}" =
      "/teams/{team}/{member}" := by decide +kernel
  obtain ⟨_, hok, _, _, hall⟩ := artifacts_agree hread
  rw [hplaceholders] at hok
  obtain ⟨t, ht⟩ := hok.mpr ⟨by decide, by decide⟩
  obtain ⟨hformat, hnames, _, hagrees, _, hagain⟩ := hall t ht
  obtain ⟨u, hu, huformat, _⟩ := hagain .builtin (by decide) (readable_builtin _)
  rw [hplaceholders] at hnames
  exact ⟨t, ht, hformat.trans herased, hnames, hagrees, u, hu, huformat⟩

end Waymark.Template
