import Waymark.Proofs.Converter.Builtin
import Waymark.Proofs.Template.Refilling
import Waymark.Proofs.Text.Cut
import Waymark.Tree.Matching
import Waymark.Tree.Registration

/-!
# Registered nodes

A node comes into a tree by `new`, which compiles its template, and may be
given a name and methods afterwards. What follows from that alone is collected
here: a mount's template is the prefix, a slash and the hole for the rest
(`Mount.Registered.shape`), a route's template starts with a slash, and holes
over the builtin registry are of the builtin kinds.

With that the verdicts can be said without templates. `Mount.verdict_cases`
is the one that the walks through a tree rest on: a mount that matches cuts
the path in front of a slash, adds what its prefix reads from the first part
and leaves the second part; the byte arithmetic of `consumed` gives the first
part back whole.
-/

namespace Waymark

/-! ## Judging -/

namespace Template

theorem judge_of_reads {t : Template} {subject : String} {es : List (String × Value)}
    (h : Reads t.pieces subject.toList es) (verdict : Params → Verdict) :
    t.judge subject verdict = verdict (Params.ofList es) := by
  have hmatch : t.match? subject = some (.ok (Params.ofList es)) :=
    match?_eq_ok_iff.mpr (by rwa [Params.entries_ofList h.nodup])
  rw [judge, hmatch]

theorem judge_cases (t : Template) (subject : String) (verdict : Params → Verdict) :
    (∃ es, Reads t.pieces subject.toList es ∧
      t.judge subject verdict = verdict (Params.ofList es)) ∨
    (∀ es, ¬ Reads t.pieces subject.toList es) ∧
      (t.judge subject verdict).level = .none ∧ (t.judge subject verdict).child = {} := by
  by_cases h : ∃ es, Reads t.pieces subject.toList es
  · obtain ⟨es, h⟩ := h
    exact Or.inl ⟨es, h, judge_of_reads h verdict⟩
  · have hno : ∀ es, ¬ Reads t.pieces subject.toList es := fun es hes => h ⟨es, hes⟩
    refine Or.inr ⟨hno, ?_⟩
    rw [judge]
    cases hm : t.match? subject with
    | none => exact ⟨rfl, rfl⟩
    | some r =>
        cases r with
        | error e => exact ⟨rfl, rfl⟩
        | ok ps => exact absurd (match?_eq_ok_iff.mp hm) (hno _)

end Template

/-! ## Routes -/

namespace Route

/-- The route was built with the converters of a registry. -/
def Registered (registry : Registry) (r : Route) : Prop :=
  ∃ path fresh, Route.new registry path r.endpoint r.protocol = .ok fresh ∧
    r.template = fresh.template

theorem new_eq_ok_iff {registry : Registry} {path : String} {endpoint : Endpoint}
    {protocol : Protocol} {q : Route} : Route.new registry path endpoint protocol = .ok q ↔
      startsWithSlash path = true ∧ ∃ t, Template.compile registry path = .ok t ∧
        q = ⟨t, endpoint, endpoint.name,
          if protocol = .http && endpoint.isFunction then some ["GET", "HEAD"] else none,
          protocol, true⟩ := by
  simp only [Route.new]
  cases startsWithSlash path with
  | false => exact iff_of_false (fun h => nomatch h) (by simp)
  | true =>
      constructor
      · intro h
        obtain ⟨t, ht, h⟩ := Except.bind_eq_ok_iff.mp h
        exact ⟨rfl, t, ht, (Except.ok.inj h).symm⟩
      · rintro ⟨_, t, ht, rfl⟩
        exact Except.bind_eq_ok_iff.mpr ⟨t, ht, rfl⟩

theorem new_of_compile {registry : Registry} {path : String} {t : Template}
    (hslash : startsWithSlash path = true) (ht : Template.compile registry path = .ok t)
    (endpoint : Endpoint) (protocol : Protocol) :
    ∃ r, Route.new registry path endpoint protocol = .ok r ∧ r.template = t ∧
      r.endpoint = endpoint ∧ r.protocol = protocol := by
  exact ⟨_, new_eq_ok_iff.mpr ⟨hslash, t, ht, rfl⟩, rfl, rfl, rfl⟩

/-- The text of a route starts with a slash, and so does what its template matches. -/
theorem Registered.template_eq {registry : Registry} {r : Route} (h : r.Registered registry) :
    startsWithSlash r.path = true ∧ Template.compile registry r.path = .ok r.template := by
  obtain ⟨path, fresh, hnew, heq⟩ := h
  obtain ⟨hslash, t, hcomp, rfl⟩ := new_eq_ok_iff.mp hnew
  have hpath : r.path = path := by rw [Route.path, heq, (Template.compile_eq_ok_iff.mp hcomp).1]
  rw [hpath, heq]
  exact ⟨hslash, hcomp⟩

theorem Registered.slashLed {registry : Registry} {r : Route} (h : r.Registered registry) :
    Template.SlashLed (Template.atoms r.template.pieces) := by
  obtain ⟨hslash, hcomp⟩ := h.template_eq
  have hat := Template.atoms?_of_compile hcomp
  obtain ⟨cs, hcs⟩ := List.head?_eq_some_iff.mp (eq_of_beq hslash)
  rw [hcs] at hat
  obtain ⟨as, has⟩ := Template.atoms?_slash hat
  rw [has]
  exact Template.slashLed_literal [] as

theorem Registered.builtin {r : Route} (h : r.Registered .builtin) :
    ∀ hole ∈ r.template.holes, hole.Builtin :=
  Template.builtin_of_compile h.template_eq.2

/-- What a route adds to a scope whose path its template reads. -/
def contribution (r : Route) (s : Scope) (es : List (String × Value)) : Contribution :=
  { params := some (s.params.merge (Params.ofList es)), endpoint := some r.endpoint }

def verdictOn (r : Route) (s : Scope) (es : List (String × Value)) : Verdict :=
  if r.refusesMethod s then .partly (r.contribution s es) else .full (r.contribution s es)

theorem verdict_of_reads {r : Route} {s : Scope} (hserves : r.serves s.kind = true)
    {es : List (String × Value)} (h : Template.Reads r.template.pieces s.path.toList es) :
    r.verdict s = r.verdictOn s es := by
  rw [verdict, hserves, Template.judge_of_reads h]
  rfl

theorem verdict_cases (r : Route) (s : Scope) :
    (r.serves s.kind = true ∧ ∃ es, Template.Reads r.template.pieces s.path.toList es ∧
      r.verdict s = r.verdictOn s es) ∨
    (r.serves s.kind = true → ∀ es, ¬ Template.Reads r.template.pieces s.path.toList es) ∧
      (r.verdict s).level = .none ∧ (r.verdict s).child = {} := by
  cases hserves : r.serves s.kind with
  | false => exact Or.inr ⟨by simp, by simp [verdict, hserves, Verdict.level, Verdict.child]⟩
  | true =>
      rw [verdict, hserves]
      rcases r.template.judge_cases s.path _ with ⟨es, hes, heq⟩ | ⟨hno, hlevel, hchild⟩
      · exact Or.inl ⟨rfl, es, hes, heq⟩
      · exact Or.inr ⟨fun _ => hno, hlevel, hchild⟩

end Route

/-! ## Mounts -/

theorem slash_dropTrailing {s : String} (h : s = "" ∨ startsWithSlash s = true) :
    Text.dropTrailing '/' s = "" ∨ startsWithSlash (Text.dropTrailing '/' s) = true := by
  obtain ⟨tail, htail⟩ := Text.trimEnd_prefix (· == '/') s.toList
  rw [startsWithSlash, Text.dropTrailing, String.toList_ofList]
  cases hcs : Text.trimEnd (· == '/') s.toList with
  | nil => exact Or.inl rfl
  | cons c cs =>
      rw [hcs] at htail
      rcases h with rfl | hslash
      · cases htail
      · rw [startsWithSlash, ← htail] at hslash
        exact Or.inr hslash

namespace Mount

def restHole : Hole := ⟨rest, Converter.path, Converter.linePattern⟩

/-- What a mount's template has behind its prefix. -/
def restPieces : List Piece := [.literal ['/'], .hole restHole]

/-- The mount was built with the converters of a registry; it may have got a name since. -/
def Registered (registry : Registry) (m : Mount) : Prop :=
  ∃ path, Mount.new registry path m.target = .ok { m with name := none }

/-- The form of a mount whose prefix has the given atoms. -/
structure Shape (registry : Registry) (m : Mount) (lead : List Piece) : Prop where
  source_eq : m.template.source = m.path ++ "/\x7bpath:path\x7d"
  lead_eq : Template.atoms? registry m.path.toList = some lead
  pieces_eq : Template.atoms m.template.pieces = lead ++ restPieces
  led : m.path.toList = [] ∨ m.path.toList.head? = some '/'
  trimmed : ∀ c ∈ m.path.toList.getLast?, (c == '/') = false

theorem atoms?_rest {registry : Registry} (hpath : registry.get? "path" = some Converter.path) :
    Template.atoms? registry "/\x7bpath:path\x7d".toList = some restPieces := by
  have hparts : Template.parts "/\x7bpath:path\x7d".toList =
      [.literal ['/'], .hole "path".toList "path".toList] := by decide +kernel
  have hkind : String.ofList "path".toList = "path" := String.ofList_toList
  rw [Template.atoms?, hparts]
  simp only [List.mapM_cons, List.mapM_nil, Piece.of?, hkind, hpath, Option.bind_eq_bind,
    Option.bind_some, Converter.read?_path]
  rfl

theorem new_eq_ok_iff {registry : Registry} {path : String} {target : Endpoint} {m : Mount} :
    Mount.new registry path target = .ok m ↔ (path = "" ∨ startsWithSlash path = true) ∧
      ∃ t, Template.compile registry (Text.dropTrailing '/' path ++ "/\x7bpath:path\x7d") = .ok t ∧
        m = ⟨Text.dropTrailing '/' path, t, target, none⟩ := by
  have hled : (path.isEmpty || startsWithSlash path) = true ↔
      path = "" ∨ startsWithSlash path = true := by rw [Bool.or_eq_true, String.isEmpty_iff]
  rw [← hled]
  simp only [Mount.new]
  cases path.isEmpty || startsWithSlash path with
  | false => exact iff_of_false (fun h => nomatch h) (by simp)
  | true =>
      constructor
      · intro h
        obtain ⟨t, ht, h⟩ := Except.bind_eq_ok_iff.mp h
        exact ⟨rfl, t, ht, (Except.ok.inj h).symm⟩
      · rintro ⟨_, t, ht, rfl⟩
        exact Except.bind_eq_ok_iff.mpr ⟨t, ht, rfl⟩

/-- The prefix of a mount is empty or starts with a slash, and it ends in none. -/
theorem Registered.compile {registry : Registry} {m : Mount} (h : m.Registered registry) :
    (m.path = "" ∨ startsWithSlash m.path = true) ∧
      (∀ c ∈ m.path.toList.getLast?, (c == '/') = false) ∧
      Template.compile registry (m.path ++ "/\x7bpath:path\x7d") = .ok m.template := by
  obtain ⟨path, hnew⟩ := h
  obtain ⟨hled, t, hcomp, heq⟩ := new_eq_ok_iff.mp hnew
  simp only [Mount.mk.injEq] at heq
  obtain ⟨hstem, rfl, _⟩ := heq
  rw [hstem]
  refine ⟨slash_dropTrailing hled, fun c hc => ?_, hcomp⟩
  rw [Text.dropTrailing, String.toList_ofList] at hc
  exact Text.getLast?_trimEnd (p := (· == '/')) hc

/-- The template of a mount is its prefix, a slash and the hole for the rest. -/
theorem Registered.shape {registry : Registry} {m : Mount} (h : m.Registered registry)
    (hpath : registry.get? "path" = some Converter.path) : ∃ lead, m.Shape registry lead := by
  obtain ⟨hled, htrimmed, hcomp⟩ := h.compile
  have hat := Template.atoms?_of_compile hcomp
  rw [String.toList_append, Template.atoms?_append registry m.path.toList rfl,
    atoms?_rest hpath] at hat
  obtain ⟨lead, hlead, hat⟩ := Option.bind_eq_some_iff.mp hat
  refine ⟨lead, (Template.compile_eq_ok_iff.mp hcomp).1, hlead, (Option.some.inj hat).symm, ?_,
    htrimmed⟩
  exact hled.imp String.toList_eq_nil_iff.mpr eq_of_beq

/-- What is read for the rest: a slash, and the path behind it as it is. -/
theorem reads_rest_iff {cs : List Char} {es : List (String × Value)} :
    Template.Reads restPieces cs es ↔
      ∃ w, cs = '/' :: w ∧ '\n' ∉ w ∧ es = [(rest, .str (String.ofList w))] := by
  have hholes : Template.holesOf restPieces = [restHole] := rfl
  constructor
  · rintro ⟨us, hus, hes⟩
    obtain ⟨hfits, rfl⟩ := Template.capturePieces?_sound hus
    rw [hholes] at hfits hes
    cases hfits with
    | @cons _ w _ _ hw hnil =>
        cases hnil
        cases hes
        refine ⟨w, ?_, Converter.accepts_line.mp hw, rfl⟩
        simp [restPieces, Template.assemble]
  · rintro ⟨w, rfl, hw, rfl⟩
    have hfits : Template.Fits (Template.holesOf restPieces) [w] :=
      .cons (Converter.accepts_line.mpr hw) .nil
    have hass : Template.assemble restPieces [w] = '/' :: w := by
      simp [restPieces, Template.assemble]
    obtain ⟨us, hus⟩ := Option.isSome_iff_exists.mp (Template.capturePieces?_isSome hfits)
    rw [hass] at hus
    refine ⟨us, hus, ?_⟩
    obtain ⟨hfits', hass'⟩ := Template.capturePieces?_sound hus
    cases hfits' with
    | @cons _ w' _ _ hw' hnil =>
        cases hnil
        obtain rfl : w' = w := by simpa [restPieces, Template.assemble] using hass'
        rfl

theorem restPieces_led : Template.SlashLed restPieces := Template.slashLed_literal [] _

theorem names_rest : restPieces.filterMap Piece.name? = [rest] := rfl

/-- The holes of a mount's prefix: the hole for the rest is not among them. -/
def prefixHoles (m : Mount) : List Hole := m.template.holes.filter (·.name != rest)

theorem mem_prefixHoles {m : Mount} {h : Hole} :
    h ∈ m.prefixHoles ↔ h ∈ m.template.holes ∧ h.name ≠ rest := by
  rw [prefixHoles, List.mem_filter, bne_iff_ne]

namespace Shape

variable {registry : Registry} {m : Mount} {lead : List Piece} (hs : m.Shape registry lead)

include hs

/-- The names of the prefix differ from each other and from the name of the rest. -/
theorem nodup_names : (lead.filterMap Piece.name? ++ [rest]).Nodup := by
  have hd := m.template.distinct
  rwa [← Template.names_atoms, hs.pieces_eq, List.filterMap_append, names_rest] at hd

theorem name_ne_rest {h : Hole} (hmem : h ∈ Template.holesOf lead) : h.name ≠ rest := by
  have hname : h.name ∈ lead.filterMap Piece.name? := by
    rw [Template.names_eq_map_holes]
    exact List.mem_map_of_mem hmem
  exact (List.nodup_append.mp hs.nodup_names).2.2 _ hname _ (List.mem_singleton_self _)

theorem nodup_entries {a : List Char} {as : List (String × Value)}
    (ha : Template.Reads lead a as) : (as.map (·.1)).Nodup :=
  ha.names ▸ (List.nodup_append.mp hs.nodup_names).1

theorem prefixHoles_eq : m.prefixHoles = Template.holesOf lead := by
  have hholes : m.template.holes = Template.holesOf lead ++ [restHole] := by
    rw [Template.holes, ← Template.holes_atoms, hs.pieces_eq, List.filterMap_append]
    rfl
  have hkeep : (Template.holesOf lead).filter (·.name != rest) = Template.holesOf lead := by
    refine List.filter_eq_self.mpr fun h hmem => ?_
    simpa using hs.name_ne_rest hmem
  rw [prefixHoles, hholes, List.filter_append, hkeep]
  simp [restHole]

theorem slashFree (hreg : registry = .builtin)
    (hpath : ∀ h ∈ m.prefixHoles, h.converter ≠ Converter.path) : Template.SlashFree lead := by
  subst hreg
  intro h hmem
  have hbuiltin := Template.builtin_of_atoms? hs.lead_eq h hmem
  exact hbuiltin.avoids_slash (hpath h (hs.prefixHoles_eq ▸ hmem))

/-- A mount that matches cuts the path at a slash: its prefix reads the first part, and the
rest is what follows the slash. -/
theorem reads_split {cs : List Char} {es : List (String × Value)}
    (h : Template.Reads m.template.pieces cs es) :
    ∃ a w as, cs = a ++ '/' :: w ∧ '\n' ∉ w ∧ Template.Reads lead a as ∧
      es = as ++ [(rest, .str (String.ofList w))] := by
  rw [← Template.reads_atoms, hs.pieces_eq] at h
  obtain ⟨a, b, as, bs, rfl, ha, hb, rfl⟩ := h.split
  obtain ⟨w, rfl, hw, rfl⟩ := reads_rest_iff.mp hb
  exact ⟨a, w, as, rfl, hw, ha, rfl⟩

theorem reads_of_slashFree (hfree : Template.SlashFree lead) {a w : List Char} (hw : '\n' ∉ w)
    {as : List (String × Value)} (ha : Template.Reads lead a as) :
    Template.Reads m.template.pieces (a ++ '/' :: w)
      (as ++ [(rest, .str (String.ofList w))]) := by
  rw [← Template.reads_atoms, hs.pieces_eq, Template.reads_append_iff hfree restPieces_led]
  exact ⟨a, '/' :: w, as, _, rfl, ha, reads_rest_iff.mpr ⟨w, rfl, hw, rfl⟩, rfl⟩

/-- What a prefix reads starts with a slash, unless it is nothing. -/
theorem led_of_reads {a : List Char} {as : List (String × Value)}
    (ha : Template.Reads lead a as) : a = [] ∨ a.head? = some '/' := by
  obtain ⟨us, hus, _⟩ := ha
  have hlead := hs.lead_eq
  rcases hs.led with hnil | hslash
  · rw [hnil, Template.atoms?_nil] at hlead
    cases hlead
    exact Or.inl (Template.capturePieces?_sound hus).2.symm
  · obtain ⟨cs, hcs⟩ := List.head?_eq_some_iff.mp hslash
    rw [hcs] at hlead
    obtain ⟨as', rfl⟩ := Template.atoms?_slash hlead
    exact Or.inr (Template.slashLed_literal [] as' _ _ hus)

theorem erase_rest {a : List Char} {as : List (String × Value)} (ha : Template.Reads lead a as)
    (v : Value) : (Params.ofList (as ++ [(rest, v)])).erase rest = Params.ofList as ∧
      (Params.ofList (as ++ [(rest, v)])).get? rest = some v := by
  have hnames : ((as ++ [(rest, v)]).map (·.1)).Nodup := by
    rw [List.map_append, ha.names]
    exact hs.nodup_names
  have hnew : ∀ e ∈ as, e.1 ≠ rest := by
    intro e he heq
    have hmem : rest ∈ lead.filterMap Piece.name? :=
      ha.names ▸ heq ▸ List.mem_map_of_mem he
    exact (List.nodup_append.mp hs.nodup_names).2.2 _ hmem _ (List.mem_singleton_self _) rfl
  constructor
  · refine Params.ext ?_
    rw [Params.erase, Params.restrict, Params.entries_ofList (hs.nodup_entries ha)]
    simp only [Params.entries_ofList hnames, List.filter_append]
    have hkeep : as.filter (fun e => e.1 != rest) = as :=
      List.filter_eq_self.mpr fun e he => by simpa using hnew e he
    rw [hkeep]
    simp
  · rw [Params.get?_eq_some_iff, Params.entries_ofList hnames]
    simp

end Shape

/-- What a mount adds to a scope whose path it cuts into `a` and `/w`. -/
def contribution (m : Mount) (s : Scope) (a w : List Char) (as : List (String × Value)) :
    Contribution where
  params := some (s.params.merge (Params.ofList as))
  endpoint := some m.target
  path := some (String.ofList ('/' :: w))
  rootPath := some (s.rootPath ++ String.ofList a)
  appRootPath := some (s.appRootPath.getD s.rootPath)

/-- The bytes in front of what is left are those of the first part. -/
theorem consumed_eq {path remaining : String} {a b : List Char} (hpath : path.toList = a ++ b)
    (hremaining : remaining.toList = b) : consumed path remaining = String.ofList a := by
  have hbytes : Text.utf8Length (a ++ b) - Text.utf8Length b = Text.utf8Length a := by
    rw [Text.utf8Length_append]
    omega
  rw [consumed, hpath, hremaining]
  simp only [hbytes, Text.cutBytes?_utf8Length, Option.map_some, Option.getD_some]

theorem verdict_of_cut {registry : Registry} {m : Mount} {lead : List Piece}
    (hs : m.Shape registry lead) {s : Scope} (hk : s.kind.isRouted = true) {a w : List Char}
    (hpath : s.path.toList = a ++ '/' :: w) {as : List (String × Value)}
    (ha : Template.Reads lead a as)
    (h : Template.Reads m.template.pieces s.path.toList
      (as ++ [(rest, .str (String.ofList w))])) :
    m.verdict s = .full (m.contribution s a w as) := by
  obtain ⟨herase, hget⟩ := hs.erase_rest ha (.str (String.ofList w))
  have hremaining : "/" ++ String.ofList w = String.ofList ('/' :: w) := by
    rw [← String.toList_inj]
    simp
  rw [verdict, hk, Template.judge_of_reads h]
  simp only [restOf, hget, herase, Option.map_some, Option.getD_some, Value.text, hremaining]
  rw [consumed_eq hpath String.toList_ofList]
  rfl

/-- A mount matches by cutting the path at a slash, or not at all. -/
theorem verdict_cases {registry : Registry} {m : Mount} {lead : List Piece}
    (hs : m.Shape registry lead) (s : Scope) :
    (s.kind.isRouted = true ∧ ∃ a w as, s.path.toList = a ++ '/' :: w ∧ '\n' ∉ w ∧
      Template.Reads lead a as ∧ m.verdict s = .full (m.contribution s a w as)) ∨
    (s.kind.isRouted = true → ∀ es, ¬ Template.Reads m.template.pieces s.path.toList es) ∧
      (m.verdict s).level = .none ∧ (m.verdict s).child = {} := by
  cases hk : s.kind.isRouted with
  | false => exact Or.inr ⟨by simp, by simp [verdict, hk, Verdict.level, Verdict.child]⟩
  | true =>
      by_cases h : ∃ es, Template.Reads m.template.pieces s.path.toList es
      · obtain ⟨es, h⟩ := h
        obtain ⟨a, w, as, hpath, hw, ha, rfl⟩ := hs.reads_split h
        exact Or.inl ⟨rfl, a, w, as, hpath, hw, ha, verdict_of_cut hs hk hpath ha h⟩
      · have hno : ∀ es, ¬ Template.Reads m.template.pieces s.path.toList es :=
          fun es hes => h ⟨es, hes⟩
        refine Or.inr ⟨fun _ => hno, ?_⟩
        rw [verdict, hk]
        rcases m.template.judge_cases s.path _ with ⟨es, hes, _⟩ | ⟨_, hlevel, hchild⟩
        · exact absurd hes (hno es)
        · exact ⟨hlevel, hchild⟩

end Mount

/-! ## Hosts -/

namespace HostGate

/-- The gate was built with the converters of a registry; it may have got a name since. -/
def Registered (registry : Registry) (h : HostGate) : Prop :=
  ∃ host, HostGate.new registry host h.target = .ok { h with name := none }

theorem new_eq_ok_iff {registry : Registry} {host : String} {target : Endpoint} {g : HostGate} :
    HostGate.new registry host target = .ok g ↔
      ∃ t, Template.compile registry host = .ok t ∧ g = ⟨t, target, none⟩ := by
  constructor
  · intro h
    obtain ⟨t, ht, h⟩ := Except.bind_eq_ok_iff.mp h
    exact ⟨t, ht, (Except.ok.inj h).symm⟩
  · rintro ⟨t, ht, rfl⟩
    exact Except.bind_eq_ok_iff.mpr ⟨t, ht, rfl⟩

theorem Registered.compile {registry : Registry} {h : HostGate} (hr : h.Registered registry) :
    ∃ host, Template.compile registry host = .ok h.template := by
  obtain ⟨host, hnew⟩ := hr
  obtain ⟨t, ht, heq⟩ := new_eq_ok_iff.mp hnew
  simp only [HostGate.mk.injEq] at heq
  exact ⟨host, heq.1 ▸ ht⟩

theorem Registered.builtin {h : HostGate} (hr : h.Registered .builtin) :
    ∀ hole ∈ h.template.holes, hole.Builtin := by
  obtain ⟨host, hcomp⟩ := hr.compile
  exact Template.builtin_of_compile hcomp

/-- What a gate adds to a scope whose host name its template reads. -/
def contribution (h : HostGate) (s : Scope) (es : List (String × Value)) : Contribution :=
  { params := some (s.params.merge (Params.ofList es)), endpoint := some h.target }

theorem verdict_cases (h : HostGate) (s : Scope) :
    (s.kind.isRouted = true ∧ ∃ es, Template.Reads h.template.pieces s.hostname.toList es ∧
      h.verdict s = .full (h.contribution s es)) ∨
    (h.verdict s).level = .none ∧ (h.verdict s).child = {} := by
  cases hk : s.kind.isRouted with
  | false => exact Or.inr (by simp [verdict, hk, Verdict.level, Verdict.child])
  | true =>
      rw [verdict, hk]
      rcases h.template.judge_cases s.hostname _ with ⟨es, hes, heq⟩ | ⟨_, hlevel, hchild⟩
      · exact Or.inl ⟨rfl, es, hes, heq⟩
      · exact Or.inr ⟨hlevel, hchild⟩

end HostGate

/-! ## Nodes -/

namespace Node

/-- The node was built with the converters of a registry. -/
def Registered (registry : Registry) : Node → Prop
  | .route r => r.Registered registry
  | .mount m => m.Registered registry
  | .host h => h.Registered registry
  | .lifespan _ => True

/-- The holes of a node: those of its template, for a mount those of the prefix. -/
def holes : Node → List Hole
  | .route r => r.template.holes
  | .mount m => m.prefixHoles
  | .host h => h.template.holes
  | .lifespan _ => []

def subtree? : Node → Option Endpoint
  | .route _ => none
  | .mount m => some m.target
  | .host h => some h.target
  | .lifespan _ => none

theorem sizeOf_subtree {n k : Node} {e : Endpoint} {inner : Router} (he : n.subtree? = some e)
    (ht : e.target = .router inner) (hk : k ∈ inner.nodes) : sizeOf k < sizeOf n := by
  have hmem := List.sizeOf_lt_of_mem hk
  obtain ⟨nodes, redirects, fallback, lifespan⟩ := inner
  obtain ⟨handler, handle, target⟩ := e
  cases ht
  cases n with
  | route r => cases he
  | mount m =>
      obtain ⟨path, template, endpoint, name⟩ := m
      cases he
      simp
      simp at hmem
      omega
  | host g =>
      obtain ⟨template, endpoint, name⟩ := g
      cases he
      simp
      simp at hmem
      omega
  | lifespan l => cases he

end Node

namespace Router

/-- A chain of nodes, each of them below the one before it. -/
inductive Chain : Router → List Node → Prop
  | last {r : Router} {n : Node} (hn : n ∈ r.nodes) : Chain r [n]
  | cons {r : Router} {n : Node} {e : Endpoint} {inner : Router} {ns : List Node}
      (hn : n ∈ r.nodes) (he : n.subtree? = some e) (ht : e.target = .router inner)
      (h : Chain inner ns) : Chain r (n :: ns)

end Router

/-! ## A site of two levels

Posts of users, below one mount: `/users/{id:int}/posts/{slug}` in two parts. -/

namespace Site

def idHole : Hole := ⟨"id", Converter.int, Converter.digitsPattern⟩

def slugHole : Hole := ⟨"slug", Converter.str, Converter.segmentPattern⟩

def page : Endpoint := ⟨"page", ⟨[1]⟩, .handler⟩

def post : Route where
  template := ⟨"/posts/\x7bslug\x7d", [.literal "/posts/".toList, .hole slugHole], by decide⟩
  endpoint := page
  name := "post"
  methods := none
  protocol := .http
  includeInSchema := true

def posts : Router := .ofNodes ⟨[2]⟩ [.route post]

def users : Mount where
  path := "/users/\x7bid:int\x7d"
  template := ⟨"/users/\x7bid:int\x7d/\x7bpath:path\x7d",
    [.literal "/users/".toList, .hole idHole, .literal ['/'], .hole Mount.restHole], by decide⟩
  target := .ofRouter ⟨[3]⟩ posts
  name := some "users"

theorem registered_post : post.Registered .builtin := by
  have hparts : Template.parts "/posts/\x7bslug\x7d".toList =
      [.literal "/posts/".toList, .hole "slug".toList "str".toList] := by decide +kernel
  have hcomp : Template.compile .builtin "/posts/\x7bslug\x7d" = .ok post.template := by
    refine Template.compile_eq_ok_iff.mpr ⟨rfl, ?_⟩
    rw [hparts]
    rfl
  obtain ⟨r, hnew, htemplate, _, _⟩ :=
    Route.new_of_compile (by decide) hcomp post.endpoint post.protocol
  exact ⟨_, r, hnew, htemplate.symm⟩

theorem registered_users : users.Registered .builtin := by
  have hparts : Template.parts "/users/\x7bid:int\x7d/\x7bpath:path\x7d".toList =
      [.literal "/users/".toList, .hole "id".toList "int".toList, .literal ['/'],
        .hole "path".toList "path".toList] := by decide +kernel
  have hcomp : Template.compile .builtin "/users/\x7bid:int\x7d/\x7bpath:path\x7d" =
      .ok users.template := by
    refine Template.compile_eq_ok_iff.mpr ⟨rfl, ?_⟩
    rw [hparts]
    rfl
  have hstem : Text.dropTrailing '/' "/users/\x7bid:int\x7d" ++ "/\x7bpath:path\x7d" =
      "/users/\x7bid:int\x7d/\x7bpath:path\x7d" := by decide +kernel
  refine ⟨"/users/\x7bid:int\x7d", ?_⟩
  have hslash : ("/users/\x7bid:int\x7d".isEmpty ||
      startsWithSlash "/users/\x7bid:int\x7d") = true := by decide +kernel
  simp only [Mount.new, hslash, hstem, hcomp]
  rfl

def root : Router := .ofNodes ⟨[4]⟩ [.mount users]

def visit : Scope := .request "GET" "/users/7/posts/a"

theorem prefixHoles_users : ∀ h ∈ users.prefixHoles, h.converter ≠ Converter.path := by
  intro h hmem heq
  obtain rfl := List.mem_singleton.mp (show h ∈ [idHole] from hmem)
  exact absurd (congrArg Converter.pattern heq) (by decide)

theorem exists_lead_users : ∃ lead, users.Shape .builtin lead ∧ Template.SlashFree lead ∧
    Template.Reads lead "/users/7".toList [("id", .int 7)] := by
  obtain ⟨lead, hs⟩ := registered_users.shape rfl
  have hreads : Template.Reads users.template.pieces "/users/7/posts/a".toList
      [("id", .int 7), (Mount.rest, .str (String.ofList "posts/a".toList))] :=
    ⟨["7".toList, "posts/a".toList], by decide, rfl⟩
  obtain ⟨a, w, as, hcut, _, ha, hes⟩ := hs.reads_split hreads
  have hes' : [("id", Value.int 7)] ++ [(Mount.rest, .str (String.ofList "posts/a".toList))] =
      as ++ [(Mount.rest, .str (String.ofList w))] := hes
  obtain ⟨rfl, hrest⟩ := List.append_inj' hes' rfl
  have hw : w = "posts/a".toList := by
    simp only [List.cons.injEq, Prod.mk.injEq, Value.str.injEq, true_and, and_true] at hrest
    exact (String.ofList_injective hrest).symm
  subst hw
  have hcut' : "/users/7".toList ++ '/' :: "posts/a".toList = a ++ '/' :: "posts/a".toList := hcut
  obtain ⟨rfl, _⟩ := List.append_inj' hcut' rfl
  exact ⟨lead, hs, hs.slashFree rfl prefixHoles_users, ha⟩

theorem verdict_users_of_cut {s : Scope} (hk : s.kind.isRouted = true) {w : List Char}
    (hw : '\n' ∉ w) (hpath : s.path.toList = "/users/7".toList ++ '/' :: w) :
    users.verdict s = .full (users.contribution s "/users/7".toList w [("id", .int 7)]) := by
  obtain ⟨lead, hs, hfree, ha⟩ := exists_lead_users
  exact Mount.verdict_of_cut hs hk hpath ha (hpath ▸ hs.reads_of_slashFree hfree hw ha)

theorem verdict_users {s : Scope} (hk : s.kind.isRouted = true)
    (hpath : s.path = "/users/7/posts/a") :
    users.verdict s =
      .full (users.contribution s "/users/7".toList "posts/a".toList [("id", .int 7)]) :=
  verdict_users_of_cut hk (by decide) (by rw [hpath]; rfl)

theorem verdict_post {s : Scope} (hk : s.kind = .request) (hpath : s.path = "/posts/a") :
    post.verdict s = .full (post.contribution s [("slug", .str "a")]) := by
  have hreads : Template.Reads post.template.pieces s.path.toList [("slug", .str "a")] := by
    rw [hpath]
    exact ⟨["a".toList], by decide, rfl⟩
  have hserves : post.serves s.kind = true := by
    rw [hk]
    rfl
  rw [Route.verdict_of_reads hserves hreads]
  rfl

end Site

end Waymark
