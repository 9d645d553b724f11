import Waymark.Proofs.Template.Refilling
import Waymark.Proofs.Tree.Descent
import Waymark.Proofs.Tree.Lookup

/-!
# From parameters to a path and back

A path that a name resolves to leads back to where it came from: the nodes
that resolved the name match again, from the first on down, and each mount
cuts the path exactly where it was joined (`Node.rematches`).

Resolving writes one behind the other what the nodes fill in, and each of them
has its say by itself. So what has to be shown is that the joints can be seen.
A filled prefix has as many slashes as its template, whatever the values are
(`Mount.verdict_of_cut` needs no more), and what comes behind it starts with a
slash (`Node.Resolves.path_eq`). Inside a template the same goes for each
value (`Template.Delimited`).

`Node.Resolves` keeps the nodes that took part in an answer, and what each of
them answered. It is the other half of the search: every answer has such a
chain (`Node.exists_resolves`), and all else is an induction on it.
-/

namespace Waymark

/-! ## Templates that can be taken apart -/

/-- A template of one line whose values can be told apart again when it is filled. -/
structure Template.Separable (t : Template) : Prop where
  unrounded : ∀ h ∈ t.holes, h.converter ≠ Converter.float
  delimited : Template.Delimited t.pieces
  line : '\n' ∉ t.source.toList

namespace Template

theorem line_of_atoms? {registry : Registry} {cs : List Char} {as : List Piece}
    (h : atoms? registry cs = some as) (hline : '\n' ∉ cs) :
    ∀ t, .literal t ∈ as → '\n' ∉ t := by
  intro t ht hin
  obtain ⟨c, hc, rfl⟩ := mem_of_literal_mem h ht
  obtain rfl := List.mem_singleton.mp hin
  exact hline hc

end Template

theorem Hole.Regains.mono {h : Hole} {left params : Params} {es : List (String × Value)}
    (hr : h.Regains left es) (hsub : ∀ k v, left.get? k = some v → params.get? k = some v) :
    h.Regains params es := by
  obtain ⟨v, t, w, hv, ht, hw, hin⟩ := hr
  exact ⟨v, t, w, hsub _ _ hv, ht, hw, hin⟩

/-! ## Taking a filled path -/

namespace Node

/-- The node matches, and captures what its converters make of the texts that they write for
the parameters. -/
structure Recovers (n : Node) (params : Params) (s : Scope) : Prop where
  matched : (n.verdict s).matched = true
  captured : ∀ h ∈ n.holes, h.Regains params (n.captured s).entries

theorem Recovers.mono {n : Node} {left params : Params} {s : Scope} (h : n.Recovers left s)
    (hsub : ∀ k v, left.get? k = some v → params.get? k = some v) : n.Recovers params s :=
  ⟨h.matched, fun hole hmem => (h.captured hole hmem).mono hsub⟩

end Node

namespace Route

/-- A route reads the path that it answers with: it starts with a slash, and it is one line. -/
theorem reads_of_urlPath? {r : Route} (hreg : r.Registered .builtin)
    (hsep : r.template.Separable) {name : String} {params : Params} (hline : params.InLine)
    {u : UrlPath} (h : r.urlPath? name params = some u) :
    ∃ es, Template.Reads r.template.pieces u.path.toList es ∧
      (∀ hole ∈ r.template.holes, hole.Regains params es) ∧
      u.path.toList.head? = some '/' ∧ '\n' ∉ u.path.toList := by
  obtain ⟨hanswers, text, hfill, rfl⟩ := urlPath?_eq_some_iff.mp h
  simp only [answersTo, Bool.and_eq_true] at hanswers
  have hcomp := hreg.template_eq.2
  have hat := Template.atoms?_of_compile hcomp
  have hbuiltin : ∀ hole ∈ r.template.holes,
      hole.Builtin ∧ hole.converter ≠ Converter.float :=
    fun hole hmem => ⟨hreg.builtin hole hmem, hsep.unrounded hole hmem⟩
  have hcovered : ∀ hole ∈ r.template.holes,
      none ≠ some hole.name ∧ params.contains hole.name = true :=
    fun hole hmem => ⟨nofun, Template.covered_iff.mp hanswers.2 hole hmem nofun⟩
  obtain ⟨es, hreads, hregains⟩ :=
    Template.reads_of_fill hsep.delimited hbuiltin hcovered hline hfill
  refine ⟨es, ?_, hregains, ?_, ?_⟩
  · rw [String.toList_ofList]
    exact hreads
  · rw [String.toList_ofList]
    obtain ⟨us, hus, _⟩ := Template.reads_atoms.mpr hreads
    exact hreg.slashLed _ _ hus
  · rw [String.toList_ofList]
    rw [← Template.fillPieces_atoms] at hfill
    refine Template.line_of_fill (Template.line_of_atoms? hat hsep.line) ?_ ?_ hline hfill
    · rw [Template.holesOf_atoms]
      exact hbuiltin
    · rw [Template.holesOf_atoms]
      exact hcovered

theorem recovers_of_reads {r : Route} {s : Scope} (hserves : r.serves s.kind = true)
    {es : List (String × Value)} (h : Template.Reads r.template.pieces s.path.toList es)
    {params : Params} (hregains : ∀ hole ∈ r.template.holes, hole.Regains params es) :
    (Node.route r).Recovers params s := by
  constructor
  · rw [Node.verdict, verdict_of_reads hserves h, verdictOn]
    split <;> rfl
  · rw [Node.captured, Template.captured_of_reads h, Params.entries_ofList h.nodup]
    exact hregains

end Route

namespace Mount

variable {m : Mount} {lead : List Piece} {params : Params} {blank : Option String}

namespace Shape

variable (hs : m.Shape .builtin lead) (hsep : m.template.Separable)

include hs hsep

theorem separable_lead : Template.Delimited lead ∧
    (∀ h ∈ m.prefixHoles, h.converter ≠ Converter.path) ∧
    ∀ t, .literal t ∈ lead → '\n' ∉ t := by
  have hd : Template.Delimited (lead ++ restPieces) :=
    hs.pieces_eq ▸ Template.delimited_atoms hsep.delimited
  refine ⟨hd.of_append, ?_, Template.line_of_atoms? hs.lead_eq fun hin => hsep.line ?_⟩
  · rw [hs.prefixHoles_eq]
    exact hd.ne_path (by simp [restPieces])
  · rw [hs.source_eq, String.toList_append]
    exact List.mem_append_left _ hin

/-- The prefix of a mount reads the text that it was filled to: one line, which starts with a
slash unless there is nothing of it. -/
theorem reads_of_fill (hblank : ∀ k, k ≠ rest → blank ≠ some k)
    (hcovered : m.template.covered params (some rest) = true) (hline : params.InLine)
    {a : List Char} (hfill : Template.fillPieces params blank lead = .ok a) :
    ∃ as, Template.Reads lead a as ∧ (∀ h ∈ m.prefixHoles, h.Regains params as) ∧
      (a = [] ∨ a.head? = some '/') ∧ '\n' ∉ a := by
  obtain ⟨hd, _, hliteral⟩ := hs.separable_lead hsep
  have hholes : ∀ h ∈ Template.holesOf lead, h ∈ m.template.holes ∧ h.name ≠ rest := by
    intro h hmem
    rw [← hs.prefixHoles_eq] at hmem
    exact mem_prefixHoles.mp hmem
  have hbuiltin : ∀ h ∈ Template.holesOf lead, h.Builtin ∧ h.converter ≠ Converter.float :=
    fun h hmem => ⟨Template.builtin_of_atoms? hs.lead_eq h hmem,
      hsep.unrounded h (hholes h hmem).1⟩
  have hgiven : ∀ h ∈ Template.holesOf lead,
      blank ≠ some h.name ∧ params.contains h.name = true := by
    intro h hmem
    obtain ⟨hmem, hne⟩ := hholes h hmem
    refine ⟨hblank _ hne, Template.covered_iff.mp hcovered h hmem ?_⟩
    exact fun heq => hne (Option.some.inj heq)
  obtain ⟨as, hreads, hregains⟩ := Template.reads_of_fill hd hbuiltin hgiven hline hfill
  exact ⟨as, hreads, hs.prefixHoles_eq ▸ hregains, hs.led_of_reads hreads,
    Template.line_of_fill hliteral hbuiltin hgiven hline hfill⟩

end Shape

/-- A mount takes a path that starts with its filled prefix, and hands on what is behind it. -/
theorem recovers_of_cut (hs : m.Shape .builtin lead) (hsep : m.template.Separable) {s : Scope}
    (hk : s.kind.isRouted = true) {a w : List Char} (hpath : s.path.toList = a ++ '/' :: w)
    (hw : '\n' ∉ w) {as : List (String × Value)} (ha : Template.Reads lead a as)
    (hregains : ∀ h ∈ m.prefixHoles, h.Regains params as) :
    (Node.mount m).Recovers params s ∧
      (m.verdict s).child.path = some (String.ofList ('/' :: w)) := by
  have hfree := hs.slashFree rfl (hs.separable_lead hsep).2.1
  have hreads := hs.reads_of_slashFree hfree hw ha
  rw [← hpath] at hreads
  have hverdict := verdict_of_cut hs hk hpath ha hreads
  have hcaptured : ((Node.mount m).captured s).entries = as := by
    rw [Node.captured, Template.captured_of_reads hreads, (hs.erase_rest ha _).1,
      Params.entries_ofList (hs.nodup_entries ha)]
  refine ⟨⟨?_, ?_⟩, ?_⟩
  · rw [Node.verdict, hverdict]
    rfl
  · rw [hcaptured]
    exact hregains
  · rw [hverdict]
    rfl

end Mount

/-! ## The nodes that resolve a name -/

namespace Node

/-- A node resolves a name, and below it stand the nodes that took part, each of them below the
one before it, with what they answered. The last one is a route, or a mount that is asked for as
a whole; a mount in between asks the nodes below it in order, with what is left of the name and
of the parameters, and puts its stem in front of the first answer. -/
inductive Resolves : Node → String → Params → UrlPath → List (Node × UrlPath) → Prop
  | route {r : Route} {name : String} {params : Params} {u : UrlPath}
      (h : r.urlPath? name params = some u) : Resolves (.route r) name params u []
  | whole {m : Mount} {name : String} {params : Params} {u : UrlPath}
      (hwhole : m.isWhole name params = true) (h : m.wholePath? params = some u) :
      Resolves (.mount m) name params u []
  | through {m : Mount} {name stem residual : String} {params left : Params} {inner : Router}
      {before after : List Node} {n : Node} {u : UrlPath} {below : List (Node × UrlPath)}
      (hwhole : m.isWhole name params = false)
      (hd : m.delegate? name params = some (stem, residual, left))
      (ht : m.target.target = .router inner) (hnodes : inner.nodes = before ++ n :: after)
      (hbefore : ∀ k ∈ before, k.urlPath? residual left = none)
      (h : Resolves n residual left u below) :
      Resolves (.mount m) name params { u with path := stem ++ u.path } ((n, u) :: below)

/-- The last part is the node itself, or it stands below it. -/
inductive Holds : Node → Node → Prop
  | here (n : Node) : Holds n n
  | further {n k m : Node} {e : Endpoint} {inner : Router} (he : n.subtree? = some e)
      (ht : e.target = .router inner) (hk : k ∈ inner.nodes) (h : Holds k m) : Holds n m

/-- Routes and mounts over the builtin converters, with templates that can be taken apart. -/
def Separable : Node → Prop
  | .route r => r.Registered .builtin ∧ r.template.Separable
  | .mount m => m.Registered .builtin ∧ m.template.Separable
  | _ => False

/-- Every answer has the nodes that took part in it. -/
theorem exists_resolves : ∀ {n : Node}, (∀ k, n.Holds k → k.Separable) → ∀ {name : String}
    {params : Params} {u : UrlPath}, n.urlPath? name params = some u →
      ∃ below, n.Resolves name params u below
  | .route r, _, name, params, u, h => by
      rw [Node.urlPath?] at h
      exact ⟨[], .route h⟩
  | .mount m, hn, name, params, u, h => by
      rw [Node.urlPath?] at h
      rcases Mount.urlPath?_eq_some h with
        ⟨hwhole, hpath⟩ | ⟨hwhole, stem, residual, left, v, hd, hv, rfl⟩
      · exact ⟨[], .whole hwhole hpath⟩
      · obtain ⟨inner, ht, hv⟩ := Endpoint.urlPath?_eq_some hv
        rw [Router.urlPath?_eq] at hv
        obtain ⟨before, k, after, hnodes, hbefore, hk⟩ := firstUrlPath?_eq_some_iff.mp hv
        have hmem : k ∈ inner.nodes := by
          rw [hnodes]
          exact List.mem_append_right _ (List.mem_cons_self ..)
        obtain ⟨below, hbelow⟩ := exists_resolves (fun j hj => hn j (.further rfl ht hmem hj)) hk
        exact ⟨_, .through hwhole hd ht hnodes hbefore hbelow⟩
  | .host g, hn, _, _, _, _ => (hn _ (.here _)).elim
  | .lifespan l, hn, _, _, _, _ => (hn _ (.here _)).elim
  termination_by n => sizeOf n
  decreasing_by exact sizeOf_subtree rfl ht hmem

end Node

/-! ## Where the joints are -/

namespace Mount

/-- What a mount fills in before it asks the nodes below it: its stem is the filled prefix. -/
theorem stem_of_delegate {m : Mount} {lead : List Piece} (hs : m.Shape .builtin lead)
    (hsep : m.template.Separable) {name stem residual : String} {params left : Params}
    (hline : params.InLine) (hd : m.delegate? name params = some (stem, residual, left)) :
    ∃ a as, stem = String.ofList a ∧ Template.Reads lead a as ∧
      (∀ h ∈ m.prefixHoles, h.Regains params as) ∧ (a = [] ∨ a.head? = some '/') ∧ '\n' ∉ a := by
  obtain ⟨_, hcovered, ⟨text, hfill, rfl⟩, _⟩ := delegate?_eq_some_iff.mp hd
  obtain ⟨a, b, ha, hb, rfl⟩ := hs.fillPieces_eq_ok_iff.mp hfill
  obtain rfl : b = ['/'] := Except.ok.inj (hb.symm.trans (fillPieces_rest_blank params))
  have hblank : ∀ k, k ≠ rest → some rest ≠ some k := fun k hk heq => hk (Option.some.inj heq).symm
  obtain ⟨as, hreads, hregains, hled, hone⟩ := hs.reads_of_fill hsep hblank hcovered hline ha
  exact ⟨a, as, stem_of_reads hs (hs.separable_lead hsep).2.1 hreads, hreads, hregains, hled, hone⟩

theorem line_bareRest {params : Params} (hline : params.InLine) :
    '\n' ∉ (bareRest params).toList := by
  have hrest : '\n' ∉ (restOf params).toList := by
    rw [restOf]
    cases hv : params.get? rest with
    | none => exact (by decide : '\n' ∉ "".toList)
    | some v => exact hline.text hv
  rw [bareRest, Text.dropLeading, String.toList_ofList]
  exact fun hin => hrest ((List.dropWhile_suffix _).mem hin)

/-- What a mount fills in when it is asked for as a whole: the prefix, a slash and the bare rest. -/
theorem path_of_whole {m : Mount} {lead : List Piece} (hs : m.Shape .builtin lead)
    (hsep : m.template.Separable) {params : Params} (hline : params.InLine) {u : UrlPath}
    (h : m.wholePath? params = some u) :
    ∃ a as, u.path = String.ofList (a ++ '/' :: (bareRest params).toList) ∧
      Template.Reads lead a as ∧ (∀ h ∈ m.prefixHoles, h.Regains params as) ∧
      (a = [] ∨ a.head? = some '/') ∧ '\n' ∉ a := by
  obtain ⟨hcovered, _, text, hfill, rfl⟩ := wholePath?_eq_some_iff.mp h
  obtain ⟨a, b, ha, hb, rfl⟩ := hs.fillPieces_eq_ok_iff.mp hfill
  have hget (k : String) : (wholly params).get? k =
      if k = rest then some (.str (bareRest params)) else params.get? k := Params.get?_insert ..
  obtain rfl : b = '/' :: (bareRest params).toList := by
    have hrest : (wholly params).get? rest = some (.str (bareRest params)) := by
      rw [hget, if_pos rfl]
    exact Except.ok.inj (hb.symm.trans (fillPieces_rest hrest))
  have hwhole : (wholly params).InLine := by
    intro k s hk
    rw [hget] at hk
    split at hk
    · cases hk
      exact line_bareRest hline
    · exact hline k s hk
  have hblank : ∀ k, k ≠ rest → none ≠ some k := fun _ _ => nofun
  obtain ⟨as, hreads, hregains, hled, hone⟩ := hs.reads_of_fill hsep hblank hcovered hwhole ha
  refine ⟨a, as, rfl, hreads, fun hole hmem => ?_, hled, hone⟩
  obtain ⟨v, t, w, hv, hparts⟩ := hregains hole hmem
  rw [hget, if_neg (mem_prefixHoles.mp hmem).2] at hv
  exact ⟨v, t, w, hv, hparts⟩

end Mount

namespace Mount

theorem get?_of_leftover (m : Mount) (params : Params) (k : String) (v : Value)
    (h : (m.leftover params).get? k = some v) : params.get? k = some v := by
  rw [get?_leftover_holes] at h
  split at h
  · cases h
  · exact h

theorem get?_leftover_rest (m : Mount) (params : Params) :
    (m.leftover params).get? rest = params.get? rest := by
  rw [get?_leftover, if_pos rfl]

end Mount

theorem Params.InLine.leftover {params : Params} (h : params.InLine) (m : Mount) :
    (m.leftover params).InLine :=
  fun k s hk => h k s (m.get?_of_leftover params k (.str s) hk)

namespace Node

/-- A prefix in front of a slash starts with a slash, whether there is anything of it or not. -/
theorem exists_led {a w : List Char} (hled : a = [] ∨ a.head? = some '/') (ha : '\n' ∉ a)
    (hw : '\n' ∉ w) : ∃ w', a ++ '/' :: w = '/' :: w' ∧ '\n' ∉ w' := by
  rcases hled with rfl | hhead
  · exact ⟨w, rfl, hw⟩
  · obtain ⟨cs, rfl⟩ := List.head?_eq_some_iff.mp hhead
    refine ⟨cs ++ '/' :: w, rfl, ?_⟩
    rw [List.mem_cons, not_or] at ha
    simp [ha.2, hw]

/-- The path of an answer is one line that starts with a slash. -/
theorem Resolves.path_eq {n : Node} {name : String} {params : Params} {u : UrlPath}
    {below : List (Node × UrlPath)} (h : n.Resolves name params u below)
    (hn : ∀ k, n.Holds k → k.Separable) (hline : params.InLine) :
    ∃ w, u.path = String.ofList ('/' :: w) ∧ '\n' ∉ w := by
  induction h with
  | route h =>
      obtain ⟨hreg, hsep⟩ := hn _ (.here _)
      obtain ⟨_, _, _, hhead, hone⟩ := Route.reads_of_urlPath? hreg hsep hline h
      obtain ⟨w, hw⟩ := List.head?_eq_some_iff.mp hhead
      rw [hw] at hone
      refine ⟨w, ?_, fun hin => hone (List.mem_cons_of_mem _ hin)⟩
      rw [← hw, String.ofList_toList]
  | whole _ h =>
      obtain ⟨hreg, hsep⟩ := hn _ (.here _)
      obtain ⟨lead, hs⟩ := hreg.shape rfl
      obtain ⟨a, as, hpath, _, _, hled, hone⟩ := Mount.path_of_whole hs hsep hline h
      obtain ⟨w, heq, hw⟩ := exists_led hled hone (Mount.line_bareRest hline)
      exact ⟨w, by rw [hpath, heq], hw⟩
  | @through m _ _ _ _ _ _ _ _ _ _ _ _ hd ht hnodes _ _ ih =>
      obtain ⟨hreg, hsep⟩ := hn _ (.here _)
      obtain ⟨lead, hs⟩ := hreg.shape rfl
      obtain ⟨a, as, rfl, _, _, hled, hone⟩ := Mount.stem_of_delegate hs hsep hline hd
      obtain ⟨_, _, _, rfl⟩ := Mount.delegate?_eq_some_iff.mp hd
      obtain ⟨w, hpath, hw⟩ := ih (fun k hk => hn k (.further rfl ht (by simp [hnodes]) hk))
        (hline.leftover m)
      obtain ⟨w', heq, hw'⟩ := exists_led hled hone hw
      exact ⟨w', by rw [hpath, ← String.ofList_append, heq], hw'⟩

end Node

/-! ## The way down again -/

/-- The kind of scopes that an answer is for: that of the route, and requests where there is
none. -/
def UrlPath.kind (u : UrlPath) : ScopeKind :=
  match u.protocol with
  | some .socket => .socket
  | _ => .request

theorem UrlPath.isRouted_kind (u : UrlPath) : u.kind.isRouted = true := by
  rw [kind]
  split <;> rfl

theorem Route.serves_kind {r : Route} {name : String} {params : Params} {u : UrlPath}
    (h : r.urlPath? name params = some u) : r.serves u.kind = true := by
  obtain ⟨_, text, _, rfl⟩ := urlPath?_eq_some_iff.mp h
  cases hp : r.protocol with
  | http => simp only [UrlPath.kind, serves, hp]
  | socket => simp only [UrlPath.kind, serves, hp]

namespace Node

/-- A node and those that took part below it match again, each of them the scope that the one
before it derives. A mount hands on the path that the node below it answered with; one that was
asked for as a whole hands on the bare rest. -/
def Rematches (params : Params) : Node → List (Node × UrlPath) → Scope → Prop
  | n, [], s => n.Recovers params s ∧
      ∀ m, n = .mount m → (n.verdict s).child.path = some ("/" ++ Mount.bareRest params)
  | n, (k, v) :: below, s => n.Recovers params s ∧ (n.verdict s).child.path = some v.path ∧
      Rematches params k below (s.derive (n.verdict s).child)

theorem Rematches.mono {left params : Params}
    (hsub : ∀ k v, left.get? k = some v → params.get? k = some v)
    (hrest : left.get? Mount.rest = params.get? Mount.rest) {n : Node}
    {below : List (Node × UrlPath)} {s : Scope} (h : Rematches left n below s) :
    Rematches params n below s := by
  induction below generalizing n s with
  | nil =>
      obtain ⟨hrecovers, hpath⟩ := h
      have hbare : Mount.bareRest left = Mount.bareRest params := by
        rw [Mount.bareRest, Mount.bareRest, Mount.restOf, Mount.restOf, hrest]
      exact ⟨hrecovers.mono hsub, hbare ▸ hpath⟩
  | cons p below ih =>
      obtain ⟨hrecovers, hpath, hbelow⟩ := h
      exact ⟨hrecovers.mono hsub, hpath, ih hbelow⟩

/-- The induction is over the chain. At each mount the answer is the stem with the answer from
below behind it, which starts with a slash: so the mount cuts its path there, and what it hands
on is the answer from below again. -/
theorem Resolves.matches_again {n : Node} {name : String} {params : Params} {u : UrlPath}
    {below : List (Node × UrlPath)} (h : n.Resolves name params u below)
    (hn : ∀ k, n.Holds k → k.Separable) (hline : params.InLine) {s : Scope}
    (hpath : s.path = u.path) (hkind : s.kind = u.kind) : Rematches params n below s := by
  induction h generalizing s with
  | @route r _ _ u h =>
      obtain ⟨hreg, hsep⟩ := hn _ (.here _)
      obtain ⟨es, hreads, hregains, _, _⟩ := Route.reads_of_urlPath? hreg hsep hline h
      have hserves : r.serves s.kind = true := hkind ▸ Route.serves_kind h
      rw [← hpath] at hreads
      exact ⟨Route.recovers_of_reads hserves hreads hregains, nofun⟩
  | @whole m _ params u _ h =>
      obtain ⟨hreg, hsep⟩ := hn _ (.here _)
      obtain ⟨lead, hs⟩ := hreg.shape rfl
      obtain ⟨a, as, heq, hreads, hregains, _, _⟩ := Mount.path_of_whole hs hsep hline h
      have hcut : s.path.toList = a ++ '/' :: (Mount.bareRest params).toList := by
        rw [hpath, heq, String.toList_ofList]
      have hk : s.kind.isRouted = true := hkind ▸ u.isRouted_kind
      obtain ⟨hrecovers, hchild⟩ := Mount.recovers_of_cut hs hsep hk hcut
        (Mount.line_bareRest hline) hreads hregains
      refine ⟨hrecovers, fun _ _ => hchild.trans ?_⟩
      rw [Option.some.injEq, ← String.toList_inj]
      simp
  | @through m _ _ _ params _ _ _ _ n u below _ hd ht hnodes _ hbelow ih =>
      obtain ⟨hreg, hsep⟩ := hn _ (.here _)
      obtain ⟨lead, hs⟩ := hreg.shape rfl
      obtain ⟨a, as, rfl, hreads, hregains, _, _⟩ := Mount.stem_of_delegate hs hsep hline hd
      obtain ⟨_, _, _, rfl⟩ := Mount.delegate?_eq_some_iff.mp hd
      have hn' : ∀ k, n.Holds k → k.Separable :=
        fun k hk => hn k (.further rfl ht (by simp [hnodes]) hk)
      obtain ⟨w, hu, hw⟩ := hbelow.path_eq hn' (hline.leftover m)
      have hcut : s.path.toList = a ++ '/' :: w := by
        rw [hpath, hu, ← String.ofList_append, String.toList_ofList]
      have hk : s.kind.isRouted = true := hkind ▸ UrlPath.isRouted_kind _
      obtain ⟨hrecovers, hchild⟩ := Mount.recovers_of_cut hs hsep hk hcut hw hreads hregains
      rw [← hu] at hchild
      refine ⟨hrecovers, hchild, ?_⟩
      have hderived : (s.derive (m.verdict s).child).path = u.path := by
        rw [Scope.derive, hchild, Option.getD_some]
      have hdown := ih hn' (hline.leftover m) hderived hkind
      exact hdown.mono (m.get?_of_leftover params) (m.get?_leftover_rest params)

end Node

namespace Site

theorem separable_users : users.template.Separable where
  unrounded := by
    intro h hmem heq
    have hholes : users.template.holes = [idHole, Mount.restHole] := rfl
    rw [hholes] at hmem
    rcases List.mem_cons.mp hmem with rfl | hmem
    · exact absurd (congrArg Converter.pattern heq) (by decide)
    · obtain rfl := List.mem_singleton.mp hmem
      exact absurd (congrArg Converter.pattern heq) (by decide)
  delimited := by
    have hid : idHole.converter ≠ Converter.path :=
      fun heq => absurd (congrArg Converter.pattern heq) (by decide)
    exact ⟨.inr ⟨hid, [], _, rfl⟩, .inl rfl, trivial⟩
  line := by decide +kernel

theorem separable_post : post.template.Separable where
  unrounded := by
    intro h hmem heq
    have hholes : post.template.holes = [slugHole] := rfl
    rw [hholes] at hmem
    obtain rfl := List.mem_singleton.mp hmem
    exact absurd (congrArg Converter.pattern heq) (by decide)
  delimited := ⟨.inl rfl, trivial⟩
  line := by decide +kernel

theorem separable_of_holds {k : Node} (h : (Node.mount users).Holds k) : k.Separable := by
  have hposts : ∀ k, (Node.route post).Holds k → k = .route post := by
    intro k h
    cases h with
    | here => rfl
    | further he _ _ _ => cases he
  cases h with
  | here => exact ⟨registered_users, separable_users⟩
  | further he ht hk h =>
      cases he
      cases ht
      obtain rfl := List.mem_singleton.mp hk
      obtain rfl := hposts k h
      exact ⟨registered_post, separable_post⟩

end Site

namespace Node

/-- From parameters to a path and back. Over routes and mounts whose templates can be taken
apart, the path that a name resolves to is matched again by every node that took part, each on
the scope that the one before it derives. What a mount hands on is the path that the node below
it answered with, and the values captured are those that were written. -/
theorem rematches {n : Node} (hn : ∀ k, n.Holds k → k.Separable) {params : Params}
    (hline : params.InLine) {name : String} {u : UrlPath} (h : n.urlPath? name params = some u) :
    ∃ below, n.Resolves name params u below ∧
      ∀ s : Scope, s.path = u.path → s.kind = u.kind → Rematches params n below s := by
  obtain ⟨below, hbelow⟩ := exists_resolves hn h
  exact ⟨below, hbelow, fun s hpath hkind => hbelow.matches_again hn hline hpath hkind⟩

end Node

namespace Site

/-- The address of a post of a user is taken apart where it was put together. -/
theorem rematches_users : ∃ below,
    (Node.mount users).Resolves "users:post" (.ofList [("id", .int 7), ("slug", .str "a")])
      ⟨"/users/7/posts/a", some .http, none⟩ below ∧
    ∀ s : Scope, s.path = "/users/7/posts/a" → s.kind = .request →
      Node.Rematches (.ofList [("id", .int 7), ("slug", .str "a")]) (.mount users) below s := by
  have hline : Params.InLine (.ofList [("id", .int 7), ("slug", .str "a")]) := by
    intro k t hk
    rw [Params.get?_eq_some_iff, Params.entries_ofList (by decide)] at hk
    simp only [List.mem_cons, Prod.mk.injEq, Value.str.injEq, List.not_mem_nil, or_false] at hk
    rcases hk with ⟨_, hk⟩ | ⟨_, rfl⟩
    · cases hk
    · decide
  have hurl : (Node.mount users).urlPath? "users:post"
      (.ofList [("id", .int 7), ("slug", .str "a")]) =
        some ⟨"/users/7/posts/a", some .http, none⟩ := by
    decide +kernel
  exact Node.rematches (fun _ => separable_of_holds) hline hurl

end Site

end Waymark
