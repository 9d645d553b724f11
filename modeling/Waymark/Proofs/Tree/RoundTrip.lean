import Waymark.Proofs.Template.Refilling
import Waymark.Proofs.Tree.Descent
import Waymark.Proofs.Tree.Lookup

/-!
# From a path to parameters and back

A scope that dispatching carries down to a route is addressed by the name of
that route and the parameters it arrived with: looked up from the outermost
router, they give the path that came in (`Carries.round_trip`).

The two directions are written apart from each other. Going down, each node
reads its share of the path and puts what it captured over the parameters;
coming back, each node takes the parameters of its own holes, fills its
template with them, and asks the nodes below with what is left. The induction
is over the nodes on the way. It carries along that the parameters at hand are
those captured from here on down, and no others: that is what a route checks
before it answers.
-/

namespace Waymark

/-! ## What the nodes on the way captured -/

namespace Template

theorem keys_captured {t : Template} {subject : String} {es : List (String × Value)}
    (h : Reads t.pieces subject.toList es) :
    (t.captured subject).keys = t.holes.map Hole.name := by
  rw [captured_of_reads h, Params.keys, Params.entries_ofList h.nodup, h.names,
    names_eq_map_holes]
  rfl

end Template

namespace Node

theorem keys_captured {n : Node} {s : Scope} (h : (n.verdict s).matched = true) :
    (n.captured s).keys = n.holes.map Hole.name := by
  have hreads {t : Template} {subject : String} {verdict : Params → Verdict}
      (h : (t.judge subject verdict).matched = true) :
      (t.captured subject).keys = t.holes.map Hole.name := by
    rcases t.judge_cases subject verdict with ⟨es, hes, _⟩ | ⟨_, hlevel, _⟩
    · exact Template.keys_captured hes
    · rw [Verdict.matched, hlevel] at h
      cases h
  cases n with
  | route r =>
      simp only [verdict, Route.verdict] at h
      split at h
      · cases h
      · exact hreads h
  | mount m =>
      simp only [verdict, Mount.verdict] at h
      split at h
      · cases h
      · have hkeys := hreads h
        rw [captured, holes, Mount.prefixHoles, Params.keys, Params.erase, Params.restrict]
        have hleft := congrArg (List.filter (· != Mount.rest)) hkeys
        rw [Params.keys, List.filter_map, List.filter_map] at hleft
        exact hleft
  | host g =>
      simp only [verdict, HostGate.verdict] at h
      split at h
      · cases h
      · exact hreads h
  | lifespan l => rfl

end Node

def trailNames (trail : List (Node × Scope)) : List String :=
  trail.flatMap fun p => p.1.holes.map Hole.name

namespace Router

theorem get?_overlay_of_not_mem {trail : List (Node × Scope)}
    (hm : ∀ p ∈ trail, (p.1.verdict p.2).matched = true) (ps : Params) {k : String}
    (hk : k ∉ trailNames trail) : (overlay ps trail).get? k = ps.get? k := by
  induction trail generalizing ps with
  | nil => rfl
  | cons p trail ih =>
      rw [trailNames, List.flatMap_cons, List.mem_append, not_or] at hk
      have hnone : (p.1.captured p.2).get? k = none := by
        rw [← Option.not_isSome_iff_eq_none]
        intro hsome
        refine hk.1 ?_
        rw [← Node.keys_captured (hm p (List.mem_cons_self ..))]
        exact Params.contains_iff.mp hsome
      have hrest := ih (fun q hq => hm q (List.mem_cons_of_mem _ hq))
        (ps.merge (p.1.captured p.2)) hk.2
      rw [overlay, List.foldl_cons]
      exact hrest.trans (by rw [Params.get?_merge, hnone, Option.none_or])

/-- Under names of their own, all captures are found among the parameters. -/
theorem get?_overlay {trail : List (Node × Scope)}
    (hm : ∀ p ∈ trail, (p.1.verdict p.2).matched = true) (hd : (trailNames trail).Nodup)
    (ps : Params) {p : Node × Scope} (hp : p ∈ trail) {k : String} {v : Value}
    (hk : (p.1.captured p.2).get? k = some v) : (overlay ps trail).get? k = some v := by
  induction trail generalizing ps with
  | nil => cases hp
  | cons q trail ih =>
      have hm' := fun q hq => hm q (List.mem_cons_of_mem _ hq)
      rw [trailNames, List.flatMap_cons, List.nodup_append] at hd
      rw [overlay, List.foldl_cons]
      rcases List.mem_cons.mp hp with rfl | hp
      · have hmem : k ∈ p.1.holes.map Hole.name := by
          rw [← Node.keys_captured (hm p (List.mem_cons_self ..))]
          exact Params.contains_iff.mp (by rw [Params.contains, hk]; rfl)
        have hfree : k ∉ trailNames trail := fun hin => hd.2.2 _ hmem _ hin rfl
        have hrest := get?_overlay_of_not_mem hm' (ps.merge (p.1.captured p.2)) hfree
        exact hrest.trans (by rw [Params.get?_merge, hk, Option.some_or])
      · exact ih hm' hd.2.1 _ hp

theorem contains_overlay {trail : List (Node × Scope)}
    (hm : ∀ p ∈ trail, (p.1.verdict p.2).matched = true) (hd : (trailNames trail).Nodup)
    {k : String} : (overlay .empty trail).contains k = true ↔ k ∈ trailNames trail := by
  constructor
  · intro h
    by_contra hk
    rw [Params.contains, get?_overlay_of_not_mem hm .empty hk] at h
    cases h
  · intro h
    obtain ⟨p, hp, hk⟩ := List.mem_flatMap.mp h
    rw [← Node.keys_captured (hm p hp), ← Params.contains_iff, Params.contains,
      Option.isSome_iff_exists] at hk
    obtain ⟨v, hv⟩ := hk
    rw [Params.contains, get?_overlay hm hd .empty hp hv]
    rfl

end Router

/-! ## One node, back -/

/-- What lets a node be undone: it is built with the builtin converters, none of its values is
written in more than one way, and the prefix of a mount ends where its last segment does. -/
structure Node.Reversible (n : Node) : Prop where
  registered : n.Registered .builtin
  unrounded : ∀ h ∈ n.holes, h.converter ≠ Converter.float
  segments : ∀ m, n = .mount m → ∀ h ∈ m.prefixHoles, h.converter ≠ Converter.path

/-- No number that a node captures from a scope has a redundant zero in front. -/
def Node.Unpadded : Node → Scope → Prop
  | .route r, s => Template.Unpadded r.template.pieces s.path.toList
  | .mount m, s => Template.Unpadded m.template.pieces s.path.toList
  | .host h, s => Template.Unpadded h.template.pieces s.hostname.toList
  | .lifespan _, _ => True

namespace Route

/-- A route answers with the path that it matched, given what it captured and nothing else. -/
theorem urlPath?_of_reads {r : Route} (hrev : (Node.route r).Reversible) {s : Scope}
    {es : List (String × Value)} (hreads : Template.Reads r.template.pieces s.path.toList es)
    (hpadded : (Node.route r).Unpadded s) {params : Params}
    (hget : ∀ k v, ((Node.route r).captured s).get? k = some v → params.get? k = some v)
    (hkeys : ∀ k, params.contains k = true ↔ k ∈ r.template.holes.map Hole.name) :
    r.urlPath? r.name params = some ⟨s.path, some r.protocol, none⟩ := by
  have hnames : r.template.names = r.template.holes.map Hole.name :=
    Template.names_eq_map_holes _
  refine urlPath?_eq_some_iff.mpr ⟨?_, s.path.toList, ?_, by rw [String.ofList_toList]⟩
  · have hsize : params.size = r.template.names.length :=
      Params.size_eq_length r.template.distinct fun k => by
        rw [hkeys, ← hnames]
    have hcovered : r.template.covered params none = true :=
      Template.covered_iff.mpr fun h hmem _ => (hkeys h.name).mpr (List.mem_map_of_mem hmem)
    simp [answersTo, hsize, hcovered]
  · refine Template.fillPieces_of_reads (fun h hmem => ?_) hreads hpadded (fun e he => ?_)
      (fun _ _ => by simp)
    · exact ⟨Registered.builtin hrev.registered h hmem, hrev.unrounded h hmem⟩
    · refine hget e.1 e.2 ?_
      rw [Node.captured, Template.captured_of_reads hreads]
      exact Params.get?_ofList_of_mem hreads.nodup he

end Route

namespace Mount

/-- A mount delegates with the part of the path that its prefix read. -/
theorem delegate?_of_reads {m : Mount} {lead : List Piece} (hs : m.Shape .builtin lead)
    (hrev : (Node.mount m).Reversible) {a w : List Char} {as : List (String × Value)}
    (ha : Template.Reads lead a as) (hw : '\n' ∉ w)
    (hpadded : Template.Unpadded m.template.pieces (a ++ '/' :: w)) {params : Params}
    (hparams : ∀ e ∈ as, params.get? e.1 = some e.2)
    (hkeys : ∀ k ∈ m.prefixHoles.map Hole.name, params.contains k = true) (residual : String) :
    m.delegate? (qualify m.name residual) params =
      some (String.ofList a, residual, m.leftover params) := by
  have hpath := hrev.segments m rfl
  have hfree := hs.slashFree rfl hpath
  refine delegate?_eq_some_iff.mpr ⟨rfl, ?_, ⟨a ++ ['/'], ?_, ?_⟩, rfl⟩
  · refine Template.covered_iff.mpr fun h hmem hskip => hkeys h.name ?_
    have hne : h.name ≠ rest := fun heq => hskip (congrArg some heq)
    exact List.mem_map_of_mem (mem_prefixHoles.mpr ⟨hmem, hne⟩)
  · have hlead : Template.fillPieces params (some rest) lead = .ok a := by
      refine Template.fillPieces_of_reads (fun h hmem => ?_) ha ?_ hparams (fun h hmem => ?_)
      · refine ⟨Template.builtin_of_atoms? hs.lead_eq h hmem, hrev.unrounded h ?_⟩
        rw [← hs.prefixHoles_eq] at hmem
        exact hmem
      · obtain ⟨us, hus, _⟩ := reads_rest_iff.mpr ⟨w, rfl, hw, rfl⟩
        rw [← Template.unpadded_atoms, hs.pieces_eq] at hpadded
        exact hpadded.of_append hfree restPieces_led hus
      · exact fun heq => hs.name_ne_rest hmem (Option.some.inj heq).symm
    exact hs.fillPieces_eq_ok_iff.mpr ⟨a, ['/'], hlead, fillPieces_rest_blank params, rfl⟩
  · exact (stem_of_reads hs hpath ha).symm

end Mount

namespace HostGate

theorem get?_leftover_holes (g : HostGate) (params : Params) (k : String) :
    (g.leftover params).get? k =
      if k ∈ g.template.holes.map Hole.name then none else params.get? k := by
  rw [get?_leftover, Template.names, Template.names_eq_map_holes]
  rfl

/-- A gate delegates with the host that it matched. -/
theorem delegate?_of_reads {g : HostGate} (hrev : (Node.host g).Reversible) {s : Scope}
    {es : List (String × Value)} (hreads : Template.Reads g.template.pieces s.hostname.toList es)
    (hpadded : (Node.host g).Unpadded s) {params : Params}
    (hparams : ∀ e ∈ es, params.get? e.1 = some e.2)
    (hkeys : ∀ k ∈ g.template.holes.map Hole.name, params.contains k = true)
    (residual : String) :
    g.delegate? (qualify g.name residual) params =
      some (s.hostname, residual, g.leftover params) := by
  refine delegate?_eq_some_iff.mpr
    ⟨rfl, ?_, ⟨s.hostname.toList, ?_, by rw [String.ofList_toList]⟩, rfl⟩
  · exact Template.covered_iff.mpr fun h hmem _ => hkeys h.name (List.mem_map_of_mem hmem)
  · refine Template.fillPieces_of_reads (fun h hmem => ?_) hreads hpadded hparams
      (fun _ _ => by simp)
    exact ⟨Registered.builtin hrev.registered h hmem, hrev.unrounded h hmem⟩

end HostGate

/-! ## The way down -/

/-- The name of the last of some nodes, each below the one before it: the own names of the
named subtrees and its own. -/
def Node.qualifiedName : List Node → String
  | [] => ""
  | [n] => n.name?.getD ""
  | n :: k :: ns => qualify n.name? (qualifiedName (k :: ns))

theorem Node.qualifiedName_cons {n : Node} : ∀ {ns : List Node}, ns ≠ [] →
    qualifiedName (n :: ns) = qualify n.name? (qualifiedName ns)
  | [], h => absurd rfl h
  | _ :: _, _ => rfl

def Node.isHost : Node → Bool
  | .host _ => true
  | _ => false

namespace Router

/-- Dispatching carries a scope by full matches down to a route, which gets the scope derived
last. The trail are the nodes that matched, each with the scope that it judged. -/
inductive Carries : Router → Scope → List (Node × Scope) → Route → Scope → Prop
  | route {r : Router} {s : Scope} {c : Dispatch.Choice} {t : Route}
      (hchoice : Dispatch.choose? (r.nodes.map (·.verdict (r.mark s))) = some c)
      (hfull : c.verdict.level = .full) (hnode : r.nodes[c.index]? = some (.route t)) :
      Carries r s [(.route t, r.mark s)] t ((r.mark s).derive (t.verdict (r.mark s)).child)
  | subtree {r : Router} {s : Scope} {c : Dispatch.Choice} {n : Node} {e : Endpoint}
      {inner : Router} {trail : List (Node × Scope)} {t : Route} {s' : Scope}
      (hchoice : Dispatch.choose? (r.nodes.map (·.verdict (r.mark s))) = some c)
      (hfull : c.verdict.level = .full) (hnode : r.nodes[c.index]? = some n)
      (he : n.subtree? = some e) (ht : e.target = .router inner)
      (h : Carries inner ((r.mark s).derive (n.verdict (r.mark s)).child) trail t s') :
      Carries r s ((n, r.mark s) :: trail) t s'

theorem level_of_choice {r : Router} {s : Scope} {c : Dispatch.Choice} {n : Node}
    (hchoice : Dispatch.choose? (r.nodes.map (·.verdict (r.mark s))) = some c)
    (hfull : c.verdict.level = .full) (hnode : r.nodes[c.index]? = some n) :
    (n.verdict (r.mark s)).level = .full := by
  obtain ⟨k, hk, hverdict, _⟩ := chosen hchoice
  obtain rfl := Option.some.inj (hnode.symm.trans hk)
  rwa [hverdict] at hfull

variable {r : Router} {s s' : Scope} {trail : List (Node × Scope)} {t : Route}

theorem Carries.matched (h : r.Carries s trail t s') :
    ∀ p ∈ trail, (p.1.verdict p.2).matched = true := by
  induction h with
  | route hchoice hfull hnode =>
      intro p hp
      obtain rfl := List.mem_singleton.mp hp
      rw [Verdict.matched, level_of_choice hchoice hfull hnode]
      rfl
  | subtree hchoice hfull hnode _ _ _ ih =>
      intro p hp
      rcases List.mem_cons.mp hp with rfl | hp
      · rw [Verdict.matched, level_of_choice hchoice hfull hnode]
        rfl
      · exact ih p hp

theorem Carries.params_eq (h : r.Carries s trail t s') : s'.params = overlay s.params trail := by
  induction h with
  | route hchoice hfull hnode =>
      have hlevel := level_of_choice hchoice hfull hnode
      exact Node.params_derive (n := .route _) (by rw [Verdict.matched, hlevel]; rfl)
  | subtree hchoice hfull hnode _ _ _ ih =>
      have hlevel := level_of_choice hchoice hfull hnode
      have hstep := Node.params_derive (by rw [Verdict.matched, hlevel]; rfl)
      rw [ih, hstep]
      rfl

theorem Carries.chain (h : r.Carries s trail t s') :
    ∃ ns, trail.map (·.1) = ns ++ [.route t] ∧ r.Chain (ns ++ [.route t]) := by
  induction h with
  | route _ _ hnode => exact ⟨[], rfl, .last (List.mem_of_getElem? hnode)⟩
  | @subtree _ _ _ n _ _ _ _ _ _ _ hnode he ht _ ih =>
      obtain ⟨ns, htrail, hchain⟩ := ih
      exact ⟨n :: ns, by rw [List.map_cons, htrail]; rfl,
        .cons (List.mem_of_getElem? hnode) he ht hchain⟩

/-- Being carried down is being dispatched: the endpoint of the route is called. -/
theorem Carries.calls (h : r.Carries s trail t s') : r.Calls s trail t.endpoint s' := by
  induction h with
  | @route r s c t hchoice hfull hnode =>
      have hlevel := level_of_choice hchoice hfull hnode
      refine .here (.node hchoice hnode ?_)
      -- a route that refuses the method matches in part only
      have hallows : t.refusesMethod (r.mark s) = false := by
        rcases t.verdict_cases (r.mark s) with ⟨_, es, _, heq⟩ | ⟨_, hnone, _⟩
        · rw [Node.verdict, heq, Route.verdictOn] at hlevel
          cases hrefuses : t.refusesMethod (r.mark s) with
          | false => rfl
          | true =>
              rw [hrefuses] at hlevel
              cases hlevel
        · rw [Node.verdict, hnone] at hlevel
          cases hlevel
      have hsame : t.refusesMethod ((r.mark s).derive ((Node.route t).verdict (r.mark s)).child) =
          t.refusesMethod (r.mark s) := rfl
      rw [Node.callee?, hsame, hallows]
      rfl
  | @subtree _ _ _ n _ _ _ _ _ hchoice _ hnode he ht _ ih =>
      refine .onward (.node hchoice hnode ?_) ht ih
      cases n with
      | mount m => exact he
      | host g => exact he
      | route t => cases he
      | lifespan l => cases he

/-! ## The way back -/

theorem Carries.nodes_ne_nil (h : r.Carries s trail t s') : trail.map (·.1) ≠ [] := by
  cases h <;> exact List.cons_ne_nil _ _

theorem nodup_qualifiedNames_inner {n : Node} {e : Endpoint} {inner : Router}
    (hd : r.qualifiedNames.Nodup) (hn : n ∈ r.nodes) (he : n.subtree? = some e)
    (ht : e.target = .router inner) : inner.qualifiedNames.Nodup := by
  obtain ⟨nodes, _, _, _⟩ := r
  obtain ⟨_, _, target⟩ := e
  rw [Router.qualifiedNames] at hd
  have hnode := Node.nodup_qualifiedNames hd hn
  cases ht
  cases n with
  | mount m =>
      obtain ⟨_, _, target, own⟩ := m
      cases he
      rw [Node.qualifiedNames, Mount.qualifiedNames, Endpoint.qualifiedNames] at hnode
      exact (List.nodup_append.mp hnode).2.1.of_map _
  | host g =>
      obtain ⟨_, target, own⟩ := g
      cases he
      rw [Node.qualifiedNames, HostGate.qualifiedNames, Endpoint.qualifiedNames] at hnode
      exact (List.nodup_append.mp hnode).2.1.of_map _
  | route t => cases he
  | lifespan l => cases he

/-- A router answers for a node that answers, where names are distinct. -/
theorem urlPath?_of_node {n : Node} {name : String} {params : Params} {u : UrlPath}
    (hd : r.qualifiedNames.Nodup) (hn : n ∈ r.nodes) (h : n.urlPath? name params = some u) :
    r.urlPath? name params = some u := by
  obtain ⟨nodes, _, _, _⟩ := r
  rw [Router.qualifiedNames] at hd
  rw [Router.urlPath?_eq]
  exact Node.firstUrlPath?_of_mem hd hn h

theorem inner_params {n : Node} (hm : ∀ p ∈ trail, (p.1.verdict p.2).matched = true)
    (hnames : (n.holes.map Hole.name ++ trailNames trail).Nodup) {params left : Params}
    (hget : ∀ p ∈ trail, ∀ k v, (p.1.captured p.2).get? k = some v → params.get? k = some v)
    (hkeys : ∀ k, params.contains k = true ↔ k ∈ n.holes.map Hole.name ++ trailNames trail)
    (hleft : ∀ k, left.get? k = if k ∈ n.holes.map Hole.name then none else params.get? k) :
    (∀ p ∈ trail, ∀ k v, (p.1.captured p.2).get? k = some v → left.get? k = some v) ∧
    ∀ k, left.contains k = true ↔ k ∈ trailNames trail := by
  have hdisjoint := (List.nodup_append.mp hnames).2.2
  constructor
  · intro p hp k v hk
    have hkp : k ∈ p.1.holes.map Hole.name := by
      rw [← Node.keys_captured (hm p hp)]
      exact Params.contains_iff.mp (by rw [Params.contains, hk]; rfl)
    have hfree : k ∉ n.holes.map Hole.name := fun hin =>
      hdisjoint _ hin _ (List.mem_flatMap.mpr ⟨p, hp, hkp⟩) rfl
    rw [hleft, if_neg hfree]
    exact hget p hp k v hk
  · intro k
    rw [Params.contains, hleft]
    by_cases hk : k ∈ n.holes.map Hole.name
    · rw [if_pos hk]
      exact iff_of_false (by simp) fun hin => hdisjoint _ hk _ hin rfl
    · rw [if_neg hk, ← Params.contains, hkeys, List.mem_append]
      exact or_iff_right hk

/-- A mount on the way answers with its share of the path and what is answered below it. -/
theorem urlPath?_of_mount {m : Mount} {inner : Router} (ht : m.target.target = .router inner)
    (hrev : (Node.mount m).Reversible) {s : Scope} (hlevel : (m.verdict s).level = .full)
    (hpadded : (Node.mount m).Unpadded s) {params : Params}
    (hget : ∀ k v, ((Node.mount m).captured s).get? k = some v → params.get? k = some v)
    (hkeys : ∀ k ∈ m.prefixHoles.map Hole.name, params.contains k = true) {name : String}
    {protocol : Option Protocol} {host : Option String}
    (hinner : inner.urlPath? name (m.leftover params) =
      some ⟨(s.derive (m.verdict s).child).path, protocol, host⟩) :
    m.urlPath? (qualify m.name name) params = some ⟨s.path, protocol, host⟩ := by
  obtain ⟨lead, hs⟩ := Mount.Registered.shape hrev.registered rfl
  rcases Mount.verdict_cases hs s with ⟨_, a, w, as, hcut, hw, ha, heq⟩ | ⟨_, hnone, _⟩
  case inr =>
    rw [hnone] at hlevel
    cases hlevel
  have hfree := hs.slashFree rfl (hrev.segments m rfl)
  have hreads : Template.Reads m.template.pieces s.path.toList _ :=
    hcut ▸ hs.reads_of_slashFree hfree hw ha
  have hparams : ∀ e ∈ as, params.get? e.1 = some e.2 := by
    intro e he
    refine hget e.1 e.2 ?_
    rw [Node.captured, Template.captured_of_reads hreads, (hs.erase_rest ha _).1]
    exact Params.get?_ofList_of_mem (hs.nodup_entries ha) he
  have hpadded' : Template.Unpadded m.template.pieces (a ++ '/' :: w) := hcut ▸ hpadded
  have hdelegate := Mount.delegate?_of_reads hs hrev ha hw hpadded' hparams hkeys name
  rw [Mount.urlPath?_of_inner ht hdelegate hinner, heq]
  have hpath : String.ofList a ++ String.ofList ('/' :: w) = s.path := by
    rw [← String.toList_inj, String.toList_append, String.toList_ofList, String.toList_ofList,
      hcut]
  exact congrArg (fun x => some (UrlPath.mk x protocol host)) hpath

/-- A gate on the way answers with the host it matched and what is answered behind it. -/
theorem urlPath?_of_host {g : HostGate} {inner : Router} (ht : g.target.target = .router inner)
    (hrev : (Node.host g).Reversible) {s : Scope} (hlevel : (g.verdict s).level = .full)
    (hpadded : (Node.host g).Unpadded s) {params : Params}
    (hget : ∀ k v, ((Node.host g).captured s).get? k = some v → params.get? k = some v)
    (hkeys : ∀ k ∈ g.template.holes.map Hole.name, params.contains k = true) {name : String}
    {protocol : Option Protocol} {host : Option String}
    (hinner : inner.urlPath? name (g.leftover params) =
      some ⟨(s.derive (g.verdict s).child).path, protocol, host⟩) :
    g.urlPath? (qualify g.name name) params = some ⟨s.path, protocol, some s.hostname⟩ := by
  rcases HostGate.verdict_cases g s with ⟨_, es, hreads, heq⟩ | ⟨hnone, _⟩
  case inr =>
    rw [hnone] at hlevel
    cases hlevel
  have hparams : ∀ e ∈ es, params.get? e.1 = some e.2 := by
    intro e he
    refine hget e.1 e.2 ?_
    rw [Node.captured, Template.captured_of_reads hreads]
    exact Params.get?_ofList_of_mem hreads.nodup he
  have hdelegate := HostGate.delegate?_of_reads hrev hreads hpadded hparams hkeys name
  rw [HostGate.urlPath?_of_inner ht hdelegate hinner, heq]
  rfl

/-- Given what was captured from here on down and nothing else, the path that came in is found. -/
theorem Carries.urlPath?_of_params (h : r.Carries s trail t s')
    (hnodes : ∀ ns, r.Chain ns → ∀ n ∈ ns, n.Reversible)
    (hnames : (trailNames trail).Nodup) (hqualified : r.qualifiedNames.Nodup)
    (hpadded : ∀ p ∈ trail, p.1.Unpadded p.2) :
    ∀ params : Params,
      (∀ p ∈ trail, ∀ k v, (p.1.captured p.2).get? k = some v → params.get? k = some v) →
      (∀ k, params.contains k = true ↔ k ∈ trailNames trail) →
      r.urlPath? (Node.qualifiedName (trail.map (·.1))) params = some ⟨s.path, some t.protocol,
        if (trail.map (·.1)).any Node.isHost then some s.hostname else none⟩ := by
  induction h with
  | @route r s c t hchoice hfull hnode =>
      intro params hget hkeys
      have hmem := List.mem_of_getElem? hnode
      have hrev := hnodes _ (.last hmem) _ (List.mem_singleton_self _)
      have hlevel := level_of_choice hchoice hfull hnode
      refine urlPath?_of_node hqualified hmem ?_
      rw [Node.urlPath?]
      rcases t.verdict_cases (r.mark s) with ⟨_, es, hreads, _⟩ | ⟨_, hnone, _⟩
      · refine Route.urlPath?_of_reads (s := r.mark s) hrev hreads
          (hpadded _ (List.mem_singleton_self _)) (hget _ (List.mem_singleton_self _))
          fun k => ?_
        rw [hkeys]
        simp [trailNames, Node.holes]
      · rw [Node.verdict, hnone] at hlevel
        cases hlevel
  | @subtree r s c n e inner trail t s' hchoice hfull hnode he ht hcarries ih =>
      intro params hget hkeys
      have hmem := List.mem_of_getElem? hnode
      have hrev := hnodes _ (.last hmem) _ (List.mem_singleton_self _)
      have hlevel := level_of_choice hchoice hfull hnode
      have hinner := nodup_qualifiedNames_inner hqualified hmem he ht
      have hnodes' : ∀ ns, inner.Chain ns → ∀ n ∈ ns, n.Reversible := fun ns hns k hk =>
        hnodes _ (.cons hmem he ht hns) k (List.mem_cons_of_mem _ hk)
      have hpadded' := fun p hp => hpadded p (List.mem_cons_of_mem _ hp)
      rw [trailNames, List.flatMap_cons] at hnames
      have ih' := ih hnodes' (List.nodup_append.mp hnames).2.1 hinner hpadded'
      have hget' := hget _ (List.mem_cons_self ..)
      have hown : ∀ k ∈ n.holes.map Hole.name, params.contains k = true := fun k hk =>
        (hkeys k).mpr (List.mem_append_left _ hk)
      have hbelow {left : Params}
          (hleft : ∀ k, left.get? k = if k ∈ n.holes.map Hole.name then none
            else params.get? k) :=
        inner_params hcarries.matched hnames
          (fun p hp => hget p (List.mem_cons_of_mem _ hp)) hkeys hleft
      refine urlPath?_of_node hqualified hmem ?_
      rw [List.map_cons, Node.qualifiedName_cons hcarries.nodes_ne_nil]
      cases n with
      | route t => cases he
      | lifespan l => cases he
      | mount m =>
          cases he
          obtain ⟨hget'', hkeys''⟩ := hbelow (m.get?_leftover_holes params)
          rw [Node.urlPath?]
          exact urlPath?_of_mount ht hrev hlevel (hpadded _ (List.mem_cons_self ..)) hget' hown
            (ih' _ hget'' hkeys'')
      | host g =>
          cases he
          obtain ⟨hget'', hkeys''⟩ := hbelow (g.get?_leftover_holes params)
          rw [Node.urlPath?]
          exact urlPath?_of_host ht hrev hlevel (hpadded _ (List.mem_cons_self ..)) hget' hown
            (ih' _ hget'' hkeys'')

end Router

namespace Site

theorem chain_cases {ns : List Node} (h : root.Chain ns) :
    ns = [.mount users] ∨ ns = [.mount users, .route post] := by
  cases h with
  | last hn =>
      obtain rfl := List.mem_singleton.mp hn
      exact Or.inl rfl
  | cons hn he ht h =>
      obtain rfl := List.mem_singleton.mp hn
      cases he
      cases ht
      cases h with
      | last hn =>
          obtain rfl := List.mem_singleton.mp hn
          exact Or.inr rfl
      | cons hn he _ _ =>
          obtain rfl := List.mem_singleton.mp hn
          cases he

theorem reversible_users : (Node.mount users).Reversible where
  registered := registered_users
  unrounded := by
    intro h hmem heq
    obtain rfl := List.mem_singleton.mp (show h ∈ [idHole] from hmem)
    exact absurd (congrArg Converter.pattern heq) (by decide)
  segments := by
    rintro m ⟨⟩ h hmem heq
    obtain rfl := List.mem_singleton.mp (show h ∈ [idHole] from hmem)
    exact absurd (congrArg Converter.pattern heq) (by decide)

theorem reversible_post : (Node.route post).Reversible where
  registered := registered_post
  unrounded := by
    intro h hmem heq
    obtain rfl := List.mem_singleton.mp (show h ∈ [slugHole] from hmem)
    exact absurd (congrArg Converter.pattern heq) (by decide)
  segments := by
    rintro m ⟨⟩

theorem carries_visit : ∃ trail s', root.Carries visit trail post s' ∧
    trail.map (·.1) = [.mount users, .route post] ∧ ∀ p ∈ trail, p.1.Unpadded p.2 := by
  have hmount : users.verdict (root.mark visit) = .full _ := verdict_users rfl rfl
  have hroute : post.verdict (posts.mark ((root.mark visit).derive
      (users.verdict (root.mark visit)).child)) = .full _ :=
    verdict_post rfl (by rw [hmount]; rfl)
  refine ⟨_, _, .subtree (choice_of_full rfl hmount) rfl rfl rfl rfl
    (.route (choice_of_full rfl hroute) rfl rfl), rfl, ?_⟩
  intro p hp
  simp only [List.mem_cons, List.not_mem_nil, or_false] at hp
  rcases hp with rfl | rfl
  · intro us hus q hq _
    have htaken : Template.capturePieces? users.template.pieces "/users/7/posts/a".toList =
        some ["7".toList, "posts/a".toList] := by decide
    rw [Template.capture?_eq] at hus
    obtain rfl := Option.some.inj (htaken.symm.trans hus)
    have hzip : q ∈ [(idHole, "7".toList), (Mount.restHole, "posts/a".toList)] := hq
    simp only [List.mem_cons, List.not_mem_nil, or_false] at hzip
    rcases hzip with rfl | rfl
    · exact Or.inr (by decide)
    · exact Or.inr (by decide)
  · intro us hus q hq hint
    obtain heq := List.mem_singleton.mp (show q.1 ∈ [slugHole] from (List.of_mem_zip hq).1)
    rw [heq] at hint
    exact absurd (congrArg Converter.pattern hint) (by decide)

end Site

namespace Router

/-- From a path to parameters and back. A scope without parameters that dispatching carries by
full matches down to a route is addressed by the qualified name of the route and the parameters
that its endpoint is called with: the outermost router resolves them to the path that came in,
the protocol of the route, and the host name if the way leads through a host gate. -/
theorem Carries.round_trip {r : Router} {s s' : Scope} {trail : List (Node × Scope)} {t : Route}
    (h : r.Carries s trail t s')
    (hnodes : ∀ ns, r.Chain ns → ∀ n ∈ ns, n.Reversible)
    (hnames : ∀ ns u, r.Chain (ns ++ [.route u]) →
      ((ns ++ [.route u]).flatMap fun n => n.holes.map Hole.name).Nodup)
    (hqualified : r.qualifiedNames.Nodup) (hparams : s.params = .empty)
    (hpadded : ∀ p ∈ trail, p.1.Unpadded p.2) :
    (∃ events, ∀ b, r.dispatch b s = (do Action.logAll events; t.endpoint.call b s')) ∧
    r.urlPath? (Node.qualifiedName (trail.map (·.1))) s'.params = some ⟨s.path, some t.protocol,
      if (trail.map (·.1)).any Node.isHost then some s.hostname else none⟩ := by
  have hdistinct : (trailNames trail).Nodup := by
    obtain ⟨ns, htrail, hchain⟩ := h.chain
    have hd := hnames ns t hchain
    rwa [← htrail, List.flatMap_map] at hd
  have hall : s'.params = overlay .empty trail := by rw [h.params_eq, hparams]
  refine ⟨h.calls.dispatch_eq, ?_⟩
  rw [hall]
  exact h.urlPath?_of_params hnodes hdistinct hqualified hpadded _
    (fun p hp k v hk => get?_overlay h.matched hdistinct .empty hp hk)
    (fun k => contains_overlay h.matched hdistinct)

end Router

namespace Site

/-- The post of a user is found again by the name of its route. -/
theorem round_trip_site : ∃ trail s', root.Carries visit trail post s' ∧
    root.urlPath? "users:post" s'.params = some ⟨"/users/7/posts/a", some .http, none⟩ := by
  obtain ⟨trail, s', hcarries, htrail, hpadded⟩ := carries_visit
  have hnodes : ∀ ns, root.Chain ns → ∀ n ∈ ns, n.Reversible := by
    intro ns hns n hn
    rcases chain_cases hns with rfl | rfl
    · obtain rfl := List.mem_singleton.mp hn
      exact reversible_users
    · simp only [List.mem_cons, List.not_mem_nil, or_false] at hn
      rcases hn with rfl | rfl
      · exact reversible_users
      · exact reversible_post
  have hnames : ∀ ns u, root.Chain (ns ++ [.route u]) →
      ((ns ++ [.route u]).flatMap fun n => n.holes.map Hole.name).Nodup := by
    intro ns u hns
    rcases chain_cases hns with heq | heq
    · rw [heq]
      exact (by decide : ["id"].Nodup)
    · rw [heq]
      exact (by decide : ["id", "slug"].Nodup)
  have h := (hcarries.round_trip hnodes hnames (by decide) rfl hpadded).2
  rw [htrail] at h
  exact ⟨trail, s', hcarries, h⟩

end Site

end Waymark
