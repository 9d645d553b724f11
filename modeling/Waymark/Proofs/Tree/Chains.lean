import Mathlib.Data.List.Find
import Waymark.Proofs.Template.Writing
import Waymark.Proofs.Tree.Lookup
import Waymark.Proofs.Tree.RoundTrip

/-!
# Chains of nodes and what asks for them

What a name and parameters can mean is said here without reverse lookup. A tree
has chains of nodes (`Router.chains`), each of them the answer to one question:
it is asked for by the names on it, with exactly the parameters that its holes
take (`Chain.Asked`), and it has one address (`Chain.address`). The answer for a
tree is the address of the first chain that is asked for (`Chain.lookup`).

A lookup that goes down the tree takes the parameters of a node away before it
asks the nodes below. `Chain.asked_cons_iff` is the step that this rests on: a
chain is asked for if the one behind its first node is, with the parameters that
this node leaves. From it follows what such a lookup may do at a node
(`Chain.lookup_below`).
-/

namespace Waymark

/-! ## Chains -/

mutual

/-- The chains of a router's tree, depth first in the order of registration: those that start at
a node before those that start at the next, and a node by itself before those that go on. -/
def Router.chains : Router → List (List Node)
  | ⟨nodes, _, _, _⟩ => Node.allChains nodes

def Endpoint.chains : Endpoint → List (List Node)
  | ⟨_, _, .router r⟩ => r.chains
  | ⟨_, _, _⟩ => []

def Mount.chainsBelow : Mount → List (List Node)
  | ⟨_, _, target, _⟩ => target.chains

def HostGate.chainsBelow : HostGate → List (List Node)
  | ⟨_, target, _⟩ => target.chains

def Node.chains : Node → List (List Node)
  | .route q => [[.route q]]
  | .mount m => [.mount m] :: m.chainsBelow.map (.mount m :: ·)
  | .host g => [.host g] :: g.chainsBelow.map (.host g :: ·)
  | .lifespan l => [[.lifespan l]]

def Node.allChains : List Node → List (List Node)
  | [] => []
  | n :: ns => n.chains ++ Node.allChains ns

end

theorem Router.chains_eq (r : Router) : r.chains = Node.allChains r.nodes := by
  rw [Router.chains.eq_def]
  cases r
  rfl

theorem Endpoint.mem_chains_iff {e : Endpoint} {ns : List Node} :
    ns ∈ e.chains ↔ ∃ inner, e.target = .router inner ∧ ns ∈ inner.chains := by
  obtain ⟨name, handle, target⟩ := e
  rw [Endpoint.chains.eq_def]
  cases target with
  | router r => simp
  | _ => simp

theorem Node.mem_allChains_iff {ns : List Node} {ms : List Node} :
    ms ∈ Node.allChains ns ↔ ∃ n ∈ ns, ms ∈ n.chains := by
  induction ns with
  | nil => simp [Node.allChains]
  | cons n ns ih => rw [Node.allChains, List.mem_append, ih, List.exists_mem_cons_iff]

theorem Mount.chainsBelow_eq (m : Mount) : m.chainsBelow = m.target.chains := by
  rw [Mount.chainsBelow.eq_def]
  cases m
  rfl

theorem HostGate.chainsBelow_eq (g : HostGate) : g.chainsBelow = g.target.chains := by
  rw [HostGate.chainsBelow.eq_def]
  cases g
  rfl

theorem Node.mem_chains_iff {n : Node} {ns : List Node} : ns ∈ n.chains ↔
    ns = [n] ∨ ∃ e, n.subtree? = some e ∧ ∃ ms ∈ e.chains, ns = n :: ms := by
  have hsub (e : Endpoint) : ns ∈ [n] :: e.chains.map (n :: ·) ↔
      ns = [n] ∨ ∃ ms ∈ e.chains, ns = n :: ms := by
    rw [List.mem_cons, List.mem_map]
    simp only [eq_comm]
  cases n with
  | route q => simp [Node.chains, Node.subtree?]
  | mount m =>
      rw [Node.chains, Mount.chainsBelow_eq, hsub m.target]
      simp [Node.subtree?]
  | host g =>
      rw [Node.chains, HostGate.chainsBelow_eq, hsub g.target]
      simp [Node.subtree?]
  | lifespan l => simp [Node.chains, Node.subtree?]

/-- The chains that are listed are the chains of the tree. -/
theorem Router.mem_chains_iff {r : Router} {ns : List Node} : ns ∈ r.chains ↔ r.Chain ns := by
  constructor
  · intro h
    induction ns generalizing r with
    | nil =>
        rw [Router.chains_eq, Node.mem_allChains_iff] at h
        obtain ⟨n, _, hns⟩ := h
        rcases Node.mem_chains_iff.mp hns with hnil | ⟨_, _, _, _, hnil⟩ <;> cases hnil
    | cons n ns ih =>
        rw [Router.chains_eq, Node.mem_allChains_iff] at h
        obtain ⟨k, hk, hns⟩ := h
        rcases Node.mem_chains_iff.mp hns with heq | ⟨e, he, ms, hms, heq⟩
        · cases heq
          exact .last hk
        · cases heq
          obtain ⟨inner, ht, hinner⟩ := Endpoint.mem_chains_iff.mp hms
          exact .cons hk he ht (ih hinner)
  · intro h
    induction h with
    | last hn =>
        rw [Router.chains_eq, Node.mem_allChains_iff]
        exact ⟨_, hn, Node.mem_chains_iff.mpr (Or.inl rfl)⟩
    | cons hn he ht _ ih =>
        rw [Router.chains_eq, Node.mem_allChains_iff]
        refine ⟨_, hn, Node.mem_chains_iff.mpr (Or.inr ⟨_, he, _, ?_, rfl⟩)⟩
        exact Endpoint.mem_chains_iff.mpr ⟨_, ht, ih⟩

/-! ## What a chain is asked for -/

namespace Chain

def name (ns : List Node) : String := Text.joined ":" (ns.filterMap Node.name?)

/-- The names of the parameters that a chain takes: those of its holes, and the one for the rest
of the path if it ends in a subtree, which is then taken as a whole. -/
def takes (ns : List Node) : List String :=
  (ns.flatMap fun n => n.holes.map Hole.name) ++
    if (ns.getLast?.bind Node.subtree?).isSome then [Mount.rest] else []

/-- The chain is what the name and the parameters ask for: it ends in a route or a named subtree,
the name is that of the chain, the parameters are those that it takes, each of them once, and each
converter accepts its value. -/
structure Asked (ns : List Node) (name : String) (params : Params) : Prop where
  ends : (ns.getLast?.bind Node.name?).isSome = true
  name_eq : Chain.name ns = name
  nodup : (takes ns).Nodup
  keys : ∀ k, k ∈ params.keys ↔ k ∈ takes ns
  accepted : ∀ n ∈ ns, ∀ h ∈ n.holes, (h.written? params).isSome = true

instance (ns : List Node) (name : String) (params : Params) : Decidable (Asked ns name params) :=
  decidable_of_iff ((ns.getLast?.bind Node.name?).isSome = true ∧ Chain.name ns = name ∧
      (takes ns).Nodup ∧ ((∀ k ∈ params.keys, k ∈ takes ns) ∧ ∀ k ∈ takes ns, k ∈ params.keys) ∧
      ∀ n ∈ ns, ∀ h ∈ n.holes, (h.written? params).isSome = true)
    ⟨fun ⟨hends, hname, hnodup, ⟨hin, hall⟩, haccepted⟩ =>
      ⟨hends, hname, hnodup, fun k => ⟨hin k, hall k⟩, haccepted⟩,
    fun ⟨hends, hname, hnodup, hkeys, haccepted⟩ =>
      ⟨hends, hname, hnodup, ⟨fun k => (hkeys k).mp, fun k => (hkeys k).mpr⟩, haccepted⟩⟩

theorem takes_cons {n : Node} {ns : List Node} (hns : ns ≠ []) :
    takes (n :: ns) = n.holes.map Hole.name ++ takes ns := by
  obtain ⟨k, ks, rfl⟩ := List.exists_cons_of_ne_nil hns
  unfold takes
  rw [List.flatMap_cons, List.getLast?_cons_cons, List.append_assoc]

theorem mem_takes {ns : List Node} {n : Node} (hn : n ∈ ns) {h : Hole} (hh : h ∈ n.holes) :
    h.name ∈ takes ns := by
  unfold takes
  refine List.mem_append_left _ (List.mem_flatMap.mpr ⟨n, hn, ?_⟩)
  exact List.mem_map_of_mem hh

theorem rest_mem_takes {ns : List Node} (h : (ns.getLast?.bind Node.subtree?).isSome = true) :
    Mount.rest ∈ takes ns := by
  unfold takes
  rw [if_pos h]
  exact List.mem_append_right _ (List.mem_singleton_self _)

theorem name_cons {n : Node} {ns : List Node}
    (hends : (ns.getLast?.bind Node.name?).isSome = true) :
    name (n :: ns) = qualify n.name? (name ns) := by
  obtain ⟨last, hlast⟩ := Option.isSome_iff_exists.mp hends
  obtain ⟨m, hm, hname⟩ := Option.bind_eq_some_iff.mp hlast
  have hmem : last ∈ ns.filterMap Node.name? :=
    List.mem_filterMap.mpr ⟨m, List.mem_of_getLast? hm, hname⟩
  obtain ⟨own, owns, howns⟩ := List.exists_cons_of_ne_nil (List.ne_nil_of_mem hmem)
  unfold name
  cases hn : n.name? with
  | none =>
      rw [List.filterMap_cons_none hn]
      rfl
  | some outer =>
      rw [List.filterMap_cons_some hn, howns]
      rfl

end Chain

theorem Node.nodup_names (n : Node) : (n.holes.map Hole.name).Nodup := by
  have htemplate (t : Template) : (t.holes.map Hole.name).Nodup := by
    have hnames : t.names = t.holes.map Hole.name := Template.names_eq_map_holes _
    rw [← hnames]
    exact t.distinct
  cases n with
  | route q => exact htemplate q.template
  | mount m => exact (htemplate m.template).sublist (List.filter_sublist.map _)
  | host g => exact htemplate g.template
  | lifespan l => exact List.nodup_nil

namespace Chain

section Below

variable {n : Node} {ns : List Node} {asked : String} {params left : Params}
  (hleft : ∀ k, left.get? k = if k ∈ n.holes.map Hole.name then none else params.get? k)

include hleft

theorem mem_keys_left {k : String} :
    k ∈ left.keys ↔ k ∈ params.keys ∧ k ∉ n.holes.map Hole.name := by
  rw [← Params.contains_iff, ← Params.contains_iff, Params.contains, Params.contains, hleft]
  split
  · rename_i hk
    exact iff_of_false Bool.false_ne_true fun h => h.2 hk
  · rename_i hk
    exact (and_iff_left hk).symm

theorem get?_left {k : String} (hk : k ∈ left.keys) : left.get? k = params.get? k :=
  (hleft k).trans (if_neg ((mem_keys_left hleft).mp hk).2)

/-- The parameters are just those that a chain takes if its first node finds its own among them
and leaves just those that the chain behind it takes. -/
theorem keys_cons_iff (hns : ns ≠ []) :
    (takes (n :: ns)).Nodup ∧ (∀ k, k ∈ params.keys ↔ k ∈ takes (n :: ns)) ↔
      (∀ h ∈ n.holes, h.name ∈ params.keys) ∧
      (takes ns).Nodup ∧ ∀ k, k ∈ left.keys ↔ k ∈ takes ns := by
  simp only [takes_cons hns, mem_keys_left hleft, List.mem_append]
  constructor
  · rintro ⟨hnodup, hall⟩
    obtain ⟨_, hnodup', hdisjoint⟩ := List.nodup_append.mp hnodup
    refine ⟨fun h hh => (hall _).mpr (Or.inl (List.mem_map_of_mem hh)), hnodup', fun k => ?_⟩
    constructor
    · rintro ⟨hk, hnot⟩
      exact ((hall k).mp hk).resolve_left hnot
    · intro hk
      exact ⟨(hall k).mpr (Or.inr hk), fun hin => hdisjoint _ hin _ hk rfl⟩
  · rintro ⟨hown, hnodup, hall⟩
    refine ⟨List.nodup_append.mpr ⟨n.nodup_names, hnodup, ?_⟩, fun k => ?_⟩
    · rintro k hk _ hk' rfl
      exact ((hall k).mpr hk').2 hk
    · constructor
      · intro hk
        by_cases hin : k ∈ n.holes.map Hole.name
        · exact Or.inl hin
        · exact Or.inr ((hall k).mp ⟨hk, hin⟩)
      · rintro (hk | hk)
        · obtain ⟨h, hh, rfl⟩ := List.mem_map.mp hk
          exact hown h hh
        · exact ((hall k).mpr hk).1

/-- The chain behind a node finds the values that the node was given. -/
theorem written?_left (hkeys : ∀ k ∈ takes ns, k ∈ left.keys) {m : Node} (hm : m ∈ ns) {h : Hole}
    (hh : h ∈ m.holes) : h.written? left = h.written? params :=
  Hole.written?_congr (get?_left hleft (hkeys _ (mem_takes hm hh)))

/-- A chain is asked for if its first node accepts its values and the chain behind it is asked
for: by the name without that of the node, with the parameters that the node leaves. -/
theorem asked_cons_iff (hns : ns ≠ []) :
    Asked (n :: ns) asked params ↔ (∀ h ∈ n.holes, (h.written? params).isSome = true) ∧
      ∃ residual, asked = qualify n.name? residual ∧ Asked ns residual left := by
  have hlast : (n :: ns).getLast? = ns.getLast? := by
    obtain ⟨k, ks, rfl⟩ := List.exists_cons_of_ne_nil hns
    exact List.getLast?_cons_cons
  constructor
  · rintro ⟨hends, rfl, hnodup, hall, haccepted⟩
    rw [hlast] at hends
    obtain ⟨_, hnodup', hall'⟩ := (keys_cons_iff hleft hns).mp ⟨hnodup, hall⟩
    obtain ⟨hfirst, hbelow⟩ := List.forall_mem_cons.mp haccepted
    refine ⟨hfirst, name ns, name_cons hends, hends, rfl, hnodup', hall', fun m hm h hh => ?_⟩
    rw [written?_left hleft (fun k hk => (hall' k).mpr hk) hm hh]
    exact hbelow m hm h hh
  · rintro ⟨hfirst, residual, rfl, hends, rfl, hnodup, hall, haccepted⟩
    have hown : ∀ h ∈ n.holes, h.name ∈ params.keys :=
      fun h hh => Params.contains_iff.mp (Hole.contains_of_written (hfirst h hh))
    obtain ⟨hnodup', hall'⟩ := (keys_cons_iff hleft hns).mpr ⟨hown, hnodup, hall⟩
    refine ⟨hlast ▸ hends, name_cons hends, hnodup', hall', ?_⟩
    refine List.forall_mem_cons.mpr ⟨hfirst, fun m hm h hh => ?_⟩
    rw [← written?_left hleft (fun k hk => (hall k).mpr hk) hm hh]
    exact haccepted m hm h hh

end Below

end Chain

/-! ## The address of a chain -/

/-- The pieces of a mount's prefix: those in front of the last slash and the hole for the rest. -/
def Mount.prefixPieces (m : Mount) : List Piece :=
  (Template.atoms m.template.pieces).dropLast.dropLast

theorem Mount.Shape.prefixPieces_eq {registry : Registry} {m : Mount} {lead : List Piece}
    (hs : m.Shape registry lead) : m.prefixPieces = lead := by
  rw [prefixPieces, hs.pieces_eq]
  simp [restPieces]

namespace Node

/-- What a node puts in front of the paths behind it: a mount its prefix without the slashes at
the end. -/
def stem (params : Params) : Node → String
  | .mount m => Text.dropTrailing '/' (String.ofList (Template.written params m.prefixPieces))
  | _ => ""

/-- The path of a node at the end of a chain: that of the route, or for a subtree as a whole what
the parameter for the rest says, for a mount behind its prefix and without slashes in front. -/
def endPath (params : Params) : Node → String
  | .route q => String.ofList (Template.written params q.template.pieces)
  | .mount m => String.ofList (Template.written params m.prefixPieces) ++ "/" ++
      Mount.bareRest params
  | .host _ => Mount.restOf params
  | .lifespan _ => ""

def host? (params : Params) : Node → Option String
  | .host g => some (String.ofList (Template.written params g.template.pieces))
  | _ => none

def protocol? : Node → Option Protocol
  | .route q => some q.protocol
  | _ => none

end Node

namespace Chain

/-- The stems of the nodes on the way and the path of the last one. -/
def path (params : Params) : List Node → String
  | [] => ""
  | [n] => n.endPath params
  | n :: k :: ns => n.stem params ++ path params (k :: ns)

/-- The address of a chain: its path, the protocol of the route that it ends in, and the
outermost host. -/
def address (params : Params) (ns : List Node) : UrlPath where
  path := path params ns
  protocol := ns.getLast?.bind Node.protocol?
  host := ns.findSome? (Node.host? params)

theorem address_cons {n : Node} {ns : List Node} (hns : ns ≠ []) (params : Params) :
    address params (n :: ns) = { address params ns with
      path := n.stem params ++ (address params ns).path
      host := (n.host? params).or (address params ns).host } := by
  obtain ⟨k, ks, rfl⟩ := List.exists_cons_of_ne_nil hns
  have hhost : (n :: k :: ks).findSome? (Node.host? params) =
      (n.host? params).or ((k :: ks).findSome? (Node.host? params)) := by
    rw [List.findSome?_cons]
    cases n.host? params <;> rfl
  unfold address
  rw [hhost, List.getLast?_cons_cons]
  rfl

end Chain

/-- A mount that was built with a registry in which `path` takes any text of one line; other
nodes may be as they are. -/
def Node.Standard (n : Node) : Prop := ∀ m, n = .mount m → m.Standard

namespace Node

theorem written_prefix_congr {m : Mount} (hm : m.Standard) {params params' : Params}
    (h : ∀ hole ∈ m.prefixHoles, hole.written? params = hole.written? params') :
    Template.written params m.prefixPieces = Template.written params' m.prefixPieces := by
  obtain ⟨registry, hpath, hreg⟩ := hm
  obtain ⟨lead, hs⟩ := hreg.shape hpath
  refine Template.written_congr ?_
  rw [hs.prefixPieces_eq, ← hs.prefixHoles_eq]
  exact h

theorem stem_congr {n : Node} (hn : n.Standard) {params params' : Params}
    (h : ∀ hole ∈ n.holes, hole.written? params = hole.written? params') :
    n.stem params = n.stem params' := by
  cases n with
  | mount m =>
      simp only [stem, written_prefix_congr (hn m rfl) h]
  | _ => rfl

theorem host?_congr {n : Node} {params params' : Params}
    (h : ∀ hole ∈ n.holes, hole.written? params = hole.written? params') :
    n.host? params = n.host? params' := by
  cases n with
  | host g =>
      simp only [host?, Template.written_congr h]
  | _ => rfl

theorem endPath_congr {n : Node} (hn : n.Standard) {params params' : Params}
    (h : ∀ hole ∈ n.holes, hole.written? params = hole.written? params')
    (hrest : n.subtree?.isSome = true → Mount.restOf params = Mount.restOf params') :
    n.endPath params = n.endPath params' := by
  cases n with
  | route q =>
      simp only [endPath, Template.written_congr h]
  | mount m =>
      simp only [endPath, Mount.bareRest, written_prefix_congr (hn m rfl) h, hrest rfl]
  | host g =>
      simp only [endPath, hrest rfl]
  | lifespan l => rfl

end Node

/-- The address of a chain is made of what its holes are written as and of the rest of the path. -/
theorem Chain.address_congr {ns : List Node} (hstandard : ∀ n ∈ ns, n.Standard)
    {params params' : Params}
    (h : ∀ n ∈ ns, ∀ hole ∈ n.holes, hole.written? params = hole.written? params')
    (hrest : (ns.getLast?.bind Node.subtree?).isSome = true →
      Mount.restOf params = Mount.restOf params') :
    address params ns = address params' ns := by
  induction ns with
  | nil => rfl
  | cons n ns ih =>
      obtain ⟨hn, hns'⟩ := List.forall_mem_cons.mp hstandard
      obtain ⟨hholes, hbehind⟩ := List.forall_mem_cons.mp h
      by_cases hns : ns = []
      · subst hns
        have hhost (ps : Params) : [n].findSome? (Node.host? ps) = n.host? ps := by
          rw [List.findSome?_cons]
          cases n.host? ps <;> rfl
        unfold address path
        rw [Node.endPath_congr hn hholes hrest, hhost, hhost, Node.host?_congr hholes]
      · have hlast : (n :: ns).getLast? = ns.getLast? := by
          obtain ⟨k, ks, rfl⟩ := List.exists_cons_of_ne_nil hns
          exact List.getLast?_cons_cons
        have hbelow := ih hns' hbehind (hlast ▸ hrest)
        rw [address_cons hns, address_cons hns, hbelow, Node.stem_congr hn hholes,
          Node.host?_congr hholes]

/-! ## The search -/

namespace Chain

/-- The address of the first of the chains that is asked for. -/
def lookup (cs : List (List Node)) (asked : String) (params : Params) : Option UrlPath :=
  (cs.find? fun ns => Asked ns asked params).map (address params)

theorem lookup_eq_some_iff {cs : List (List Node)} {asked : String} {params : Params}
    {u : UrlPath} : lookup cs asked params = some u ↔
      ∃ before ns after, cs = before ++ ns :: after ∧ Asked ns asked params ∧
        (∀ k ∈ before, ¬ Asked k asked params) ∧ u = address params ns := by
  unfold lookup
  rw [Option.map_eq_some_iff]
  constructor
  · rintro ⟨ns, hfind, rfl⟩
    obtain ⟨hasked, before, after, hcs, hbefore⟩ := List.find?_eq_some_iff_append.mp hfind
    refine ⟨before, ns, after, hcs, of_decide_eq_true hasked, ?_, rfl⟩
    intro k hk
    simpa using hbefore k hk
  · rintro ⟨before, ns, after, hcs, hasked, hbefore, rfl⟩
    refine ⟨ns, List.find?_eq_some_iff_append.mpr ⟨decide_eq_true hasked, before, after, hcs, ?_⟩,
      rfl⟩
    intro k hk
    simpa using hbefore k hk

theorem lookup_eq_none_iff {cs : List (List Node)} {asked : String} {params : Params} :
    lookup cs asked params = none ↔ ∀ ns ∈ cs, ¬ Asked ns asked params := by
  unfold lookup
  rw [Option.map_eq_none_iff, List.find?_eq_none]
  simp only [decide_eq_true_eq]

theorem lookup_append (cs ds : List (List Node)) (asked : String) (params : Params) :
    lookup (cs ++ ds) asked params = (lookup cs asked params).or (lookup ds asked params) := by
  unfold lookup
  rw [List.find?_append, Option.map_or]

theorem lookup_singleton {ns : List Node} {asked : String} {params : Params} {u : UrlPath} :
    lookup [ns] asked params = some u ↔ Asked ns asked params ∧ u = address params ns := by
  rw [lookup_eq_some_iff]
  constructor
  · rintro ⟨before, ms, after, hcs, hasked, _, rfl⟩
    cases before with
    | nil =>
        cases hcs
        exact ⟨hasked, rfl⟩
    | cons b before => cases before <;> cases hcs
  · rintro ⟨hasked, rfl⟩
    exact ⟨[], ns, [], rfl, hasked, nofun, rfl⟩

theorem qualify_injective {own : Option String} {a b : String} (h : qualify own a = qualify own b) :
    a = b := by
  have ha := residualName?_eq_some_iff.mpr (rfl : qualify own a = qualify own a)
  have hb := residualName?_eq_some_iff.mpr h
  exact Option.some.inj (ha.symm.trans hb)

variable {n : Node} {cs : List (List Node)} {asked : String} {params left : Params}

/-- The chains behind a node are searched with what the node leaves. -/
theorem lookup_below (hcs : ∀ ns ∈ cs, ns ≠ [] ∧ ∀ k ∈ ns, k.Standard)
    (hleft : ∀ k, left.get? k = if k ∈ n.holes.map Hole.name then none else params.get? k)
    {residual : String} (hname : asked = qualify n.name? residual)
    (haccepted : ∀ h ∈ n.holes, (h.written? params).isSome = true) :
    lookup (cs.map (n :: ·)) asked params = (lookup cs residual left).map fun u =>
      { u with path := n.stem params ++ u.path, host := (n.host? params).or u.host } := by
  have hasked : ∀ ns ∈ cs, decide (Asked (n :: ns) asked params) =
      decide (Asked ns residual left) := by
    intro ns hns
    refine decide_eq_decide.mpr ((asked_cons_iff hleft (hcs ns hns).1).trans ?_)
    constructor
    · rintro ⟨_, residual', hname', hbelow⟩
      rw [qualify_injective (hname.symm.trans hname')]
      exact hbelow
    · intro hbelow
      exact ⟨haccepted, residual, hname, hbelow⟩
  have hfind : (cs.map (n :: ·)).find? (fun ns => Asked ns asked params) =
      (cs.find? fun ns => Asked ns residual left).map (n :: ·) := by
    rw [List.find?_map]
    exact congrArg _ (List.find?_congr hasked)
  unfold lookup
  rw [hfind]
  cases hfound : cs.find? fun ns => Asked ns residual left with
  | none => rfl
  | some ns =>
      have hns := hcs ns (List.mem_of_find?_eq_some hfound)
      have hdecided := List.find?_some hfound
      have hbelow : Asked ns residual left := of_decide_eq_true hdecided
      have hkeys : ∀ k ∈ takes ns, k ∈ left.keys := fun k hk => (hbelow.keys k).mpr hk
      have haddress : address left ns = address params ns := by
        refine address_congr hns.2 (fun m hm h hh => written?_left hleft hkeys hm hh) fun hsub => ?_
        rw [Mount.restOf, Mount.restOf, get?_left hleft (hkeys _ (rest_mem_takes hsub))]
      rw [Option.map_some, Option.map_some, Option.map_some, haddress, address_cons hns.1]
      rfl

/-- No chain behind a node is asked for if the name is not one behind the node's, or the node
does not accept its values. -/
theorem lookup_below_eq_none (hcs : ∀ ns ∈ cs, ns ≠ [])
    (hleft : ∀ k, left.get? k = if k ∈ n.holes.map Hole.name then none else params.get? k)
    (h : ∀ residual, asked = qualify n.name? residual →
      ¬ ∀ h ∈ n.holes, (h.written? params).isSome = true) :
    lookup (cs.map (n :: ·)) asked params = none := by
  rw [lookup_eq_none_iff, List.forall_mem_map]
  intro ns hns hasked
  obtain ⟨haccepted, residual, hname, _⟩ := (asked_cons_iff hleft (hcs ns hns)).mp hasked
  exact h residual hname haccepted

/-- A subtree that is asked for by its own name is asked for as a whole or not at all. -/
theorem lookup_of_own (hcs : ∀ ns ∈ cs, ns ≠ [])
    (hleft : ∀ k, left.get? k = if k ∈ n.holes.map Hole.name then none else params.get? k)
    (hown : n.name? = some asked) :
    lookup ([n] :: cs.map (n :: ·)) asked params = lookup [[n]] asked params := by
  have hnone : lookup (cs.map (n :: ·)) asked params = none := by
    refine lookup_below_eq_none hcs hleft ?_
    rintro residual hname _
    have hnot := own_ne_qualify asked residual
    rw [hown] at hname
    exact hnot hname
  have hsplit := lookup_append [[n]] (cs.map (n :: ·)) asked params
  rw [hnone, Option.or_none] at hsplit
  exact hsplit

theorem lookup_of_not_asked (hself : ¬ Asked [n] asked params) :
    lookup ([n] :: cs.map (n :: ·)) asked params = lookup (cs.map (n :: ·)) asked params := by
  have hnone : lookup [[n]] asked params = none := by
    rw [lookup_eq_none_iff]
    intro ns hns
    obtain rfl := List.mem_singleton.mp hns
    exact hself
  have hsplit := lookup_append [[n]] (cs.map (n :: ·)) asked params
  rw [hnone, Option.none_or] at hsplit
  exact hsplit

end Chain

end Waymark
