import Waymark.Proofs.Table.Built
import Waymark.Proofs.Tree.Completeness
import Waymark.Proofs.Tree.Gating
import Waymark.Proofs.Tree.Rooted

/-!
# What the schema documents

The schema of a tree is said here without the walk that collects it. It has one
part for each chain of the tree, in the order of the chains: the operations of
the documented route that the chain ends in, under the path that the chain
spells (`Chain.format`), or nothing.

The walk carries the prefix of the mounts on its way down, and a mount takes
that from its compiled template. `Router.operationsUnder_eq` takes the walk
apart into its chains, one case for each kind of node; what is left to say is
said of one chain (`Chain.documents`).
-/

namespace Waymark

/-! ## The path of a chain -/

/-- What a node puts into a documented path: its text with the kinds of the holes erased. A gate
is no part of a path. -/
def Node.format : Node → String
  | .route q => Template.erased q.path
  | .mount m => Template.erased m.path
  | .host _ => ""
  | .lifespan _ => ""

def Route.Documented (q : Route) : Prop := q.protocol = .http ∧ q.includeInSchema = true

instance : DecidablePred Route.Documented :=
  fun q => inferInstanceAs (Decidable (q.protocol = .http ∧ q.includeInSchema = true))

namespace Chain

/-- The path of a chain in the schema: the prefixes of its mounts and the text of its route. -/
def format : List Node → String
  | [] => ""
  | n :: ns => n.format ++ format ns

/-- An operation is one of a route at the end of a chain: it has the name of the route, a method
other than `HEAD` that the route allows, and the path of the chain. -/
structure Has (ns : List Node) (q : Route) (o : Operation) : Prop where
  name_eq : o.name = q.name
  allowed : q.allows (some o.method) = true
  method_ne : o.method ≠ "HEAD"
  path_eq : o.path = format ns

/-- The part of a schema that belongs to a chain: there is none unless the chain ends in a
documented route, and of a route with methods it lists each method but `HEAD` once, in order. -/
structure Documents (ns : List Node) (part : List Operation) : Prop where
  sound : ∀ o ∈ part, ∃ q, ns.getLast? = some (.route q) ∧ q.Documented ∧ Has ns q o
  complete : ∀ q ms, ns.getLast? = some (.route q) → q.Documented → q.methods = some ms →
    part.map Operation.method = ms.filter (· != "HEAD")

/-! ## The walk -/

/-- What the walk collects on the way along one chain. -/
def operations : String → List Node → List Operation
  | front, [.route q] => q.operations front
  | front, .mount m :: ns => operations (front ++ m.prefixFormat) ns
  | front, .host _ :: ns => operations front ns
  | _, _ => []

end Chain

mutual

/-- The walk goes along the chains of the tree, one after the other. -/
theorem Router.operationsUnder_eq : ∀ (r : Router) (front : String),
    r.operationsUnder front = r.chains.flatMap (Chain.operations front)
  | ⟨nodes, _, _, _⟩, front => by
      rw [Router.operationsUnder, Router.chains, Node.allOperations_eq]

theorem Endpoint.operations_eq : ∀ (e : Endpoint) (front : String),
    e.operations front = e.chains.flatMap (Chain.operations front)
  | ⟨_, _, .router r⟩, front => by
      rw [Endpoint.operations, Endpoint.chains, Router.operationsUnder_eq]
  | ⟨_, _, .handler⟩, _ => by rw [Endpoint.operations, Endpoint.chains] <;> simp
  | ⟨_, _, .blocking⟩, _ => by rw [Endpoint.operations, Endpoint.chains] <;> simp
  | ⟨_, _, .session⟩, _ => by rw [Endpoint.operations, Endpoint.chains] <;> simp
  | ⟨_, _, .app⟩, _ => by rw [Endpoint.operations, Endpoint.chains] <;> simp

theorem Mount.operations_eq : ∀ (m : Mount) (front : String),
    m.operations front = m.chainsBelow.flatMap (Chain.operations (front ++ m.prefixFormat))
  | ⟨_, _, target, _⟩, front => by
      rw [Mount.operations, Mount.chainsBelow, Endpoint.operations_eq]

theorem HostGate.operations_eq : ∀ (g : HostGate) (front : String),
    g.operations front = g.chainsBelow.flatMap (Chain.operations front)
  | ⟨_, target, _⟩, front => by
      rw [HostGate.operations, HostGate.chainsBelow, Endpoint.operations_eq]

theorem Node.operations_eq : ∀ (n : Node) (front : String),
    n.operations front = n.chains.flatMap (Chain.operations front)
  | .route q, front => by
      rw [Node.operations, Node.chains, List.flatMap_singleton, Chain.operations]
  | .mount m, front => by
      rw [Node.operations, Node.chains, Mount.operations_eq, List.flatMap_cons, List.flatMap_map]
      rfl
  | .host g, front => by
      rw [Node.operations, Node.chains, HostGate.operations_eq, List.flatMap_cons,
        List.flatMap_map]
      rfl
  | .lifespan _, _ => by
      rw [Node.operations, Node.chains, List.flatMap_singleton]
      rfl

theorem Node.allOperations_eq : ∀ (ns : List Node) (front : String),
    Node.allOperations ns front = (Node.allChains ns).flatMap (Chain.operations front)
  | [], _ => by rw [Node.allOperations, Node.allChains, List.flatMap_nil]
  | n :: ns, front => by
      rw [Node.allOperations, Node.allChains, List.flatMap_append, Node.operations_eq,
        Node.allOperations_eq]

end

/-! ## One chain -/

namespace Chain

/-- What a node at the end of a chain documents under a path. -/
def listed (path : String) : Node → List Operation
  | .route q =>
    if q.Documented then
      ((q.methods.getD []).filter (· != "HEAD")).map fun m => ⟨path, m, q.name⟩
    else []
  | _ => []

theorem operations_singleton {registry : Registry} {n : Node} (hn : n.Registered registry)
    (front : String) : operations front [n] = listed (front ++ n.format) n := by
  cases n with
  | route q =>
      have hformat : q.template.format = Template.erased q.path :=
        Template.format_of_compile hn.template_eq.2
      rw [operations, Route.operations, hformat]
      rfl
  | mount m => rfl
  | host g => rfl
  | lifespan l => rfl

theorem operations_cons {registry : Registry} {n : Node} (hn : n.Registered registry)
    {e : Endpoint} (he : n.subtree? = some e) (front : String) (ns : List Node) :
    operations front (n :: ns) = operations (front ++ n.format) ns := by
  cases n with
  | route q => cases he
  | mount m =>
      obtain ⟨_, _, hcomp⟩ := Mount.Registered.compile hn
      rw [operations, Mount.prefixFormat_of_compile hcomp]
      rfl
  | host g =>
      rw [operations]
      exact congrArg (operations · ns) String.append_empty.symm
  | lifespan l => cases he

/-- Along a chain the walk collects what the last node documents under the path of the chain. -/
theorem operations_of_last {r : Router} {ns : List Node} (h : r.Chain ns)
    (hreg : ∀ n ∈ ns, ∃ registry, n.Registered registry) {n : Node}
    (hlast : ns.getLast? = some n) (front : String) :
    operations front ns = listed (front ++ format ns) n := by
  induction h generalizing front with
  | @last r k hk =>
      rw [List.getLast?_singleton] at hlast
      obtain rfl := Option.some.inj hlast
      obtain ⟨registry, hk⟩ := hreg k (List.mem_singleton_self k)
      rw [operations_singleton hk, format, format, String.append_empty]
  | @cons r k e inner ns hk he ht hns ih =>
      obtain ⟨⟨registry, hk⟩, hreg⟩ := List.forall_mem_cons.mp hreg
      have hbelow : ns.getLast? = some n := by
        cases hns <;> exact List.getLast?_cons_cons ▸ hlast
      rw [operations_cons hk he, ih hreg hbelow, format, String.append_assoc]

theorem has_of_listed {ns : List Node} {n : Node} {o : Operation}
    (h : o ∈ listed (format ns) n) : ∃ q, n = .route q ∧ q.Documented ∧ Has ns q o := by
  cases n with
  | route q =>
      rw [listed] at h
      split at h
      · rename_i hdocumented
        obtain ⟨m, hm, rfl⟩ := List.mem_map.mp h
        obtain ⟨hm, hne⟩ := List.mem_filter.mp hm
        refine ⟨q, rfl, hdocumented, rfl, ?_, bne_iff_ne.mp hne, rfl⟩
        cases hset : q.methods with
        | none =>
            rw [hset, Option.getD_none] at hm
            cases hm
        | some ms =>
            rw [hset, Option.getD_some] at hm
            simp only [Route.allows, hset]
            exact List.any_eq_true.mpr ⟨m, hm, beq_self_eq_true _⟩
      · cases h
  | mount m => cases h
  | host g => cases h
  | lifespan l => cases h

/-- The walk along a chain collects the part of the schema that belongs to it. -/
theorem documents {r : Router} (hr : r.Compiled) {ns : List Node} (h : r.Chain ns) :
    Documents ns (operations "" ns) := by
  have hreg : ∀ n ∈ ns, ∃ registry, n.Registered registry :=
    fun n hn => hr n (h.contains n hn)
  have hpart {n : Node} (hlast : ns.getLast? = some n) :
      operations "" ns = listed (format ns) n := by
    rw [operations_of_last h hreg hlast, String.empty_append]
  constructor
  · intro o ho
    obtain ⟨n, hlast⟩ : ∃ n, ns.getLast? = some n := by
      cases h with
      | last hn => exact ⟨_, List.getLast?_singleton⟩
      | cons hn he ht h => exact ⟨_, List.getLast?_cons⟩
    rw [hpart hlast] at ho
    obtain ⟨q, rfl, hq⟩ := has_of_listed ho
    exact ⟨q, hlast, hq⟩
  · intro q ms hlast hdocumented hset
    rw [hpart hlast, listed, if_pos hdocumented, hset, Option.getD_some, List.map_map]
    exact List.map_id _

end Chain

/-! ## The schema -/

/-- The schema of a tree is made of one part for each of its chains, in their order. So each
documented request route with a method other than `HEAD` is listed, and whatever is listed belongs
to a documented request route: it has the route's name, a method other than `HEAD` that the route
allows, and for its path the prefixes of the mounts on the way to the route and the route's own
text, with the kinds of the holes erased. -/
theorem Router.operations_documented {r : Router} (hr : r.Compiled) :
    (∀ ns, ns ∈ r.chains ↔ r.Chain ns) ∧
    (∃ parts, r.operations = parts.flatten ∧ List.Forall₂ Chain.Documents r.chains parts) ∧
    (∀ ns q, r.Chain ns → ns.getLast? = some (.route q) → q.Documented →
      (∃ ms, q.methods = some ms ∧ ∃ m ∈ ms, m ≠ "HEAD") →
        ∃ o ∈ r.operations, Chain.Has ns q o) ∧
    ∀ o ∈ r.operations, ∃ ns q, r.Chain ns ∧ ns.getLast? = some (.route q) ∧ q.Documented ∧
      Chain.Has ns q o := by
  have hoperations : r.operations = r.chains.flatMap (Chain.operations "") :=
    r.operationsUnder_eq ""
  refine ⟨fun ns => Router.mem_chains_iff, ?_, ?_, ?_⟩
  · refine ⟨r.chains.map (Chain.operations ""), ?_, ?_⟩
    · rw [hoperations, List.flatMap_def]
    · rw [List.forall₂_map_right_iff, List.forall₂_same]
      exact fun ns hns => Chain.documents hr (Router.mem_chains_iff.mp hns)
  · rintro ns q hns hlast hdocumented ⟨ms, hset, m, hm, hne⟩
    have hpart := Chain.documents hr hns
    have hmem : m ∈ (Chain.operations "" ns).map Operation.method := by
      rw [hpart.complete q ms hlast hdocumented hset]
      exact List.mem_filter.mpr ⟨hm, bne_iff_ne.mpr hne⟩
    obtain ⟨o, ho, _⟩ := List.mem_map.mp hmem
    obtain ⟨q', hlast', _, hhas⟩ := hpart.sound o ho
    obtain rfl : q = q' := Node.route.inj (Option.some.inj (hlast.symm.trans hlast'))
    refine ⟨o, ?_, hhas⟩
    rw [hoperations]
    exact List.mem_flatMap.mpr ⟨ns, Router.mem_chains_iff.mpr hns, ho⟩
  · intro o ho
    rw [hoperations] at ho
    obtain ⟨ns, hns, ho⟩ := List.mem_flatMap.mp ho
    have hchain := Router.mem_chains_iff.mp hns
    obtain ⟨q, hlast, hdocumented, hhas⟩ := (Chain.documents hr hchain).sound o ho
    exact ⟨ns, q, hchain, hlast, hdocumented, hhas⟩

theorem Router.mem_nodes_of_contains {r : Router} (hfallback : r.fallback = none)
    (hleaves : ∀ k ∈ r.nodes, ∀ e, k.endpoint? = some e → ∀ inner, e.target ≠ .router inner)
    {n : Node} (h : r.Contains n) : n ∈ r.nodes := by
  cases h with
  | here hn => exact hn
  | behind hn he ht _ => exact absurd ht (hleaves _ hn _ he _)
  | fallback he _ _ => cases hfallback.symm.trans he

namespace Site

/-- The users with their posts for readers. -/
def archive : Mount := { users with target := .ofRouter ⟨[3]⟩ readings }

def library : Router := .ofNodes ⟨[4]⟩ [.mount archive]

theorem registered_archive : archive.Registered .builtin := by
  obtain ⟨_, _, hcomp⟩ := registered_users.compile
  have hstem : Text.dropTrailing '/' users.path = users.path := by decide +kernel
  refine ⟨users.path, Mount.new_eq_ok_iff.mpr ⟨Or.inr (by decide), users.template, ?_, ?_⟩⟩
  · rw [hstem]
    exact hcomp
  · rw [hstem]
    rfl

theorem contains_readings {n : Node} (h : readings.Contains n) : n = .route reading := by
  refine List.mem_singleton.mp (Router.mem_nodes_of_contains rfl (fun k hk e he inner ht => ?_) h)
  obtain rfl := List.mem_singleton.mp hk
  cases he
  cases ht

theorem compiled_library : library.Compiled := by
  intro n h
  cases h with
  | here hn =>
      obtain rfl := List.mem_singleton.mp hn
      exact ⟨.builtin, registered_archive⟩
  | behind hn he ht h =>
      obtain rfl := List.mem_singleton.mp hn
      cases he
      cases ht
      obtain rfl := contains_readings h
      exact ⟨.builtin, registered_post⟩
  | fallback he _ _ => cases he

theorem operations_documented_library : ∃ o ∈ library.operations,
    Chain.Has [.mount archive, .route reading] reading o ∧
      Chain.format [.mount archive, .route reading] = "/users/\x7bid\x7d/posts/\x7bslug\x7d" := by
  have hchain : library.Chain [.mount archive, .route reading] :=
    .cons (List.mem_singleton_self _) rfl rfl (.last (List.mem_singleton_self _))
  obtain ⟨_, _, hlisted, _⟩ := Router.operations_documented compiled_library
  obtain ⟨o, ho, hhas⟩ :=
    hlisted _ reading hchain rfl ⟨rfl, rfl⟩ ⟨_, rfl, "GET", by decide, by decide⟩
  exact ⟨o, ho, hhas, by decide +kernel⟩

/-- The same page for the heads of answers alone. -/
def probing : Route := { post with methods := some ["HEAD"] }

def unlisted : Router := .ofNodes ⟨[5]⟩ [.route probing, .route post]

theorem mem_unlisted {n : Node} (h : n ∈ unlisted.nodes) :
    n = .route probing ∨ n = .route post := by
  simpa only [unlisted, Router.ofNodes, List.mem_cons, List.not_mem_nil, or_false] using h

theorem compiled_unlisted : unlisted.Compiled := by
  intro n h
  have hn := Router.mem_nodes_of_contains rfl (fun k hk e he inner ht => ?_) h
  · rcases mem_unlisted hn with rfl | rfl <;> exact ⟨.builtin, registered_post⟩
  · rcases mem_unlisted hk with rfl | rfl <;> cases he <;> cases ht

/-- Routes that are to be in the schema and of which nothing is listed: one that serves only
`HEAD`, and one that serves every method. -/
theorem operations_unlisted : unlisted.Compiled ∧
    post.withMethods ["HEAD"] = .ok probing ∧ probing.anyMethod = post ∧
    unlisted.Chain [.route probing] ∧ probing.Documented ∧
    unlisted.Chain [.route post] ∧ post.Documented ∧ unlisted.operations = [] :=
  ⟨compiled_unlisted, rfl, rfl, .last (List.mem_cons_self ..), by decide,
    .last (List.mem_cons_of_mem _ (List.mem_singleton_self _)), by decide, rfl⟩

end Site

end Waymark
