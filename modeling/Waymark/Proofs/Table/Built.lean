import Waymark.Proofs.Table.Description
import Waymark.Proofs.Table.Steps

/-!
# The tree of a table

A table is built exactly if all its entries are proper, and then the tree is
the one that it describes and documents what it says (`RouteTable.build_iff`).

There is one lemma for each kind of node: when its registration succeeds and
which node it gives (`makes_pathRoute`, `makes_socketRoute`, `makes_mount`,
`makes_host`). `makes_entry` puts them together by the shape of an entry, and
`makes_node` and `makes_nodes` are the recursion over the table. The schema
takes the prefix of a mount from its compiled template;
`Mount.prefixFormat_of_compile` says that this is the text of the entry with the
kinds erased, and from that on what a node documents follows from what it
depicts (`Depicts.operations_eq`).
-/

namespace Waymark

/-! ## Registration -/

namespace Route

theorem exists_new_iff {path : String} {endpoint : Endpoint} {protocol : Protocol} :
    (∃ q, Route.new .builtin path endpoint protocol = .ok q) ↔
      startsWithSlash path = true ∧ Template.Valid path := by
  simp only [new_eq_ok_iff, ← Template.exists_compile_iff]
  constructor
  · rintro ⟨_, hslash, t, ht, _⟩
    exact ⟨hslash, t, ht⟩
  · rintro ⟨hslash, t, ht⟩
    exact ⟨_, hslash, t, ht, rfl⟩

end Route

namespace Mount

theorem exists_new_iff {path : String} {target : Endpoint} :
    (∃ m, Mount.new .builtin path target = .ok m) ↔ (path = "" ∨ startsWithSlash path = true) ∧
      Template.Valid path ∧ "path" ∉ (Template.placeholders path).map Prod.fst := by
  simp only [new_eq_ok_iff, ← Template.exists_compile_prefix_iff]
  constructor
  · rintro ⟨_, hled, t, ht, _⟩
    exact ⟨hled, t, ht⟩
  · rintro ⟨hled, t, ht⟩
    exact ⟨_, hled, t, ht, rfl⟩

/-- The schema's prefix of a mount is that of the entry with the kinds erased. -/
theorem prefixFormat_of_compile {registry : Registry} {m : Mount}
    (h : Template.compile registry (m.path ++ "/\x7bpath:path\x7d") = .ok m.template) :
    m.prefixFormat = Template.erased m.path := by
  have hformat : m.template.format.toList =
      (Template.erased m.path).toList ++ "/\x7bpath\x7d".toList := by
    rw [Template.format_of_compile h, Template.erased_append _ rfl, Template.erased_rest,
      String.toList_append]
  have hsuffix : "/\x7bpath\x7d".toList.isSuffixOf m.template.format.toList = true := by
    rw [hformat, List.isSuffixOf_iff_suffix]
    exact List.suffix_append _ _
  unfold prefixFormat
  simp only [hsuffix, if_true]
  rw [hformat, List.length_append, Nat.add_sub_cancel, List.take_left, String.ofList_toList]

end Mount

namespace HostGate

theorem exists_new_iff {host : String} {target : Endpoint} :
    (∃ g, HostGate.new .builtin host target = .ok g) ↔ Template.Valid host := by
  simp only [new_eq_ok_iff, ← Template.exists_compile_iff]
  constructor
  · rintro ⟨_, t, ht, _⟩
    exact ⟨t, ht⟩
  · rintro ⟨t, ht⟩
    exact ⟨_, t, ht, rfl⟩

end HostGate

/-! ## Building -/

namespace Building

variable {e : RouteEntry}

theorem node_eq (place : List Nat) (e : RouteEntry) : node place e = match e.shape with
    | .error error => throw ⟨[error.message]⟩
    | .ok (.path path) => do return .route (← pathRoute ⟨place⟩ e path)
    | .ok (.socket path) => do return .route (← socketRoute ⟨place⟩ e path)
    | .ok (.mount path) => do
      let target ← nested ⟨place⟩ (← nodes place 0 e.routes)
      let m ← register ("Invalid mount " ++ path) (Mount.new .builtin path target)
      return .mount { m with name := e.name }
    | .ok (.host host) => do
      let target ← nested ⟨place⟩ (← nodes place 0 e.routes)
      let g ← register ("Invalid host " ++ host) (HostGate.new .builtin host target)
      return .host { g with name := e.name } := by
  cases e
  rfl

theorem makes_pathRoute (handle : Handle) {p : String} (hp : e.path = some p) :
    (pathRoute handle e p).Makes ((startsWithSlash p = true ∧ Template.Valid p) ∧
      ∀ ms, e.methods = some ms → ∀ m ∈ ms, isToken m = true) fun q => e.Depicts (.route q) := by
  have hnew := makes_register ("Invalid route " ++ p)
    (Route.new .builtin p ⟨e.name.getD Echo.handlerName, handle, .handler⟩ .http)
  refine (hnew.imp Route.exists_new_iff fun _ => id).bind fun q hq => ?_
  obtain ⟨_, t, ht, rfl⟩ := Route.new_eq_ok_iff.mp hq
  have hroute := RouteEntry.Depicts.path handle hp ht
  unfold RouteEntry.allowedMethods at hroute
  cases hmethods : e.methods with
  | none =>
      rw [hmethods] at hroute
      refine Makes.imp (makes_pure hroute) ?_ fun _ h => h
      simp
  | some ms =>
      rw [hmethods] at hroute
      dsimp only
      cases hresult : Route.withMethods _ ms with
      | ok r =>
          obtain ⟨htokens, rfl⟩ := Route.withMethods_eq_ok_iff.mp hresult
          refine Makes.imp (makes_pure hroute) ?_ fun _ h => h
          simpa using htokens
      | error error =>
          refine Makes.imp (makes_throw _) (iff_of_false id fun htokens => ?_) fun _ h => h
          rw [Route.withMethods_eq_ok_iff.mpr ⟨htokens ms rfl, rfl⟩] at hresult
          cases hresult

theorem makes_socketRoute (handle : Handle) {p : String} (hp : e.socket = some p) :
    (socketRoute handle e p).Makes (startsWithSlash p = true ∧ Template.Valid p)
      fun q => e.Depicts (.route q) := by
  refine (makes_register _ _).imp Route.exists_new_iff fun q hq => ?_
  obtain ⟨_, t, ht, rfl⟩ := Route.new_eq_ok_iff.mp hq
  exact .socket handle hp ht

theorem makes_mount (handle : Handle) {p : String} {ns : List Node} (hp : e.mount = some p)
    (hns : List.Forall₂ RouteEntry.Depicts e.routes ns) : (do
      let m ← register ("Invalid mount " ++ p)
        (Mount.new .builtin p (.ofRouter handle (.ofNodes handle ns)))
      return .mount { m with name := e.name } : Building Node).Makes
      (EntryKind.mount p).Valid e.Depicts := by
  have hnew := makes_register ("Invalid mount " ++ p)
    (Mount.new .builtin p (.ofRouter handle (.ofNodes handle ns)))
  refine (hnew.bind fun m hm => ?_).imp
    ((and_iff_left trivial).trans Mount.exists_new_iff) fun _ h => h
  obtain ⟨_, t, ht, rfl⟩ := Mount.new_eq_ok_iff.mp hm
  exact makes_pure (.mount handle hp ht hns)

theorem makes_host (handle : Handle) {h : String} {ns : List Node} (hp : e.host = some h)
    (hns : List.Forall₂ RouteEntry.Depicts e.routes ns) : (do
      let g ← register ("Invalid host " ++ h)
        (HostGate.new .builtin h (.ofRouter handle (.ofNodes handle ns)))
      return .host { g with name := e.name } : Building Node).Makes
      (EntryKind.host h).Valid e.Depicts := by
  have hnew := makes_register ("Invalid host " ++ h)
    (HostGate.new .builtin h (.ofRouter handle (.ofNodes handle ns)))
  refine (hnew.bind fun g hg => ?_).imp
    ((and_iff_left trivial).trans HostGate.exists_new_iff) fun _ h => h
  obtain ⟨t, ht, rfl⟩ := HostGate.new_eq_ok_iff.mp hg
  exact makes_pure (.host handle hp ht hns)

/-- The entries below an entry are made exactly if they are proper. -/
abbrev MakesBelow (place : List Nat) (e : RouteEntry) : Prop :=
  (nodes place 0 e.routes).Makes (∀ f : RouteEntry, f.Within e.routes → f.Proper)
    (List.Forall₂ RouteEntry.Depicts e.routes)

theorem makes_over {place : List Nat} (hbelow : MakesBelow place e) {P : Prop}
    {finish : Endpoint → Building Node} (hfinish : ∀ ns,
      List.Forall₂ RouteEntry.Depicts e.routes ns →
        (finish (.ofRouter ⟨place⟩ (.ofNodes ⟨place⟩ ns))).Makes P e.Depicts) :
    (do finish (← nested ⟨place⟩ (← nodes place 0 e.routes))).Makes
      ((∀ f : RouteEntry, f.Within e.routes → f.Proper) ∧ P) e.Depicts := by
  refine hbelow.bind fun ns hns => ?_
  refine (((makes_note built).bind fun _ _ => makes_pure rfl).bind fun target htarget => ?_).imp
    ((and_congr_left' (and_iff_left trivial)).trans (and_iff_right trivial)) fun _ h => h
  rw [← htarget]
  exact hfinish ns hns

/-- An entry is made exactly if it is proper and the entries below it are. -/
theorem makes_entry {place : List Nat} (hbelow : MakesBelow place e) : (node place e).Makes
    (e.Proper ∧ ∀ f : RouteEntry, f.Within e.routes → f.Proper) e.Depicts := by
  rw [node_eq]
  cases hshape : e.shape with
  | error error =>
      refine (makes_throw _).imp (iff_of_false id fun h => ?_) fun _ h => h
      obtain ⟨kind, hkind⟩ := h.1.exists_shape
      cases hshape.symm.trans hkind
  | ok kind =>
      obtain ⟨hkind, hroutes, hmethods⟩ := RouteEntry.shape_eq_ok_iff.mp hshape
      have hset := RouteEntry.kind?_eq_some_iff.mp hkind
      -- a leaf has no entries below it, and only paths have methods
      have hleaf : kind.isNesting = false → e.routes = [] := fun h =>
        not_not.mp fun hne => Bool.false_ne_true (h.symm.trans (hroutes hne))
      have hfree : kind.isPath = false → e.methods = none := fun h =>
        Option.not_isSome_iff_eq_none.mp fun hsome =>
          Bool.false_ne_true (h.symm.trans (hmethods hsome))
      rw [RouteEntry.proper_iff hshape]
      cases kind with
      | path p =>
          have hp : e.path = some p := congrArg (·.1) hset
          refine ((makes_pathRoute ⟨place⟩ hp).bind fun q hq => makes_pure hq).imp ?_ fun _ h => h
          simp [hleaf rfl, RouteEntry.not_within_nil, EntryKind.Valid]
      | socket p =>
          have hp : e.socket = some p := congrArg (·.2.1) hset
          refine ((makes_socketRoute ⟨place⟩ hp).bind fun q hq => makes_pure hq).imp ?_ fun _ h => h
          simp [hleaf rfl, hfree rfl, RouteEntry.not_within_nil, EntryKind.Valid]
      | mount p =>
          have hp : e.mount = some p := congrArg (·.2.2.1) hset
          refine (makes_over hbelow fun ns hns => makes_mount ⟨place⟩ hp hns).imp ?_ fun _ h => h
          simp [hfree rfl, and_comm]
      | host h =>
          have hp : e.host = some h := congrArg (·.2.2.2) hset
          refine (makes_over hbelow fun ns hns => makes_host ⟨place⟩ hp hns).imp ?_ fun _ h => h
          simp [hfree rfl, and_comm]

mutual

theorem makes_node : (e : RouteEntry) → (place : List Nat) → (node place e).Makes
    (e.Proper ∧ ∀ f : RouteEntry, f.Within e.routes → f.Proper) e.Depicts
  | ⟨_, _, _, _, _, _, _, routes⟩, place => makes_entry (makes_nodes routes place 0)

theorem makes_nodes : (es : List RouteEntry) → (place : List Nat) → (index : Nat) →
    (nodes place index es).Makes (∀ f : RouteEntry, f.Within es → f.Proper)
      (List.Forall₂ RouteEntry.Depicts es)
  | [], place, index => by
      rw [nodes]
      refine (makes_pure .nil).imp ?_ fun _ h => h
      simp [RouteEntry.not_within_nil]
  | e :: es, place, index => by
      rw [nodes]
      refine ((makes_node e (place ++ [index])).bind fun n hn =>
        (makes_nodes es place (index + 1)).bind fun ns hns => makes_pure (.cons hn hns)).imp
        ?_ fun _ h => h
      simp only [RouteEntry.within_cons_iff, or_imp, forall_and, forall_eq, and_true]

end

end Building

/-! ## The schema -/

namespace RouteEntry

theorem documented_of_kind {e : RouteEntry} {front : String} {kind : EntryKind}
    (h : e.kind? = some kind) : documented front e = match kind with
      | .path p =>
        if e.includeInSchema then (e.allowedMethods.filter (· != "HEAD")).map fun m =>
          ⟨front ++ Template.erased p, m, e.name.getD "echo_handler"⟩
        else []
      | .socket _ => []
      | .mount p => allDocumented (front ++ Template.erased (Text.dropTrailing '/' p)) e.routes
      | .host _ => allDocumented front e.routes := by
  have hset := kind?_eq_some_iff.mp h
  obtain ⟨path, socket, mount, host, name, methods, schema, routes⟩ := e
  cases kind <;> cases hset <;> rw [documented]

theorem operations_ofRouter (handle : Handle) (ns : List Node) (front : String) :
    (Endpoint.ofRouter handle (.ofNodes handle ns)).operations front =
      Node.allOperations ns front := by
  rw [Endpoint.ofRouter, Endpoint.operations, Router.ofNodes, Router.operationsUnder]

theorem Depicts.operations_of_below {e : RouteEntry} {n : Node} (h : e.Depicts n)
    (htarget : e.targets.length = 1) (hbelow : ∀ ns, List.Forall₂ Depicts e.routes ns →
      ∀ front, Node.allOperations ns front = allDocumented front e.routes) (front : String) :
    n.operations front = documented front e := by
  cases h with
  | @path _ p _ handle hp ht =>
      have hkind : e.kind? = some (.path p) := kind?_of_target htarget hp
      rw [documented_of_kind hkind, Node.operations, Route.operations,
        Template.format_of_compile ht]
      simp
  | @socket _ p _ handle hp ht =>
      have hkind : e.kind? = some (.socket p) := kind?_of_target htarget hp
      rw [documented_of_kind hkind, Node.operations, Route.operations]
      simp
  | @mount _ p t ns handle hp ht hns =>
      have hkind : e.kind? = some (.mount p) := kind?_of_target htarget hp
      have hformat := Mount.prefixFormat_of_compile (m := ⟨Text.dropTrailing '/' p, t,
        .ofRouter handle (.ofNodes handle ns), e.name⟩) ht
      rw [documented_of_kind hkind, Node.operations, Mount.operations, hformat,
        operations_ofRouter, hbelow ns hns]
  | @host _ h _ ns handle hp ht hns =>
      have hkind : e.kind? = some (.host h) := kind?_of_target htarget hp
      rw [documented_of_kind hkind, Node.operations, HostGate.operations, operations_ofRouter,
        hbelow ns hns]

mutual

/-- The node of a proper entry documents what the entry says. -/
theorem Depicts.operations_eq : (e : RouteEntry) → {n : Node} → e.Depicts n → e.Proper →
    (∀ f : RouteEntry, f.Within e.routes → f.Proper) →
    ∀ front, n.operations front = documented front e
  | ⟨_, _, _, _, _, _, _, routes⟩, _, h, hproper, hbelow =>
      h.operations_of_below hproper.target fun _ hns => allOperations_eq routes hns hbelow

theorem allOperations_eq : (es : List RouteEntry) → {ns : List Node} →
    List.Forall₂ Depicts es ns → (∀ f : RouteEntry, f.Within es → f.Proper) →
    ∀ front, Node.allOperations ns front = allDocumented front es
  | [], _, .nil, _, _ => by rw [Node.allOperations, allDocumented]
  | e :: es, _, .cons hn hns, h, front => by
      simp only [within_cons_iff, or_imp, forall_and, forall_eq] at h
      rw [Node.allOperations, allDocumented, Depicts.operations_eq e hn h.1.1 h.1.2,
        allOperations_eq es hns h.2]

end

end RouteEntry

/-! ## Tables -/

namespace RouteTable

/-- A table is built exactly if every entry, at whatever depth, is proper by itself. The tree has
a node for each entry, in the order and below one another as the entries are, of its kind, with
its template and its name, and documents just what the entries say, those of a mount below its
prefix. -/
theorem build_iff (t : RouteTable) :
    ((∃ r, t.build.1 = .ok r) ↔ ∀ e : RouteEntry, e.Within t.routes → e.Proper) ∧
    ∀ r, t.build.1 = .ok r → List.Forall₂ RouteEntry.Depicts t.routes r.nodes ∧
      r.redirectSlashes = t.runtime.redirectSlashes ∧ r.fallback = none ∧
      r.operations = RouteEntry.allDocumented "" t.routes := by
  have hmakes : t.router.Makes (∀ e : RouteEntry, e.Within t.routes → e.Proper) fun r =>
      List.Forall₂ RouteEntry.Depicts t.routes r.nodes ∧
      r.redirectSlashes = t.runtime.redirectSlashes ∧ r.fallback = none := by
    refine ((Building.makes_nodes t.routes root 0).bind fun ns hns =>
      (Building.makes_note Building.built).bind fun _ _ =>
        Building.makes_pure ⟨hns, rfl, rfl⟩).imp ?_ fun _ h => h
    rw [and_true, and_true]
  by_cases hproper : ∀ e : RouteEntry, e.Within t.routes → e.Proper
  · obtain ⟨r, log, hrun, hr⟩ := hmakes.ok hproper []
    have hbuild : t.build.1 = .ok r := congrArg Prod.fst hrun
    refine ⟨iff_of_true ⟨r, hbuild⟩ hproper, fun r' hr' => ?_⟩
    obtain rfl := Except.ok.inj (hbuild.symm.trans hr')
    refine ⟨hr.1, hr.2.1, hr.2.2, ?_⟩
    rw [Router.operations]
    obtain ⟨nodes, redirectSlashes, fallback, lifespan⟩ := r
    rw [Router.operationsUnder, RouteEntry.allOperations_eq t.routes hr.1 hproper]
  · obtain ⟨e, log, hrun⟩ := hmakes.error hproper []
    have hbuild : t.build.1 = .error e := congrArg Prod.fst hrun
    refine ⟨iff_of_false ?_ hproper, fun r hr => ?_⟩
    · rintro ⟨r, hr⟩
      cases hbuild.symm.trans hr
    · cases hbuild.symm.trans hr

def items : RouteTable :=
  ⟨{}, [⟨none, none, some "/shops/{id:int}/", none, some "shop", none, true,
    [⟨some "/items", none, none, none, none, some ["post", "get"], true, []⟩,
      ⟨none, some "/news", none, none, none, none, true, []⟩]⟩]⟩

theorem build_items : ∃ r, items.build.1 = .ok r ∧ r.operations =
    [⟨"/shops/{id}/items", "GET", "echo_handler"⟩,
      ⟨"/shops/{id}/items", "POST", "echo_handler"⟩] := by
  have hbuilt : (match items.build.1 with
    | .ok _ => true
    | .error _ => false) = true := by decide +kernel
  cases hbuild : items.build.1 with
  | error e =>
      rw [hbuild] at hbuilt
      cases hbuilt
  | ok r =>
      exact ⟨r, rfl, ((build_iff items).2 r hbuild).2.2.2.trans (by decide +kernel)⟩

end RouteTable

end Waymark
