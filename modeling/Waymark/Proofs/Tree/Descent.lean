import Waymark.Proofs.Tree.Calls
import Waymark.Proofs.Tree.Registered

/-!
# Descending a tree

Each node that matches derives a scope for what is below it. However deep a
request gets, it stays the request for the same thing: the part of the path
that is used up and the part that is left make up the path it came with, the
URL and the base URL are those it came with, and nothing that the transport
said is touched (`Scope.SameAddress`). A step changes three things only: the
place where the path is cut, the parameters, and the endpoint.

The step lemma is `Node.sameAddress`, with `Mount.verdict_cases` for the one
node that moves the cut. `Calls.keeps` is the run: an induction on the
calls that dispatching makes, which also adds up what the nodes captured.
-/

namespace Waymark

/-! ## What a scope is about -/

/-- The second scope addresses what the first one does. -/
structure Scope.SameAddress (s s' : Scope) : Prop where
  whole : s'.rootPath ++ s'.path = s.rootPath ++ s.path
  root : s'.appRootPath.getD s'.rootPath = s.appRootPath.getD s.rootPath
  kind : s'.kind = s.kind
  method : s'.method = s.method
  scheme : s'.scheme = s.scheme
  headers : s'.headers = s.headers
  query : s'.query = s.query
  server : s'.server = s.server
  requestId : s'.requestId = s.requestId
  bound : s'.bound = s.bound

namespace Scope.SameAddress

variable {s s' s'' : Scope}

theorem refl (s : Scope) : s.SameAddress s := ⟨rfl, rfl, rfl, rfl, rfl, rfl, rfl, rfl, rfl, rfl⟩

theorem trans (h : s.SameAddress s') (h' : s'.SameAddress s'') : s.SameAddress s'' where
  whole := h'.whole.trans h.whole
  root := h'.root.trans h.root
  kind := h'.kind.trans h.kind
  method := h'.method.trans h.method
  scheme := h'.scheme.trans h.scheme
  headers := h'.headers.trans h.headers
  query := h'.query.trans h.query
  server := h'.server.trans h.server
  requestId := h'.requestId.trans h.requestId
  bound := h'.bound.trans h.bound

theorem authority (h : s.SameAddress s') : s'.authority = s.authority := by
  rw [Scope.authority, Scope.authority, Scope.header?, Scope.header?, h.headers, h.server]

theorem url (h : s.SameAddress s') : s'.url = s.url := by
  have hurl (t : Scope) : t.url = t.scheme ++ "://" ++ t.authority ++ (t.rootPath ++ t.path) ++
      (if t.query.isEmpty then "" else "?" ++ t.query) := by
    simp only [Scope.url, String.append_assoc]
  rw [hurl, hurl, h.whole, h.scheme, h.authority, h.query]

theorem baseUrl (h : s.SameAddress s') : s'.baseUrl = s.baseUrl := by
  rw [Scope.baseUrl, Scope.baseUrl, h.root, h.scheme, h.authority]

theorem mark (r : Router) (s : Scope) : s.SameAddress (r.mark s) :=
  ⟨rfl, rfl, rfl, rfl, rfl, rfl, rfl, rfl, rfl, rfl⟩

end Scope.SameAddress

/-! ## One step -/

/-- What a template reads from a subject; nothing if it does not match. -/
def Template.captured (t : Template) (subject : String) : Params :=
  match t.match? subject with
  | some (.ok captured) => captured
  | _ => .empty

/-- What a node captures from a scope; the rest of the path that a mount leaves to the nodes
below it is not among it. -/
def Node.captured : Node → Scope → Params
  | .route r, s => r.template.captured s.path
  | .mount m, s => (m.template.captured s.path).erase Mount.rest
  | .host h, s => h.template.captured s.hostname
  | .lifespan _, _ => .empty

theorem Template.captured_of_reads {t : Template} {subject : String}
    {es : List (String × Value)} (h : Reads t.pieces subject.toList es) :
    t.captured subject = Params.ofList es := by
  have hmatch : t.match? subject = some (.ok (Params.ofList es)) :=
    match?_eq_ok_iff.mpr (by rwa [Params.entries_ofList h.nodup])
  rw [captured, hmatch]

theorem Template.judge_captured {t : Template} {subject : String} {verdict : Params → Verdict}
    (h : (t.judge subject verdict).matched = true) :
    t.judge subject verdict = verdict (t.captured subject) := by
  rw [judge] at h
  rw [judge, captured]
  cases hm : t.match? subject with
  | none =>
      rw [hm] at h
      cases h
  | some r =>
      rw [hm] at h
      cases r with
      | error e => cases h
      | ok ps => rfl

theorem Node.params_derive {n : Node} {s : Scope} (h : (n.verdict s).matched = true) :
    (s.derive (n.verdict s).child).params = s.params.merge (n.captured s) := by
  cases n with
  | route r =>
      simp only [Node.verdict, Route.verdict] at h ⊢
      split at h
      case isTrue => cases h
      rename_i hserves
      rw [if_neg hserves, Template.judge_captured h]
      split <;> rfl
  | mount m =>
      simp only [Node.verdict, Mount.verdict] at h ⊢
      split at h
      case isTrue => cases h
      rename_i hkind
      rw [if_neg hkind, Template.judge_captured h]
      rfl
  | host g =>
      simp only [Node.verdict, HostGate.verdict] at h ⊢
      split at h
      case isTrue => cases h
      rename_i hkind
      rw [if_neg hkind, Template.judge_captured h]
      rfl
  | lifespan l =>
      simp only [Node.verdict, Lifespan.verdict] at h ⊢
      split at h
      case isFalse => cases h
      rename_i hkind
      rw [if_pos hkind]
      rfl

/-- The mount was built with a registry in which `path` is the converter that takes any text of
one line. -/
def Mount.Standard (m : Mount) : Prop :=
  ∃ registry : Registry, registry.get? "path" = some Converter.path ∧ m.Registered registry

theorem Mount.sameAddress {m : Mount} (hm : m.Standard) (s : Scope) :
    s.SameAddress (s.derive (m.verdict s).child) := by
  obtain ⟨registry, hpath, hreg⟩ := hm
  obtain ⟨lead, hs⟩ := hreg.shape hpath
  rcases Mount.verdict_cases hs s with ⟨_, a, w, as, hcut, _, _, heq⟩ | ⟨_, _, hchild⟩
  · rw [heq]
    refine ⟨?_, rfl, rfl, rfl, rfl, rfl, rfl, rfl, rfl, rfl⟩
    change s.rootPath ++ String.ofList a ++ String.ofList ('/' :: w) = s.rootPath ++ s.path
    have hwhole : String.ofList a ++ String.ofList ('/' :: w) = s.path := by
      rw [← String.toList_inj, String.toList_append, String.toList_ofList, String.toList_ofList,
        hcut]
    rw [String.append_assoc, hwhole]
  · rw [hchild]
    exact .refl s

/-- A node derives a scope that addresses what the node was asked about. -/
theorem Node.sameAddress {n : Node} (hm : ∀ m, n = .mount m → m.Standard) (s : Scope) :
    s.SameAddress (s.derive (n.verdict s).child) := by
  cases n with
  | mount m => exact Mount.sameAddress (hm m rfl) s
  | route r =>
      rcases Route.verdict_cases r s with ⟨_, es, _, heq⟩ | ⟨_, _, hchild⟩
      · rw [Node.verdict, heq, Route.verdictOn]
        split <;> exact ⟨rfl, rfl, rfl, rfl, rfl, rfl, rfl, rfl, rfl, rfl⟩
      · rw [Node.verdict, hchild]
        exact .refl s
  | host g =>
      rw [Node.verdict, HostGate.verdict]
      split
      · exact .refl s
      · rcases g.template.judge_cases s.hostname _ with ⟨es, _, heq⟩ | ⟨_, _, hchild⟩
        · rw [heq]
          exact ⟨rfl, rfl, rfl, rfl, rfl, rfl, rfl, rfl, rfl, rfl⟩
        · rw [hchild]
          exact .refl s
  | lifespan l =>
      rw [Node.verdict, Lifespan.verdict]
      split <;> exact .refl s

/-! ## A whole descent -/

namespace Node

def endpoint? : Node → Option Endpoint
  | .route r => some r.endpoint
  | .mount m => some m.target
  | .host h => some h.target
  | .lifespan _ => none

theorem endpoint_of_callee {n : Node} {s : Scope} {e : Endpoint} (h : n.callee? s = some e) :
    n.endpoint? = some e := by
  cases n with
  | route r =>
      simp only [callee?] at h
      split at h
      case isTrue => cases h
      exact h
  | mount m => exact h
  | host g => exact h
  | lifespan l => cases h

end Node

namespace Router

/-- A node stands in the tree of a router: in the router, or in one that a node or the fallback
leads to. -/
inductive Contains : Router → Node → Prop
  | here {r : Router} {n : Node} (hn : n ∈ r.nodes) : Contains r n
  | behind {r : Router} {n : Node} {e : Endpoint} {inner : Router} {m : Node} (hn : n ∈ r.nodes)
      (he : n.endpoint? = some e) (ht : e.target = .router inner) (h : Contains inner m) :
      Contains r m
  | fallback {r : Router} {e : Endpoint} {inner : Router} {m : Node}
      (he : r.fallback = some e) (ht : e.target = .router inner) (h : Contains inner m) :
      Contains r m

theorem Hands.contains {r : Router} {s : Scope} {trail : List (Node × Scope)} {e : Endpoint}
    {s' : Scope} (h : r.Hands s trail e s') {inner : Router} (ht : e.target = .router inner)
    {m : Node} (hm : inner.Contains m) : r.Contains m := by
  cases h with
  | node _ hnode hcallee =>
      exact .behind (List.mem_of_getElem? hnode) (Node.endpoint_of_callee hcallee) ht hm
  | fallback _ _ _ hfallback => exact .fallback hfallback ht hm

def Holds (r : Router) (e : Endpoint) : Prop :=
  (∃ n ∈ r.nodes, n.endpoint? = some e) ∨ r.fallback = some e

/-- The endpoint stands in the tree: the router has it, or one that stands behind it. -/
inductive Leads : Router → Endpoint → Prop
  | here {r : Router} {e : Endpoint} (he : r.Holds e) : Leads r e
  | onward {r : Router} {e e' : Endpoint} {inner : Router} (he : r.Holds e)
      (ht : e.target = .router inner) (h : Leads inner e') : Leads r e'

theorem Hands.holds {r : Router} {s : Scope} {trail : List (Node × Scope)} {e : Endpoint}
    {s' : Scope} (h : r.Hands s trail e s') : r.Holds e := by
  cases h with
  | node _ hnode hcallee =>
      exact Or.inl ⟨_, List.mem_of_getElem? hnode, Node.endpoint_of_callee hcallee⟩
  | fallback _ _ _ hfallback => exact Or.inr hfallback

theorem Calls.leads {r : Router} {s : Scope} {trail : List (Node × Scope)} {e : Endpoint}
    {s' : Scope} (h : r.Calls s trail e s') : r.Leads e := by
  induction h with
  | here hhands => exact .here hhands.holds
  | onward hhands htarget _ ih => exact .onward hhands.holds htarget ih

/-- The parameters with the captures of the nodes of a trail put over them, one after the
other. -/
def overlay (ps : Params) (trail : List (Node × Scope)) : Params :=
  trail.foldl (fun acc p => acc.merge (p.1.captured p.2)) ps

/-- What a router hands over addresses what it got; only a first router is noted, and what the
node captured is put over the parameters. -/
theorem Hands.keeps {r : Router} {s : Scope} {trail : List (Node × Scope)} {e : Endpoint}
    {s' : Scope} (h : r.Hands s trail e s') (hm : ∀ m, r.Contains (.mount m) → m.Standard) :
    s.SameAddress s' ∧ s'.router = (s.router <|> some r) ∧ s'.params = overlay s.params trail := by
  cases h with
  | @node c n _ hchoice hnode hcallee =>
      obtain ⟨k, hk, _, hmatched⟩ := chosen hchoice
      obtain rfl : n = k := Option.some.inj (hnode.symm.trans hk)
      have hstep : (r.mark s).SameAddress ((r.mark s).derive (n.verdict (r.mark s)).child) := by
        refine Node.sameAddress (fun m hmount => hm m ?_) _
        exact .here (hmount ▸ List.mem_of_getElem? hnode)
      exact ⟨(Scope.SameAddress.mark r s).trans hstep, rfl, Node.params_derive hmatched⟩
  | fallback => exact ⟨.mark r s, rfl, rfl⟩

theorem Calls.keeps {r : Router} {s : Scope} {trail : List (Node × Scope)} {e : Endpoint}
    {s' : Scope} (h : r.Calls s trail e s') (hm : ∀ m, r.Contains (.mount m) → m.Standard) :
    s.SameAddress s' ∧ s'.router = (s.router <|> some r) ∧ s'.params = overlay s.params trail := by
  induction h with
  | here hhands => exact hhands.keeps hm
  | @onward r s trail e s' inner later e' s'' hhands htarget _ ih =>
      obtain ⟨haddress, hrouter, hparams⟩ := hhands.keeps hm
      obtain ⟨haddress', hrouter', hparams'⟩ :=
        ih fun m hin => hm m (hhands.contains htarget hin)
      refine ⟨haddress.trans haddress', ?_, ?_⟩
      · -- the outer router is noted already, so the inner one is not
        rw [hrouter', hrouter]
        cases s.router <;> rfl
      · rw [hparams', hparams, overlay, overlay, overlay, List.foldl_append]

end Router

namespace Site

theorem contains_posts {n : Node} (h : posts.Contains n) : n = .route post := by
  cases h with
  | here hn => exact List.mem_singleton.mp hn
  | behind hn he ht _ =>
      obtain rfl := List.mem_singleton.mp hn
      cases he
      cases ht
  | fallback he _ _ => cases he

theorem contains_root {n : Node} (h : root.Contains n) : n = .mount users ∨ n = .route post := by
  cases h with
  | here hn => exact Or.inl (List.mem_singleton.mp hn)
  | behind hn he ht h =>
      obtain rfl := List.mem_singleton.mp hn
      cases he
      cases ht
      exact Or.inr (contains_posts h)
  | fallback he _ _ => cases he

theorem registered_of_contains {n : Node} (h : root.Contains n) : n.Registered .builtin := by
  rcases contains_root h with rfl | rfl
  · exact registered_users
  · exact registered_post

theorem standard_of_contains {m : Mount} (h : root.Contains (.mount m)) : m.Standard :=
  ⟨.builtin, rfl, registered_of_contains h⟩

theorem choice_of_full {r : Router} {n : Node} {s : Scope} {c : Contribution}
    (hnodes : r.nodes = [n]) (hv : n.verdict (r.mark s) = .full c) :
    Dispatch.choose? (r.nodes.map (·.verdict (r.mark s))) = some ⟨0, .full c⟩ := by
  rw [hnodes, List.map_singleton, hv]
  rfl

theorem hands_of_full {r : Router} {n : Node} {s : Scope} {c : Contribution} {e : Endpoint}
    (hnodes : r.nodes = [n]) (hv : n.verdict (r.mark s) = .full c)
    (he : n.callee? ((r.mark s).derive c) = some e) :
    r.Hands s [(n, r.mark s)] e ((r.mark s).derive c) := by
  have hnode : r.nodes[0]? = some n := by
    rw [hnodes]
    rfl
  have hhands := Router.Hands.node (choice_of_full hnodes hv) hnode (e := e)
  rw [hv] at hhands
  exact hhands he

theorem calls_page : ∃ trail s', root.Calls visit trail page s' ∧
    trail.map (·.1) = [.mount users, .route post] ∧ s'.path = "/posts/a" := by
  have hmount := hands_of_full (r := root) (s := visit) rfl (verdict_users rfl rfl) rfl
  have hroute := hands_of_full (r := posts) (s := (root.mark visit).derive (users.contribution
    (root.mark visit) "/users/7".toList "posts/a".toList [("id", .int 7)])) rfl
    (verdict_post rfl rfl) rfl
  exact ⟨_, _, .onward hmount rfl (.here hroute), rfl, rfl⟩

end Site

namespace Router

/-- Descending never changes what a scope addresses. Whatever endpoint dispatching calls, at
whatever depth, it is called with a scope whose root path and path together are those of the
scope that came in, so the URL is the same; so are the base URL and all that the transport said.
Reverse lookup starts from the first router, and the parameters are those that came in with
what each node on the way captured put over them, the outermost first. The last part says that
the calls meant are all there are: bindings that agree on them give one and the same run. -/
theorem dispatch_keeps_address (r : Router) (s : Scope)
    (hm : ∀ m, r.Contains (.mount m) → m.Standard) :
    (∀ trail e s', r.Calls s trail e s' →
      (∃ events, ∀ b, r.dispatch b s = (do Action.logAll events; e.call b s')) ∧
      s'.rootPath ++ s'.path = s.rootPath ++ s.path ∧ s'.url = s.url ∧ s'.baseUrl = s.baseUrl ∧
      s'.kind = s.kind ∧ s'.method = s.method ∧ s'.scheme = s.scheme ∧ s'.headers = s.headers ∧
      s'.query = s.query ∧ s'.server = s.server ∧ s'.requestId = s.requestId ∧
      s'.bound = s.bound ∧ s'.router = (s.router <|> some r) ∧
      s'.params = overlay s.params trail) ∧
    ∀ b b' : Bindings, b.hook = b'.hook → b.poolOpen = b'.poolOpen →
      (∀ trail e s', r.Calls s trail e s' → b.AgreeAt b' e s') →
      r.dispatch b s = r.dispatch b' s := by
  refine ⟨fun trail e s' h => ?_, fun b b' hhook hpool hagree => ?_⟩
  · obtain ⟨haddress, hrouter, hparams⟩ := h.keeps hm
    exact ⟨h.dispatch_eq, haddress.whole, haddress.url, haddress.baseUrl, haddress.kind,
      haddress.method, haddress.scheme, haddress.headers, haddress.query, haddress.server,
      haddress.requestId, haddress.bound, hrouter, hparams⟩
  · exact dispatch_congr hhook hpool r s hagree

end Router

namespace Site

/-- The page of a post of a user is asked for by the URL that came in, with all parameters. -/
theorem dispatch_keeps_address_site : ∃ trail s', root.Calls visit trail page s' ∧
    trail.map (·.1) = [.mount users, .route post] ∧ s'.path = "/posts/a" ∧
    s'.url = visit.url ∧ s'.params = Router.overlay .empty trail := by
  obtain ⟨trail, s', hcalls, htrail, hpath⟩ := calls_page
  have h := (Router.dispatch_keeps_address root visit fun _ => standard_of_contains).1 _ _ _ hcalls
  exact ⟨trail, s', hcalls, htrail, hpath, h.2.2.1, h.2.2.2.2.2.2.2.2.2.2.2.2.2⟩

end Site

end Waymark
