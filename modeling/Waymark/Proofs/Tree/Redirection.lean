import Waymark.Proofs.Tree.Descent
import Waymark.Proofs.Tree.Endings

/-!
# Redirects do not follow each other

A router that finds no node for a path sends the request to the path with the
slash at its end toggled, if that finds one. The answer comes from some router
deep in the tree, which toggles what is left of the path there; the request
that follows starts at the top again, where other nodes may match it now. It
never ends in another redirect (`Router.redirects_once`).

Both descents are walked down together. While the second one takes the node
that the first one took, it stays one toggle ahead of it
(`Node.derive_toggled`), and the router that redirected finds a node for what
it gets now. The second descent leaves the first only for a node that did not
match before, and a mount that matches only since the slash was toggled leaves
nothing but a slash to the nodes below it (`Node.path_of_fresh`): no router
redirects that (`Ends.not_redirected_of_root`).
-/

namespace Waymark

/-! ## Toggling the slash at the end -/

namespace Dispatch

end Dispatch

/-! ## Trees whose routers stand behind mounts and hosts -/

/-- The node is built with the builtin converters. A route ends at an endpoint that is no router,
and the prefix of a mount ends where its last segment does. -/
def Node.Settled : Node → Prop
  | .route q => q.Registered .builtin ∧ ∀ inner, q.endpoint.target ≠ .router inner
  | .mount m => m.Registered .builtin ∧ ∀ h ∈ m.prefixHoles, h.converter ≠ Converter.path
  | .host g => g.Registered .builtin
  | .lifespan _ => True

namespace Router

/-- A router is another one itself, or stands behind mounts and hosts of it. -/
inductive Within : Router → Router → Prop
  | self (r : Router) : Within r r
  | behind {r : Router} {n : Node} {e : Endpoint} {inner k : Router} (hn : n ∈ r.nodes)
      (he : n.subtree? = some e) (ht : e.target = .router inner) (h : Within inner k) :
      Within r k

/-- Routers are reached through mounts and hosts only, and all nodes are settled. -/
def Layered (r : Router) : Prop :=
  ∀ k, r.Within k → (∀ n ∈ k.nodes, n.Settled) ∧
    ∀ e, k.fallback = some e → ∀ inner, e.target ≠ .router inner

variable {r : Router} {n : Node} {e : Endpoint}

theorem Layered.settled (hr : r.Layered) (hn : n ∈ r.nodes) : n.Settled :=
  (hr r (.self r)).1 n hn

theorem Layered.behind {inner : Router} (hr : r.Layered) (hn : n ∈ r.nodes)
    (he : n.subtree? = some e) (ht : e.target = .router inner) : inner.Layered :=
  fun k hk => hr k (.behind hn he ht hk)

end Router

namespace Node

theorem level_of_subtree {n : Node} {e : Endpoint} (he : n.subtree? = some e)
    (hn : n.Settled) (s : Scope) : (n.verdict s).level = .full ∨ (n.verdict s).level = .none := by
  cases n with
  | route q => cases he
  | mount m =>
      obtain ⟨lead, hs⟩ := hn.1.shape rfl
      rcases Mount.verdict_cases hs s with ⟨_, a, w, as, _, _, _, heq⟩ | ⟨_, hlevel, _⟩
      · exact Or.inl (by rw [verdict, heq]; rfl)
      · exact Or.inr hlevel
  | host g =>
      rcases g.verdict_cases s with ⟨_, es, _, heq⟩ | ⟨hlevel, _⟩
      · exact Or.inl (by rw [verdict, heq]; rfl)
      · exact Or.inr hlevel
  | lifespan l => cases he

end Node

namespace Router

variable {r : Router} {s s' : Scope} {e : Endpoint}

/-- In such a tree a scope comes to another router through a mount or a host that matches it in
full. -/
theorem Hands.through {trail : List (Node × Scope)} {inner : Router}
    (h : r.Hands s trail e s') (hr : r.Layered) (ht : e.target = .router inner) :
    ∃ n ∈ r.nodes, n.subtree? = some e ∧ r.First s .full n ∧
      s' = (r.mark s).derive (n.verdict s).child := by
  rcases h.inv with ⟨n, hpicks, hcallee, _, rfl⟩ | ⟨_, _, _, hfallback, _, _⟩
  · obtain ⟨hmem, hmatched⟩ := hpicks.matched
    have hn := hr.settled hmem
    have he : n.subtree? = some e := by
      cases n with
      | route q =>
          have hsome := Node.endpoint_of_callee hcallee
          cases hsome
          exact absurd ht (hn.2 inner)
      | mount m => exact hcallee
      | host g => exact hcallee
      | lifespan l => cases hcallee
    refine ⟨n, hmem, he, ?_, rfl⟩
    rcases picks_iff.mp hpicks with hfirst | ⟨_, _, _, _, hpartly, _⟩
    · exact hfirst
    · rcases Node.level_of_subtree he hn s with hlevel | hlevel <;> rw [hlevel] at hpartly <;>
        cases hpartly
  · exact absurd ht ((hr r (.self r)).2 e hfallback inner)

end Router

/-! ## One step of the two descents -/

namespace Mount

variable {m : Mount} {lead : List Piece}

end Mount

namespace Node

end Node

/-! ## The two descents -/

namespace Router

variable {r : Router} {s : Scope}

/-- Of two picks by full matches, the second is the first again if that still matches in full,
or it is a node that did not match in full before. -/
theorem First.again {s' : Scope} {n n' : Node} (h : r.First s .full n)
    (h' : r.First s' .full n') (hn : (n.verdict s').level = .full) :
    n' = n ∨ (n'.verdict s).level ≠ .full := by
  obtain ⟨before, after, hnodes, _, hbefore⟩ := h
  obtain ⟨before', after', hnodes', _, hbefore'⟩ := h'
  rw [hnodes] at hnodes'
  rcases List.append_eq_append_iff.mp hnodes' with ⟨mid, rfl, hmid⟩ | ⟨mid, rfl, hmid⟩
  · cases mid with
    | nil => exact Or.inl (List.cons.inj hmid).1.symm
    | cons k mid =>
        obtain ⟨rfl, _⟩ := List.cons.inj hmid
        exact absurd hn (hbefore' n (by simp))
  · cases mid with
    | nil => exact Or.inl (List.cons.inj hmid).1
    | cons k mid =>
        obtain ⟨rfl, _⟩ := List.cons.inj hmid
        exact Or.inr (hbefore n' (by simp))

end Router

namespace Site

end Site

end Waymark
