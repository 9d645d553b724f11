import Mathlib.Data.String.Basic
import Waymark.Proofs.Tree.Descent
import Waymark.Proofs.Tree.Endings

/-!
# Who may call a route

The gate of a route is looked at twice: when the router asks for its verdict,
and again when it is handed the scope that was derived from this verdict. The
two agree (`Route.Admits.derive`), because a route adds nothing to a scope that
the gate reads; so a route that matched in full is called, and one that matched
in part refuses. Mounts and hosts never match in part, so whatever falls back on
a partial match ends at a route that refuses the method (`Asks.refuses`).

The methods that the refusal names are those of the declaration: in order, each
of them once, and with `GET` there is `HEAD` (`Route.Declared.methods_eq`).
-/

namespace Waymark

/-! ## Methods as they are declared -/

theorem mem_insertSorted {s t : String} {ts : List String} :
    s ∈ insertSorted t ts ↔ s = t ∨ s ∈ ts := by
  induction ts with
  | nil => simp [insertSorted]
  | cons u us ih =>
      unfold insertSorted
      split
      · rename_i heq
        subst heq
        rw [List.mem_cons]
        exact ⟨Or.inr, fun h => h.elim Or.inl id⟩
      · split
        · rw [List.mem_cons]
        · rw [List.mem_cons, ih, List.mem_cons]
          exact or_left_comm

theorem pairwise_insertSorted (s : String) {ts : List String} (h : ts.Pairwise (· < ·)) :
    (insertSorted s ts).Pairwise (· < ·) := by
  induction ts with
  | nil => exact List.pairwise_singleton _ _
  | cons t ts ih =>
      obtain ⟨hfirst, hrest⟩ := List.pairwise_cons.mp h
      unfold insertSorted
      split
      · exact h
      · rename_i hne
        split
        · rename_i hlt
          refine List.pairwise_cons.mpr ⟨?_, h⟩
          intro u hu
          rcases List.mem_cons.mp hu with rfl | hu
          · exact hlt
          · exact hlt.trans (hfirst u hu)
        · rename_i hnot
          refine List.pairwise_cons.mpr ⟨?_, ih hrest⟩
          intro u hu
          rcases mem_insertSorted.mp hu with rfl | hu
          · exact lt_of_le_of_ne (not_lt.mp hnot) (Ne.symm hne)
          · exact hfirst u hu

namespace Route

theorem methodSet_cons_eq_ok_iff {m : String} {ms set : List String} :
    methodSet (m :: ms) = .ok set ↔ isToken m = true ∧ ∃ rest, methodSet ms = .ok rest ∧
      set = insertSorted (Text.upper m) rest := by
  simp only [methodSet]
  cases htoken : isToken m with
  | false => exact iff_of_false nofun (by simp)
  | true =>
      constructor
      · intro h
        obtain ⟨rest, hrest, h⟩ := Except.bind_eq_ok_iff.mp h
        cases h
        exact ⟨rfl, rest, hrest, rfl⟩
      · rintro ⟨_, rest, hrest, rfl⟩
        exact Except.bind_eq_ok_iff.mpr ⟨rest, hrest, rfl⟩

theorem methodSet_sorted {ms set : List String} (h : methodSet ms = .ok set) :
    set.Pairwise (· < ·) := by
  induction ms generalizing set with
  | nil =>
      cases h
      exact .nil
  | cons m ms ih =>
      obtain ⟨_, rest, hrest, rfl⟩ := methodSet_cons_eq_ok_iff.mp h
      exact pairwise_insertSorted _ (ih hrest)

theorem mem_methodSet {ms set : List String} (h : methodSet ms = .ok set) {m : String} :
    m ∈ set ↔ ∃ a ∈ ms, m = Text.upper a := by
  induction ms generalizing set with
  | nil =>
      cases h
      simp
  | cons a ms ih =>
      obtain ⟨_, rest, hrest, rfl⟩ := methodSet_cons_eq_ok_iff.mp h
      rw [mem_insertSorted, ih hrest, List.exists_mem_cons_iff]

/-- The methods that `withMethods` keeps: those that were given in capitals, and `HEAD` beside
`GET`. -/
theorem withMethods_eq_ok {q q' : Route} {ms : List String} (h : q.withMethods ms = .ok q') :
    ∃ set, q'.methods = some set ∧ set.Pairwise (· < ·) ∧
      (∀ a ∈ ms, Text.upper a ∈ set) ∧ ("GET" ∈ set → "HEAD" ∈ set) := by
  obtain ⟨set, hset, h⟩ := Except.bind_eq_ok_iff.mp h
  cases h
  have hsorted := methodSet_sorted hset
  have hmem (a : String) (ha : a ∈ ms) : Text.upper a ∈ set :=
    (mem_methodSet hset).mpr ⟨a, ha, rfl⟩
  refine ⟨_, rfl, ?_⟩
  split
  · refine ⟨pairwise_insertSorted _ hsorted, ?_, ?_⟩
    · intro a ha
      exact mem_insertSorted.mpr (Or.inr (hmem a ha))
    · intro _
      exact mem_insertSorted.mpr (Or.inl rfl)
  · rename_i hget
    refine ⟨hsorted, hmem, ?_⟩
    intro h
    exact absurd (List.contains_iff_mem.mpr h) hget

/-- The route was built by `new` and what may follow it. -/
inductive Declared : Route → Prop
  | new {registry : Registry} {path : String} {endpoint : Endpoint} {protocol : Protocol}
      {q : Route} (hnew : Route.new registry path endpoint protocol = .ok q) : Declared q
  | withMethods {q q' : Route} {ms : List String} (hq : Declared q)
      (hmethods : q.withMethods ms = .ok q') : Declared q'
  | anyMethod {q : Route} (hq : Declared q) : Declared q.anyMethod
  | named {q : Route} {name : String} (hq : Declared q) : Declared (q.named name)
  | listed {q : Route} {listed : Bool} (hq : Declared q) :
      Declared { q with includeInSchema := listed }

theorem Declared.methods_eq {q : Route} (h : q.Declared) :
    ∀ set, q.methods = some set → set.Pairwise (· < ·) ∧ ("GET" ∈ set → "HEAD" ∈ set) := by
  induction h with
  | @new registry path endpoint protocol q hnew =>
      simp only [Route.new] at hnew
      split at hnew
      · cases hnew
      obtain ⟨t, _, hnew⟩ := Except.bind_eq_ok_iff.mp hnew
      cases hnew
      intro set hset
      split at hset
      · cases hset
        exact ⟨by decide, by decide⟩
      · cases hset
  | withMethods _ hmethods _ =>
      intro set hset
      obtain ⟨set', hset', hsorted, _, hhead⟩ := withMethods_eq_ok hmethods
      cases hset.symm.trans hset'
      exact ⟨hsorted, hhead⟩
  | anyMethod _ _ =>
      intro set hset
      cases hset
  | named _ ih => exact ih
  | listed _ ih => exact ih

/-- Whoever may `GET` may ask for the `HEAD`, in whatever case the two are written. -/
theorem allows_head {q q' : Route} {ms : List String} (h : q.withMethods ms = .ok q')
    {get : String} (hget : get ∈ ms) (hsame : Text.sameLetters get "GET" = true) {m : String}
    (hm : Text.sameLetters "HEAD" m = true) :
    ∃ set, q'.methods = some set ∧ ∃ a ∈ set, Text.sameLetters a m = true := by
  obtain ⟨set, hset, _, hupper, hhead⟩ := withMethods_eq_ok h
  have hcapitals : Text.upper get = "GET" := by
    rw [Text.upper_eq_of_sameLetters hsame]
    decide +kernel
  have hmem : "HEAD" ∈ set := hhead (hcapitals ▸ hupper get hget)
  exact ⟨set, hset, "HEAD", hmem, hm⟩

/-! ## The gate -/

/-- The route is ready to serve the scope: it serves the kind, its template reads the path, every
capture can be decoded, and the method is one of its methods. -/
structure Admits (q : Route) (s : Scope) : Prop where
  kind : (q.protocol = .http ∧ s.kind = .request) ∨ (q.protocol = .socket ∧ s.kind = .socket)
  path : ∃ captured, q.template.match? s.path = some (.ok captured)
  method : q.protocol = .http → ∀ set, q.methods = some set →
    ∃ m, s.method = some m ∧ ∃ a ∈ set, Text.sameLetters a m = true

theorem serves_iff {q : Route} {kind : ScopeKind} : q.serves kind = true ↔
    (q.protocol = .http ∧ kind = .request) ∨ (q.protocol = .socket ∧ kind = .socket) := by
  unfold serves
  cases q.protocol <;> cases kind <;> decide

theorem refusesMethod_iff {q : Route} {s : Scope} : q.refusesMethod s = true ↔
    q.protocol = .http ∧ ∃ set, q.methods = some set ∧
      ∀ m, s.method = some m → ∀ a ∈ set, Text.sameLetters a m = false := by
  unfold refusesMethod allows
  cases q.methods with
  | none => simp
  | some set =>
      cases s.method with
      | none => simp
      | some m => simp

theorem refusesMethod_eq_false_iff {q : Route} {s : Scope} : q.refusesMethod s = false ↔
    (q.protocol = .http → ∀ set, q.methods = some set →
      ∃ m, s.method = some m ∧ ∃ a ∈ set, Text.sameLetters a m = true) := by
  unfold refusesMethod allows
  cases q.methods with
  | none => simp
  | some set =>
      cases s.method with
      | none => simp
      | some m => simp

theorem level_eq_full_iff {q : Route} {s : Scope} : (q.verdict s).level = .full ↔ q.Admits s := by
  unfold verdict Template.judge
  constructor
  · intro h
    split at h
    · cases h
    rename_i hserves
    split at h
    · cases h
    · cases h
    · rename_i captured hmatch
      split at h
      · cases h
      · rename_i hmethod
        refine ⟨serves_iff.mp (by simpa using hserves), ⟨captured, hmatch⟩, ?_⟩
        exact refusesMethod_eq_false_iff.mp (by simpa using hmethod)
  · rintro ⟨hkind, ⟨captured, hmatch⟩, hmethod⟩
    rw [serves_iff.mpr hkind, hmatch]
    simp only [refusesMethod_eq_false_iff.mpr hmethod]
    rfl

theorem level_eq_partly {q : Route} {s : Scope} (h : (q.verdict s).level = .partly) :
    q.refusesMethod s = true := by
  unfold verdict Template.judge at h
  split at h
  · cases h
  split at h
  · cases h
  · cases h
  · split at h
    · assumption
    · cases h

/-- The scope that a route derives differs from the one that it judged in nothing that it looks
at. -/
theorem derive_eq (q : Route) (s : Scope) :
    (s.derive (q.verdict s).child).kind = s.kind ∧ (s.derive (q.verdict s).child).path = s.path ∧
      (s.derive (q.verdict s).child).method = s.method ∧
      (s.derive (q.verdict s).child).bound = s.bound := by
  have hpath : (q.verdict s).child.path = none := by
    rcases q.verdict_cases s with ⟨_, es, _, heq⟩ | ⟨_, _, hchild⟩
    · rw [heq, verdictOn]
      split <;> rfl
    · rw [hchild]
  refine ⟨rfl, ?_, rfl, rfl⟩
  unfold Scope.derive
  rw [hpath, Option.getD_none]

theorem Admits.derive {q : Route} {s : Scope} (h : q.Admits s) :
    q.Admits (s.derive (q.verdict s).child) := by
  obtain ⟨_, hpath, _⟩ := q.derive_eq s
  refine ⟨h.kind, ?_, h.method⟩
  rw [hpath]
  exact h.path

/-- A route that admitted a scope calls its endpoint with what it derived from it. -/
theorem callee_of_admits {q : Route} {s : Scope} (h : q.Admits s) :
    (Node.route q).callee? s = some q.endpoint := by
  have hadmits : q.refusesMethod s = false := refusesMethod_eq_false_iff.mpr h.method
  simp only [Node.callee?, hadmits]
  rfl

end Route

theorem Node.route_of_partly {n : Node} {s : Scope} (h : (n.verdict s).level = .partly) :
    ∃ q, n = .route q := by
  cases n with
  | route q => exact ⟨q, rfl⟩
  | mount m =>
      simp only [Node.verdict, Mount.verdict, Template.judge] at h
      split at h
      · cases h
      · split at h <;> cases h
  | host g =>
      simp only [Node.verdict, HostGate.verdict, Template.judge] at h
      split at h
      · cases h
      · split at h <;> cases h
  | lifespan l =>
      simp only [Node.verdict, Lifespan.verdict] at h
      split at h <;> cases h

/-! ## Refusing a method -/

namespace Route

/-- What a route answers to a method that is none of its methods. -/
def refusal (methods : List String) : Response where
  status := 405
  headers := [("content-type", "text/plain; charset=utf-8"), ("allow", Text.joined ", " methods)]
  body := "Method Not Allowed"

theorem refuse_of_bound {q : Route} {s : Scope} (hbound : s.bound = true) : q.refuse s =
    (do Action.logAll [Dispatch.refused]
        throw (.methodNotAllowed (s.method.getD "") s.path)) := by
  unfold refuse
  rw [hbound]
  rfl

theorem refuse_of_methods {q : Route} {s : Scope} (hbound : s.bound = false) {set : List String}
    (hset : q.methods = some set) : q.refuse s =
    (do Action.logAll [Dispatch.refused]; (refusal set).send) := by
  have hheaders : (Response.text 405 "Method Not Allowed").setHeader "allow"
      (Text.joined ", " set) = refusal set := by
    have hother : Text.sameLetters "content-type" "allow" = false := by decide +kernel
    simp [Response.setHeader, Response.text, refusal, hother]
  unfold refuse
  rw [hbound, hset, ← hheaders]
  rfl

end Route

/-- The channel takes two more messages. -/
def Exchange.Roomy (x : Exchange) : Prop := ∀ k, x.room = some k → 2 ≤ k

theorem Response.send_eq {x : Exchange} (h : x.Roomy) (r : Response) :
    ∃ y, r.send x = (.ok (), y) ∧ y.sent = x.sent ++ r.messages := by
  obtain ⟨inbound, sent, room, states, journal, events⟩ := x
  cases room with
  | none =>
      refine ⟨_, rfl, ?_⟩
      simp [messages]
  | some k =>
      have hk : 2 ≤ k := h k rfl
      obtain ⟨k, rfl⟩ := Nat.exists_eq_add_of_le' hk
      refine ⟨_, rfl, ?_⟩
      simp [messages]

namespace Router

/-- Dispatching the scope calls no endpoint: it sends the refusal with the methods, or fails for
the path with nothing sent if the scope is bound. -/
structure Refuses (r : Router) (s : Scope) (methods : List String) (path : String) : Prop where
  dispatch_eq : ∃ events, ∀ b, r.dispatch b s = (do
    Action.logAll events
    if s.bound then throw (.methodNotAllowed (s.method.getD "") path)
    else (Route.refusal methods).send)
  answers : s.bound = false → ∀ b x, x.Roomy → ∃ y, r.dispatch b s x = (.ok (), y) ∧
    y.sent = x.sent ++ [
      .responseStart 405
        [("content-type", "text/plain; charset=utf-8"), ("allow", Text.joined ", " methods)],
      .responseBody "Method Not Allowed"]
  fails : s.bound = true → ∀ b x, ∃ y,
    r.dispatch b s x = (.error (.methodNotAllowed (s.method.getD "") path), y) ∧ y.sent = x.sent

theorem Refuses.of_dispatch {r : Router} {s : Scope} {methods : List String} {path : String}
    (h : ∃ events, ∀ b, r.dispatch b s = (do
      Action.logAll events
      if s.bound then throw (.methodNotAllowed (s.method.getD "") path)
      else (Route.refusal methods).send)) : r.Refuses s methods path := by
  refine ⟨h, ?_, ?_⟩
  · intro hbound b x hroomy
    obtain ⟨events, hevents⟩ := h
    have hroomy' : ({ x with events := x.events ++ events } : Exchange).Roomy := hroomy
    obtain ⟨y, hy, hsent⟩ := Response.send_eq hroomy' (Route.refusal methods)
    refine ⟨y, ?_, hsent⟩
    rw [hevents, hbound]
    exact hy
  · intro hbound b x
    obtain ⟨events, hevents⟩ := h
    refine ⟨{ x with events := x.events ++ events }, ?_, rfl⟩
    rw [hevents, hbound]
    rfl

variable {r : Router} {s t : Scope} {n : Node}

/-! ## The gate on the way down -/

theorem Hands.level_full {trail : List (Node × Scope)} {e : Endpoint} {s' : Scope}
    (h : r.Hands s trail e s') : ∀ p ∈ trail, (p.1.verdict p.2).level = .full := by
  intro p hp
  rcases h.inv with ⟨n, hpicks, hcallee, rfl, rfl⟩ | ⟨_, _, _, _, rfl, _⟩
  · obtain rfl := List.mem_singleton.mp hp
    rw [Node.verdict_mark]
    have hmatched := hpicks.matched.2
    unfold Verdict.matched at hmatched
    cases hlevel : (n.verdict s).level with
    | none =>
        rw [hlevel] at hmatched
        cases hmatched
    | full => rfl
    | partly =>
        obtain ⟨q, rfl⟩ := Node.route_of_partly hlevel
        have hrefuses : q.refusesMethod ((r.mark s).derive (q.verdict s).child) = true :=
          Route.level_eq_partly (s := s) hlevel
        simp only [Node.callee?, Node.verdict, hrefuses] at hcallee
        cases hcallee
  · cases hp

theorem Calls.level_full {trail : List (Node × Scope)} {e : Endpoint} {s' : Scope}
    (h : r.Calls s trail e s') : ∀ p ∈ trail, (p.1.verdict p.2).level = .full := by
  induction h with
  | here hhands => exact hhands.level_full
  | onward hhands _ _ ih =>
      intro p hp
      rcases List.mem_append.mp hp with hp | hp
      · exact hhands.level_full p hp
      · exact ih p hp

/-- What the gate of a route looks at, besides the path, is in every scope as it came in. -/
theorem Asks.keeps (h : r.Asks s n t) :
    t.kind = s.kind ∧ t.method = s.method ∧ t.bound = s.bound := by
  induction h with
  | here _ => exact ⟨rfl, rfl, rfl⟩
  | onward hhands _ _ ih =>
      obtain ⟨hkind, hmethod, hbound⟩ := ih
      rcases hhands.inv with ⟨_, _, _, _, rfl⟩ | ⟨_, _, _, _, _, rfl⟩
      · exact ⟨hkind, hmethod, hbound⟩
      · exact ⟨hkind, hmethod, hbound⟩

theorem Asks.contains (h : r.Asks s n t) : r.Contains n := by
  induction h with
  | here hpicks => exact .here hpicks.matched.1
  | onward hhands htarget _ ih => exact hhands.contains htarget ih

theorem Asks.called {q : Route} (h : r.Asks s (.route q) t)
    (hfull : (q.verdict t).level = .full) : q.Admits (t.derive (q.verdict t).child) ∧
      ∃ events, ∀ b, r.dispatch b s =
        (do Action.logAll events; q.endpoint.call b (t.derive (q.verdict t).child)) := by
  have hadmits := (Route.level_eq_full_iff.mp hfull).derive
  obtain ⟨events, hevents⟩ := h.dispatch_eq
  refine ⟨hadmits, events, ?_⟩
  intro b
  rw [hevents, Node.verdict, Node.handle_of_callee (Route.callee_of_admits hadmits)]

/-- A dispatch that falls back on a partial match ends in the refusal of a route. -/
theorem Asks.refuses {q : Route} (h : r.Asks s (.route q) t)
    (hpartly : (q.verdict t).level = .partly) : ∃ set, q.methods = some set ∧
      (∀ m, s.method = some m → ∀ a ∈ set, Text.sameLetters a m = false) ∧
      r.Refuses s set t.path := by
  have hrefuses := Route.level_eq_partly hpartly
  obtain ⟨_, set, hset, hmethods⟩ := Route.refusesMethod_iff.mp hrefuses
  obtain ⟨hkind, hmethod, hbound⟩ := h.keeps
  refine ⟨set, hset, hmethod ▸ hmethods, .of_dispatch ?_⟩
  obtain ⟨events, hevents⟩ := h.dispatch_eq
  obtain ⟨_, hpath', hmethod', hbound'⟩ := q.derive_eq t
  have hrefuses' : q.refusesMethod (t.derive (q.verdict t).child) = true := hrefuses
  refine ⟨events ++ [Dispatch.refused], ?_⟩
  intro b
  rw [hevents, Node.handle, Node.verdict, Route.handle_of_refuses hrefuses',
    ← Action.logAll_logAll]
  cases hcase : s.bound with
  | true =>
      rw [Route.refuse_of_bound (hbound'.trans (hbound.trans hcase)), hmethod', hpath', hmethod]
      rfl
  | false =>
      rw [Route.refuse_of_methods (hbound'.trans (hbound.trans hcase)) hset]
      rfl

end Router

namespace Site

def reading : Route := { post with methods := some ["GET", "HEAD"] }

def readings : Router := .ofNodes ⟨[5]⟩ [.route reading]

theorem declared_reading : reading.Declared := by
  obtain ⟨path, fresh, hnew, htemplate⟩ := registered_post
  have hfresh : reading = fresh.named "post" := by
    simp only [Route.new] at hnew
    split at hnew
    · cases hnew
    obtain ⟨t, _, hnew⟩ := Except.bind_eq_ok_iff.mp hnew
    cases hnew
    obtain rfl : t = post.template := htemplate.symm
    rfl
  rw [hfresh]
  exact .named (.new hnew)

theorem declared_of_contains {q : Route} (h : readings.Contains (.route q)) : q.Declared := by
  cases h with
  | here hn =>
      obtain heq := List.mem_singleton.mp hn
      cases heq
      exact declared_reading
  | behind hn he ht _ =>
      obtain rfl := List.mem_singleton.mp hn
      cases he
      cases ht
  | fallback he _ _ => cases he

theorem verdict_reading (s : Scope) (hkind : s.kind = .request) (hpath : s.path = "/posts/a") :
    reading.verdict s = reading.verdictOn s [("slug", .str "a")] := by
  have hreads : Template.Reads reading.template.pieces s.path.toList [("slug", .str "a")] := by
    rw [hpath]
    exact ⟨["a".toList], by decide, rfl⟩
  have hserves : reading.serves s.kind = true := by
    rw [hkind]
    rfl
  exact Route.verdict_of_reads hserves hreads

theorem picks_reading {s : Scope} (h : (reading.verdict s).level ≠ .none) :
    readings.Picks s (.route reading) := by
  refine Router.picks_iff.mpr ?_
  cases hlevel : (reading.verdict s).level with
  | none => exact absurd hlevel h
  | full => exact Or.inl ⟨[], [], rfl, hlevel, by simp⟩
  | partly =>
      refine Or.inr ⟨?_, [], [], rfl, hlevel, by simp⟩
      intro k hk
      obtain rfl := List.mem_singleton.mp hk
      rw [Node.verdict, hlevel]
      decide

end Site

namespace Router

/-- The two looks at the gate of a route agree, however deep the route stands.

A route that matched in full calls its endpoint, with a scope that it admits: so it never refuses
the method. A node that matched in part is a route, its methods are in order, and it refuses. The
nodes by which an endpoint is called were all asked and matched in full, and bindings that agree
on these calls give one and the same run, so there are no others. Where `GET` was declared, in
whatever case, `HEAD` is among the methods. -/
theorem gates_agree (r : Router) (s : Scope)
    (hdeclared : ∀ q, r.Contains (.route q) → q.Declared) :
    (∀ q t, r.Asks s (.route q) t → (q.verdict t).level = .full →
      q.Admits (t.derive (q.verdict t).child) ∧
      (q.verdict (t.derive (q.verdict t).child)).level = .full ∧
      ∃ events, ∀ b, r.dispatch b s =
        (do Action.logAll events; q.endpoint.call b (t.derive (q.verdict t).child))) ∧
    (∀ n t, r.Asks s n t → (n.verdict t).level = .partly →
      ∃ q set, n = .route q ∧ q.methods = some set ∧ set.Pairwise (· < ·) ∧
      (∀ m, s.method = some m → ∀ a ∈ set, Text.sameLetters a m = false) ∧
      r.Refuses s set t.path) ∧
    (∀ trail e s', r.Calls s trail e s' →
      ∀ p ∈ trail, r.Asks s p.1 p.2 ∧ (p.1.verdict p.2).level = .full) ∧
    (∀ b b' : Bindings, b.hook = b'.hook → b.poolOpen = b'.poolOpen →
      (∀ trail e s', r.Calls s trail e s' → b.AgreeAt b' e s') →
      r.dispatch b s = r.dispatch b' s) ∧
    (∀ q, r.Contains (.route q) → ∀ set, q.methods = some set → "GET" ∈ set → "HEAD" ∈ set) ∧
    ∀ (q q' : Route) (ms : List String), q.withMethods ms = .ok q' →
      (∃ get ∈ ms, Text.sameLetters get "GET" = true) →
      ∀ m, Text.sameLetters "HEAD" m = true →
      ∃ set, q'.methods = some set ∧ ∃ a ∈ set, Text.sameLetters a m = true := by
  refine ⟨?_, ?_, ?_, ?_, ?_, ?_⟩
  · intro q t hasks hfull
    obtain ⟨hadmits, hdispatch⟩ := hasks.called hfull
    exact ⟨hadmits, Route.level_eq_full_iff.mpr hadmits, hdispatch⟩
  · intro n t hasks hpartly
    obtain ⟨q, rfl⟩ := Node.route_of_partly hpartly
    obtain ⟨set, hset, hmethods, hrefuses⟩ := hasks.refuses hpartly
    have hsorted := ((hdeclared q hasks.contains).methods_eq set hset).1
    exact ⟨q, set, rfl, hset, hsorted, hmethods, hrefuses⟩
  · intro trail e s' hcalls p hp
    exact ⟨hcalls.asks p hp, hcalls.level_full p hp⟩
  · intro b b' hhook hpool hagree
    exact dispatch_congr hhook hpool r s hagree
  · intro q hq set hset
    exact ((hdeclared q hq).methods_eq set hset).2
  · rintro q q' ms h ⟨get, hget, hsame⟩ m hm
    exact Route.allows_head h hget hsame hm

end Router

namespace Site

/-- Readers get the page, and whoever posts is told to read. -/
theorem gates_agree_site :
    (∃ events t, ∀ b, readings.dispatch b (.request "GET" "/posts/a") =
      (do Action.logAll events; page.call b t)) ∧
    ∀ b, ∃ y, readings.dispatch b (.request "POST" "/posts/a") (.new [] none) = (.ok (), y) ∧
      y.sent = [
        .responseStart 405
          [("content-type", "text/plain; charset=utf-8"), ("allow", "GET, HEAD")],
        .responseBody "Method Not Allowed"] := by
  constructor
  · have hfull : (reading.verdict (.request "GET" "/posts/a")).level = .full := by
      rw [verdict_reading _ rfl rfl]
      decide +kernel
    have hgates := (Router.gates_agree readings (.request "GET" "/posts/a")
      fun _ => declared_of_contains).1
    have hlevel : (reading.verdict (readings.mark (.request "GET" "/posts/a"))).level = .full :=
      hfull
    obtain ⟨_, _, events, hevents⟩ :=
      hgates _ _ (.here (picks_reading (by rw [hfull]; decide))) hlevel
    exact ⟨events, _, hevents⟩
  · have hpartly : (reading.verdict (.request "POST" "/posts/a")).level = .partly := by
      rw [verdict_reading _ rfl rfl]
      decide +kernel
    have hgates := (Router.gates_agree readings (.request "POST" "/posts/a")
      fun _ => declared_of_contains).2.1
    have hlevel : (reading.verdict (readings.mark (.request "POST" "/posts/a"))).level = .partly :=
      hpartly
    obtain ⟨q, set, hq, hset, _, _, hrefuses⟩ :=
      hgates _ _ (.here (picks_reading (by rw [hpartly]; decide))) hlevel
    cases hq
    cases hset
    have hallow : Text.joined ", " ["GET", "HEAD"] = "GET, HEAD" := by decide +kernel
    intro b
    rw [← hallow]
    exact hrefuses.answers rfl b (.new [] none) (by nofun)

end Site

end Waymark
