import Mathlib.Data.List.Dedup
import Mathlib.Data.List.Sort
import Waymark.Proofs.Template.Validity
import Waymark.Proofs.Tree.Gating
import Waymark.Table.Building
import Waymark.Tree.Schema

/-!
# What a table describes

What is demanded of an entry (`RouteEntry.Proper`), which node it stands for
(`RouteEntry.Depicts`) and which operations it documents
(`RouteEntry.documented`) are said here by the fields of the entry, without the
tree that is built from it.

The checks that building makes are spread: the shape of an entry, the texts of
its template, the tokens of its methods. `RouteEntry.shape_eq_ok_iff` and
`RouteEntry.proper_iff` put them together by what the entry describes.
-/

namespace Waymark

/-! ## Methods -/

def sortedSet (ms : List String) : List String := ms.dedup.insertionSort (· ≤ ·)

theorem mem_sortedSet {m : String} {ms : List String} : m ∈ sortedSet ms ↔ m ∈ ms := by
  rw [sortedSet, List.mem_insertionSort, List.mem_dedup]

theorem pairwise_sortedSet (ms : List String) : (sortedSet ms).Pairwise (· < ·) := by
  have hle : (sortedSet ms).Pairwise (· ≤ ·) := List.pairwise_insertionSort _ _
  have hne : (sortedSet ms).Nodup :=
    (List.perm_insertionSort _ _).nodup_iff.mpr (List.nodup_dedup ms)
  exact (hle.and hne).imp fun h => lt_of_le_of_ne h.1 h.2

namespace Route

theorem exists_methodSet_iff {ms : List String} :
    (∃ set, methodSet ms = .ok set) ↔ ∀ m ∈ ms, isToken m = true := by
  induction ms with
  | nil => simp [methodSet]
  | cons m ms ih =>
      rw [List.forall_mem_cons, ← ih]
      constructor
      · rintro ⟨set, hset⟩
        obtain ⟨htoken, rest, hrest, _⟩ := methodSet_cons_eq_ok_iff.mp hset
        exact ⟨htoken, rest, hrest⟩
      · rintro ⟨htoken, rest, hrest⟩
        exact ⟨_, methodSet_cons_eq_ok_iff.mpr ⟨htoken, rest, hrest, rfl⟩⟩

/-- The methods of a route that was given some: in capitals, and `HEAD` beside `GET`. -/
def allowed (ms : List String) : List String :=
  let given := ms.map Text.upper
  sortedSet (if "GET" ∈ given then "HEAD" :: given else given)

theorem withMethods_eq {q : Route} {ms set : List String} (h : methodSet ms = .ok set) :
    q.withMethods ms = .ok { q with methods := some (allowed ms) } := by
  have hmem (m : String) : m ∈ set ↔ m ∈ ms.map Text.upper := by
    rw [mem_methodSet h, List.mem_map]
    simp only [eq_comm]
  have hget : (set.contains "GET" = true) ↔ "GET" ∈ ms.map Text.upper := by
    rw [List.contains_iff_mem, hmem]
  have hsorted := methodSet_sorted h
  have hallowed : (if set.contains "GET" then insertSorted "HEAD" set else set) = allowed ms := by
    unfold allowed
    by_cases hin : "GET" ∈ ms.map Text.upper
    · rw [if_pos (hget.mpr hin)]
      simp only [if_pos hin]
      refine (pairwise_insertSorted _ hsorted).eq_of_mem_iff (pairwise_sortedSet _) fun m => ?_
      rw [mem_insertSorted, mem_sortedSet, List.mem_cons, hmem]
    · rw [if_neg (fun hc => hin (hget.mp hc))]
      simp only [if_neg hin]
      refine hsorted.eq_of_mem_iff (pairwise_sortedSet _) fun m => ?_
      rw [mem_sortedSet, hmem]
  rw [withMethods, h, ← hallowed]
  rfl

theorem withMethods_eq_ok_iff {q r : Route} {ms : List String} : q.withMethods ms = .ok r ↔
    (∀ m ∈ ms, isToken m = true) ∧ r = { q with methods := some (allowed ms) } := by
  rw [← exists_methodSet_iff]
  constructor
  · intro h
    obtain ⟨set, hset, _⟩ := Except.bind_eq_ok_iff.mp h
    rw [withMethods_eq hset] at h
    exact ⟨⟨set, hset⟩, (Except.ok.inj h).symm⟩
  · rintro ⟨⟨set, hset⟩, rfl⟩
    exact withMethods_eq hset

end Route

/-! ## Entries -/

namespace EntryKind

/-- The fields that say what an entry describes: path, socket, mount and host. -/
def fields : EntryKind → Option String × Option String × Option String × Option String
  | .path p => (some p, none, none, none)
  | .socket p => (none, some p, none, none)
  | .mount p => (none, none, some p, none)
  | .host h => (none, none, none, some h)

/-- What is demanded of the text of a target. -/
def Valid : EntryKind → Prop
  | .path p => startsWithSlash p = true ∧ Template.Valid p
  | .socket p => startsWithSlash p = true ∧ Template.Valid p
  | .mount p => (p = "" ∨ startsWithSlash p = true) ∧ Template.Valid p ∧
      "path" ∉ (Template.placeholders p).map Prod.fst
  | .host h => Template.Valid h

end EntryKind

namespace RouteEntry

def targets (e : RouteEntry) : List String := [e.path, e.socket, e.mount, e.host].filterMap id

/-- The entry is one of those listed, or stands below one of them. -/
inductive Within : RouteEntry → List RouteEntry → Prop
  | here {e : RouteEntry} {es : List RouteEntry} (he : e ∈ es) : Within e es
  | deeper {e f : RouteEntry} {es : List RouteEntry} (hf : f ∈ es) (h : Within e f.routes) :
      Within e es

/-- What is demanded of an entry by itself. -/
structure Proper (e : RouteEntry) : Prop where
  target : e.targets.length = 1
  nesting : e.routes ≠ [] → e.mount.isSome = true ∨ e.host.isSome = true
  restricted : e.methods.isSome = true → e.path.isSome = true
  path : ∀ p, e.path = some p → startsWithSlash p = true ∧ Template.Valid p
  socket : ∀ p, e.socket = some p → startsWithSlash p = true ∧ Template.Valid p
  mount : ∀ p, e.mount = some p → (p = "" ∨ startsWithSlash p = true) ∧ Template.Valid p ∧
    "path" ∉ (Template.placeholders p).map Prod.fst
  host : ∀ h, e.host = some h → Template.Valid h
  tokens : ∀ ms, e.methods = some ms → ∀ m ∈ ms, isToken m = true

theorem not_within_nil (f : RouteEntry) : ¬ f.Within [] := by
  intro h
  cases h with
  | here hf => cases hf
  | deeper hf _ => cases hf

theorem within_cons_iff {f e : RouteEntry} {es : List RouteEntry} :
    f.Within (e :: es) ↔ (f = e ∨ f.Within e.routes) ∨ f.Within es := by
  constructor
  · intro h
    cases h with
    | here hf =>
        rcases List.mem_cons.mp hf with rfl | hf
        · exact Or.inl (Or.inl rfl)
        · exact Or.inr (.here hf)
    | deeper hg h =>
        rcases List.mem_cons.mp hg with rfl | hg
        · exact Or.inl (Or.inr h)
        · exact Or.inr (.deeper hg h)
  · rintro ((rfl | h) | h)
    · exact .here (List.mem_cons_self ..)
    · exact .deeper (List.mem_cons_self ..) h
    · cases h with
      | here hf => exact .here (List.mem_cons_of_mem _ hf)
      | deeper hg h => exact .deeper (List.mem_cons_of_mem _ hg) h

theorem kind?_eq_some_iff {e : RouteEntry} {kind : EntryKind} :
    e.kind? = some kind ↔ (e.path, e.socket, e.mount, e.host) = kind.fields := by
  unfold kind?
  cases e.path <;> cases e.socket <;> cases e.mount <;> cases e.host <;> cases kind <;>
    simp [EntryKind.fields]

theorem exists_kind_iff {e : RouteEntry} :
    (∃ kind, e.kind? = some kind) ↔ e.targets.length = 1 := by
  rw [← Option.isSome_iff_exists]
  unfold kind? targets
  cases e.path <;> cases e.socket <;> cases e.mount <;> cases e.host <;> simp

theorem kind?_of_target {e : RouteEntry} (h : e.targets.length = 1) {kind : EntryKind}
    (hset : match kind with
      | .path p => e.path = some p
      | .socket p => e.socket = some p
      | .mount p => e.mount = some p
      | .host p => e.host = some p) : e.kind? = some kind := by
  obtain ⟨other, hother⟩ := exists_kind_iff.mpr h
  have hfields := kind?_eq_some_iff.mp hother
  rw [hother]
  cases kind <;> cases other <;> simp_all [EntryKind.fields]

theorem shape_eq_ok_iff {e : RouteEntry} {kind : EntryKind} : e.shape = .ok kind ↔
    e.kind? = some kind ∧ (e.routes ≠ [] → kind.isNesting = true) ∧
      (e.methods.isSome = true → kind.isPath = true) := by
  unfold shape
  cases e.kind? with
  | none => simp
  | some k =>
      dsimp only
      by_cases hnested : (!k.isNesting && !e.routes.isEmpty) = true
      · rw [if_pos hnested]
        refine iff_of_false (fun h => nomatch h) ?_
        rintro ⟨hk, hnesting, _⟩
        obtain rfl := Option.some.inj hk
        simp only [Bool.and_eq_true, Bool.not_eq_true', List.isEmpty_eq_false_iff] at hnested
        exact Bool.false_ne_true (hnested.1.symm.trans (hnesting hnested.2))
      · rw [if_neg hnested]
        by_cases hmethods : (e.methods.isSome && !k.isPath) = true
        · rw [if_pos hmethods]
          refine iff_of_false (fun h => nomatch h) ?_
          rintro ⟨hk, _, hpath⟩
          obtain rfl := Option.some.inj hk
          simp only [Bool.and_eq_true, Bool.not_eq_true'] at hmethods
          exact Bool.false_ne_true (hmethods.2.symm.trans (hpath hmethods.1))
        · rw [if_neg hmethods, Except.ok.injEq, Option.some.injEq, iff_self_and]
          rintro rfl
          constructor
          · intro hroutes
            simpa [hroutes] using hnested
          · intro hsome
            simpa [hsome] using hmethods

section Kinds

variable {e : RouteEntry} {kind : EntryKind}

theorem nesting_iff (h : e.kind? = some kind) :
    (e.mount.isSome = true ∨ e.host.isSome = true) ↔ kind.isNesting = true := by
  have hset := kind?_eq_some_iff.mp h
  have hmount : e.mount = kind.fields.2.2.1 := congrArg (·.2.2.1) hset
  have hhost : e.host = kind.fields.2.2.2 := congrArg (·.2.2.2) hset
  rw [hmount, hhost]
  cases kind <;> simp [EntryKind.fields, EntryKind.isNesting]

theorem path_iff (h : e.kind? = some kind) : e.path.isSome = true ↔ kind.isPath = true := by
  have hpath : e.path = kind.fields.1 := congrArg (·.1) (kind?_eq_some_iff.mp h)
  rw [hpath]
  cases kind <;> simp [EntryKind.fields, EntryKind.isPath]

theorem valid_iff (h : e.kind? = some kind) :
    ((∀ p, e.path = some p → startsWithSlash p = true ∧ Template.Valid p) ∧
      (∀ p, e.socket = some p → startsWithSlash p = true ∧ Template.Valid p) ∧
      (∀ p, e.mount = some p → (p = "" ∨ startsWithSlash p = true) ∧ Template.Valid p ∧
        "path" ∉ (Template.placeholders p).map Prod.fst) ∧
      ∀ h, e.host = some h → Template.Valid h) ↔ kind.Valid := by
  have hset := kind?_eq_some_iff.mp h
  have hpath : e.path = kind.fields.1 := congrArg (·.1) hset
  have hsocket : e.socket = kind.fields.2.1 := congrArg (·.2.1) hset
  have hmount : e.mount = kind.fields.2.2.1 := congrArg (·.2.2.1) hset
  have hhost : e.host = kind.fields.2.2.2 := congrArg (·.2.2.2) hset
  rw [hpath, hsocket, hmount, hhost]
  cases kind <;> simp [EntryKind.fields, EntryKind.Valid]

theorem Proper.exists_shape (h : e.Proper) : ∃ kind, e.shape = .ok kind := by
  obtain ⟨kind, hkind⟩ := exists_kind_iff.mpr h.target
  refine ⟨kind, shape_eq_ok_iff.mpr ⟨hkind, ?_, ?_⟩⟩
  · exact fun hroutes => (nesting_iff hkind).mp (h.nesting hroutes)
  · exact fun hmethods => (path_iff hkind).mp (h.restricted hmethods)

/-- Of an entry in shape it is only demanded that its target is valid and its methods are
tokens. -/
theorem proper_iff (hshape : e.shape = .ok kind) :
    e.Proper ↔ kind.Valid ∧ ∀ ms, e.methods = some ms → ∀ m ∈ ms, isToken m = true := by
  obtain ⟨hkind, hroutes, hmethods⟩ := shape_eq_ok_iff.mp hshape
  constructor
  · intro h
    exact ⟨(valid_iff hkind).mp ⟨h.path, h.socket, h.mount, h.host⟩, h.tokens⟩
  · rintro ⟨hvalid, htokens⟩
    obtain ⟨hpath, hsocket, hmount, hhost⟩ := (valid_iff hkind).mpr hvalid
    exact ⟨exists_kind_iff.mp ⟨kind, hkind⟩, fun h => (nesting_iff hkind).mpr (hroutes h),
      fun h => (path_iff hkind).mpr (hmethods h), hpath, hsocket, hmount, hhost, htokens⟩

end Kinds

/-! ## What is built and what is documented -/

/-- The methods that a path entry allows. Without any given they are `GET` and `HEAD`. -/
def allowedMethods (e : RouteEntry) : List String :=
  match e.methods with
  | none => ["GET", "HEAD"]
  | some ms => Route.allowed ms

/-- The node is the one that the entry describes: of its kind, with its template, its name and
what else it says, and with the nodes of the entries below it, one for each and in their order. -/
inductive Depicts : RouteEntry → Node → Prop
  | path {e : RouteEntry} {p : String} {t : Template} (handle : Handle) (hp : e.path = some p)
      (ht : Template.compile .builtin p = .ok t) :
      Depicts e (.route ⟨t, ⟨e.name.getD "echo_handler", handle, .handler⟩,
        e.name.getD "echo_handler", some e.allowedMethods, .http, e.includeInSchema⟩)
  | socket {e : RouteEntry} {p : String} {t : Template} (handle : Handle) (hp : e.socket = some p)
      (ht : Template.compile .builtin p = .ok t) :
      Depicts e (.route ⟨t, ⟨e.name.getD "echo_session", handle, .session⟩,
        e.name.getD "echo_session", none, .socket, true⟩)
  | mount {e : RouteEntry} {p : String} {t : Template} {ns : List Node} (handle : Handle)
      (hp : e.mount = some p)
      (ht : Template.compile .builtin (Text.dropTrailing '/' p ++ "/\x7bpath:path\x7d") = .ok t)
      (hbelow : List.Forall₂ Depicts e.routes ns) :
      Depicts e (.mount ⟨Text.dropTrailing '/' p, t, .ofRouter handle (.ofNodes handle ns), e.name⟩)
  | host {e : RouteEntry} {h : String} {t : Template} {ns : List Node} (handle : Handle)
      (hp : e.host = some h) (ht : Template.compile .builtin h = .ok t)
      (hbelow : List.Forall₂ Depicts e.routes ns) :
      Depicts e (.host ⟨t, .ofRouter handle (.ofNodes handle ns), e.name⟩)

mutual

/-- The operations of an entry below a prefix: those of a path in the schema, one for each method
that it allows but `HEAD`; behind a mount those of its entries, below its prefix; behind a host
those of its entries. -/
def documented (front : String) : RouteEntry → List Operation
  | ⟨path, socket, mount, host, name, methods, schema, routes⟩ =>
    let e : RouteEntry := ⟨path, socket, mount, host, name, methods, schema, routes⟩
    match path, mount, host with
    | some p, _, _ =>
      if schema then (e.allowedMethods.filter (· != "HEAD")).map fun m =>
        ⟨front ++ Template.erased p, m, name.getD "echo_handler"⟩
      else []
    | none, some p, _ => allDocumented (front ++ Template.erased (Text.dropTrailing '/' p)) routes
    | none, none, some _ => allDocumented front routes
    | none, none, none => []

def allDocumented (front : String) : List RouteEntry → List Operation
  | [] => []
  | e :: es => documented front e ++ allDocumented front es

end

end RouteEntry

end Waymark
