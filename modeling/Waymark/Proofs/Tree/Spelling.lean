import Waymark.Command.Execution
import Waymark.Proofs.Converter.Spelling
import Waymark.Proofs.Tree.Completeness

/-!
# Looking up with texts for values

On the command line all parameters are texts; a program gives numbers and
UUIDs. Over the builtin converters, the one for binary numbers left aside,
both get the same answer (`Router.urlPath?_spelled`).

What a chain is asked for and what its address is are made of the names of the
parameters, of what its holes are written as, and of the text of the rest of
the path. None of them tells a value from its text (`Chain.asked_spelled_iff`,
`Chain.address_spelled`), so the first chain that is asked for is the same one.
The other half is what the command line makes of `KEY=VALUE`: the first `=`
ends the key, and what is given twice keeps its place and has the last value
(`Params.readPairs_written`).
-/

namespace Waymark

/-! ## Chains over the builtin converters -/

/-- The node was built with the builtin converters, and none of its holes takes binary numbers. -/
def Node.Textual (n : Node) : Prop :=
  n.Registered .builtin ∧ ∀ h ∈ n.holes, h.converter ≠ Converter.float

theorem Mount.Registered.builtin {m : Mount} (hm : m.Registered .builtin) :
    ∀ h ∈ m.prefixHoles, h.Builtin := by
  intro h hmem
  obtain ⟨_, _, hcomp⟩ := hm.compile
  exact Template.builtin_of_compile hcomp h (Mount.mem_prefixHoles.mp hmem).1

namespace Node

theorem Registered.builtin {n : Node} (hn : n.Registered .builtin) : ∀ h ∈ n.holes, h.Builtin := by
  cases n with
  | route q => exact Route.Registered.builtin hn
  | mount m => exact Mount.Registered.builtin hn
  | host g => exact HostGate.Registered.builtin hn
  | lifespan l => exact fun h hmem => nomatch hmem

theorem Textual.standard {n : Node} (hn : n.Textual) : n.Standard := by
  rintro m rfl
  exact ⟨.builtin, rfl, hn.1⟩

theorem Textual.written?_spelled {n : Node} (hn : n.Textual) {params : Params}
    (hp : params.Textual) : ∀ h ∈ n.holes, h.written? params.spelled = h.written? params :=
  fun h hmem => (hn.1.builtin h hmem).written?_spelled (hn.2 h hmem) hp

end Node

theorem Mount.restOf_spelled (params : Params) : restOf params.spelled = restOf params := by
  simp only [restOf, Params.get?_spelled, Option.map_map, Function.comp_def, Value.text_spelled]

namespace Chain

variable {ns : List Node} {cs : List (List Node)} {params : Params}

theorem asked_spelled_iff (hns : ∀ n ∈ ns, n.Textual) (hp : params.Textual) (asked : String) :
    Asked ns asked params.spelled ↔ Asked ns asked params := by
  have hkeys : (∀ k, k ∈ params.spelled.keys ↔ k ∈ takes ns) ↔
      ∀ k, k ∈ params.keys ↔ k ∈ takes ns := by rw [Params.keys_spelled]
  have haccepted : (∀ n ∈ ns, ∀ h ∈ n.holes, (h.written? params.spelled).isSome = true) ↔
      ∀ n ∈ ns, ∀ h ∈ n.holes, (h.written? params).isSome = true :=
    forall₂_congr fun n hn => forall₂_congr fun h hh => by
      rw [(hns n hn).written?_spelled hp h hh]
  constructor
  · intro h
    exact ⟨h.ends, h.name_eq, h.nodup, hkeys.mp h.keys, haccepted.mp h.accepted⟩
  · intro h
    exact ⟨h.ends, h.name_eq, h.nodup, hkeys.mpr h.keys, haccepted.mpr h.accepted⟩

theorem address_spelled (hns : ∀ n ∈ ns, n.Textual) (hp : params.Textual) :
    address params.spelled ns = address params ns :=
  address_congr (fun n hn => (hns n hn).standard) (fun n hn => (hns n hn).written?_spelled hp)
    fun _ => Mount.restOf_spelled params

theorem lookup_spelled (hcs : ∀ ns ∈ cs, ∀ n ∈ ns, n.Textual) (hp : params.Textual)
    (asked : String) : lookup cs asked params.spelled = lookup cs asked params := by
  have hfind : cs.find? (fun ns => Asked ns asked params.spelled) =
      cs.find? fun ns => Asked ns asked params :=
    List.find?_congr fun ns hns => decide_eq_decide.mpr (asked_spelled_iff (hcs ns hns) hp asked)
  unfold lookup
  rw [hfind]
  cases hfound : cs.find? fun ns => Asked ns asked params with
  | none => rfl
  | some ns =>
      rw [Option.map_some, Option.map_some,
        address_spelled (hcs ns (List.mem_of_find?_eq_some hfound)) hp]

end Chain

/-- A node answers the same to values and to their texts. -/
theorem Node.spelled_urlPath? {n : Node} (hn : ∀ ns ∈ n.chains, ∀ k ∈ ns, k.Textual)
    {params : Params} (hp : params.Textual) (asked : String) :
    n.urlPath? asked params.spelled = n.urlPath? asked params := by
  have hstandard : ∀ ns ∈ n.chains, ∀ k ∈ ns, k.Standard :=
    fun ns hns k hk => (hn ns hns k hk).standard
  rw [n.urlPath?_eq_lookup hstandard, n.urlPath?_eq_lookup hstandard,
    Chain.lookup_spelled hn hp]

/-! ## The command line -/

namespace Params

def pair (e : String × Value) : String := e.1 ++ "=" ++ e.2.text

theorem cutAt?_pair {e : String × Value} (hkey : '=' ∉ e.1.toList) :
    Text.cutAt? '=' (pair e).toList = some (e.1.toList, e.2.text.toList) := by
  have hcut : ∀ {cs : List Char} (ds : List Char), '=' ∉ cs →
      Text.cutAt? '=' (cs ++ '=' :: ds) = some (cs, ds) := by
    intro cs ds hcs
    induction cs with
    | nil => rfl
    | cons c cs ih =>
        rw [List.mem_cons, not_or] at hcs
        rw [List.cons_append, Text.cutAt?, if_neg (fun h => hcs.1 h.symm), ih hcs.2]
        rfl
  have hpair : (pair e).toList = e.1.toList ++ '=' :: e.2.text.toList := by
    simp [pair]
  rw [hpair, hcut _ hkey]

/-- What is written as `KEY=VALUE` is read as the parameters with the texts of the values. -/
theorem readPairs_written {es : List (String × Value)}
    (hkeys : ∀ e ∈ es, e.1 ≠ "" ∧ '=' ∉ e.1.toList) :
    readPairs (es.map pair) = .ok (ofList es).spelled := by
  have hempty : spelled empty = empty := rfl
  rw [ofList, spelled_foldl_insert, hempty, readPairs]
  -- The induction is for any parameters that were read so far, not just for none.
  generalize empty = ps
  induction es generalizing ps with
  | nil => rfl
  | cons e es ih =>
      obtain ⟨⟨hne, hkey⟩, hes⟩ := List.forall_mem_cons.mp hkeys
      obtain ⟨c, cs, hcs⟩ := List.exists_cons_of_ne_nil fun h =>
        hne (String.toList_eq_nil_iff.mp h)
      have hname : String.ofList (c :: cs) = e.1 := by rw [← hcs, String.ofList_toList]
      rw [List.map_cons, List.foldlM_cons, cutAt?_pair hkey, hcs]
      simp only [hname, String.ofList_toList]
      exact ih hes _

end Params

/-- Over the builtin converters but the one for binary numbers, reverse lookup gives one answer for
values and for their texts, in a router and at each of its nodes. So what is written on a command
line as `KEY=VALUE` is looked up as the values are. -/
theorem Router.urlPath?_spelled {r : Router} (hr : ∀ n, r.Contains n → n.Textual)
    (asked : String) :
    (∀ params : Params, params.Textual →
      r.urlPath? asked params.spelled = r.urlPath? asked params ∧
      ∀ n ∈ r.nodes, n.urlPath? asked params.spelled = n.urlPath? asked params) ∧
    ∀ es : List (String × Value), (∀ e ∈ es, e.1 ≠ "" ∧ '=' ∉ e.1.toList) →
      (∀ e ∈ es, e.2.float? = none) →
      ∃ params, Params.readPairs (es.map Params.pair) = .ok params ∧
        r.urlPath? asked params = r.urlPath? asked (.ofList es) ∧
        ∀ n ∈ r.nodes, n.urlPath? asked params = n.urlPath? asked (.ofList es) := by
  have hchains : ∀ ns ∈ r.chains, ∀ k ∈ ns, k.Textual :=
    fun ns hns k hk => hr k ((mem_chains_iff.mp hns).contains k hk)
  have hm : ∀ m, r.Contains (.mount m) → m.Standard := fun m h => (hr _ h).standard m rfl
  have hspelled : ∀ params : Params, params.Textual →
      r.urlPath? asked params.spelled = r.urlPath? asked params ∧
      ∀ n ∈ r.nodes, n.urlPath? asked params.spelled = n.urlPath? asked params := by
    intro params hp
    refine ⟨?_, fun n hn => Node.spelled_urlPath? (fun ns hns => ?_) hp asked⟩
    · rw [urlPath?_eq_lookup hm, urlPath?_eq_lookup hm, Chain.lookup_spelled hchains hp]
    · exact hchains ns (mem_chains_of_mem hn hns)
  refine ⟨hspelled, fun es hkeys hvalues => ⟨_, Params.readPairs_written hkeys, ?_⟩⟩
  exact hspelled _ (Params.Textual.foldl_insert hvalues fun _ _ h => nomatch h)

namespace Site

theorem textual_of_contains {n : Node} (h : root.Contains n) : n.Textual := by
  refine ⟨registered_of_contains h, fun hole hmem heq => ?_⟩
  have hpattern := congrArg Converter.pattern heq
  rcases contains_root h with rfl | rfl
  · obtain rfl : hole = idHole := List.mem_singleton.mp hmem
    exact absurd hpattern (by decide)
  · obtain rfl : hole = slugHole := List.mem_singleton.mp hmem
    exact absurd hpattern (by decide)

/-- A post whose number is given twice: the second one counts, as a number and as a text. -/
theorem urlPath?_spelled_posts :
    let es : List (String × Value) := [("id", .int 3), ("slug", .str "a=b"), ("id", .int 7)]
    (∀ e ∈ es, e.1 ≠ "" ∧ '=' ∉ e.1.toList) ∧ (∀ e ∈ es, e.2.float? = none) ∧
    ∃ params, Params.readPairs ["id=3", "slug=a=b", "id=7"] = .ok params ∧
      root.urlPath? "users:post" params = root.urlPath? "users:post" (.ofList es) ∧
      root.urlPath? "users:post" (.ofList es) =
        some ⟨"/users/7/posts/a=b", some .http, none⟩ := by
  intro es
  have hkeys : ∀ e ∈ es, e.1 ≠ "" ∧ '=' ∉ e.1.toList := by decide
  have hvalues : ∀ e ∈ es, e.2.float? = none := by decide
  obtain ⟨params, hread, hsame, _⟩ :=
    (Router.urlPath?_spelled (fun _ => textual_of_contains) "users:post").2 es hkeys hvalues
  have hpairs : es.map Params.pair = ["id=3", "slug=a=b", "id=7"] := by decide +kernel
  have hanswer : root.urlPath? "users:post" (.ofList es) =
      some ⟨"/users/7/posts/a=b", some .http, none⟩ := by decide +kernel
  exact ⟨hkeys, hvalues, params, hpairs ▸ hread, hsame, hanswer⟩

end Site

end Waymark
