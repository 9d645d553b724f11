import Waymark.Proofs.Tree.Completeness
import Waymark.Proofs.Url.Authority
import Waymark.UrlPath

/-!
# Reversed paths are rooted

A reversed path is put behind the authority of a base, so it had better start
with a slash. It does wherever a template has a say in it: routes and the
prefixes of mounts start with a slash (`Template.head?_of_fillPieces`), a stem
is empty or starts with one, and a mount that is taken as a whole puts a slash
in front of the bare rest. A host gate that is taken as a whole does not: its
path is the parameter for the rest as it was given (`UrlPath.Verbatim`).

The step is a case for each kind of node; `Node.rooted_or_verbatim` is the
descent. A stem that is not empty roots what is behind it, so an answer that
is not rooted comes from a chain of which only the last gate says anything.
With a rooted path, whatever stands behind the authority of an absolute URL is
apart from it (`Url.readAuthority_behind_slash`).
-/

namespace Waymark

/-! ## What the templates put in front -/

namespace Template

theorem head?_of_fillPieces {registry : Registry} {source : String} {t : Template}
    (hslash : startsWithSlash source = true) (hcomp : compile registry source = .ok t)
    {params : Params} {blank : Option String} {text : List Char}
    (h : fillPieces params blank t.pieces = .ok text) :
    startsWithSlash (String.ofList text) = true := by
  obtain ⟨cs, hcs⟩ := startsWithSlash_iff.mp hslash
  have hat := atoms?_of_compile hcomp
  rw [hcs] at hat
  obtain ⟨as, has⟩ := atoms?_slash hat
  rw [← fillPieces_atoms, has] at h
  obtain ⟨first, hfirst, h⟩ := Except.bind_eq_ok_iff.mp h
  obtain ⟨behind, _, h⟩ := Except.bind_eq_ok_iff.mp h
  cases hfirst
  cases h
  exact startsWithSlash_iff.mpr ⟨behind, String.toList_ofList⟩

end Template

/-- What a mount compiles starts with a slash, whatever its prefix. -/
theorem Mount.Registered.slashed {registry : Registry} {m : Mount} (h : m.Registered registry) :
    startsWithSlash (m.path ++ "/\x7bpath:path\x7d") = true ∧
      Template.compile registry (m.path ++ "/\x7bpath:path\x7d") = .ok m.template := by
  obtain ⟨hled, _, hcomp⟩ := h.compile
  refine ⟨?_, hcomp⟩
  rcases hled with hnil | hslash
  · rw [hnil]
    rfl
  · exact startsWithSlash_append hslash _

/-! ## Verbatim answers -/

/-- The answer of a chain that ends in a named gate which is taken as a whole and whose path
nothing was put in front of: it is the parameter for the rest as it was given. -/
def UrlPath.Verbatim (u : UrlPath) (params : Params) (ns : List Node) : Prop :=
  ∃ g v, ns.getLast? = some (.host g) ∧ g.name.isSome = true ∧
    params.get? Mount.rest = some v ∧ u.path = v.text ∧ u.host.isSome = true ∧ u.protocol = none

theorem UrlPath.Verbatim.cons {u : UrlPath} {params left : Params} {ns : List Node}
    (h : u.Verbatim left ns) (hrest : ∀ v, left.get? Mount.rest = some v →
      params.get? Mount.rest = some v) (n : Node) : u.Verbatim params (n :: ns) := by
  obtain ⟨g, v, hlast, hname, hv, hpath, hhost, hprotocol⟩ := h
  refine ⟨g, v, ?_, hname, hrest v hv, hpath, hhost, hprotocol⟩
  rw [List.getLast?_cons, hlast]
  rfl

theorem Route.rooted_of_urlPath? {registry : Registry} {q : Route} (hq : q.Registered registry)
    {name : String} {params : Params} {u : UrlPath} (h : q.urlPath? name params = some u) :
    startsWithSlash u.path = true := by
  obtain ⟨hslash, hcomp⟩ := hq.template_eq
  obtain ⟨_, text, hfill, rfl⟩ := Route.urlPath?_eq_some_iff.mp h
  exact Template.head?_of_fillPieces hslash hcomp hfill

theorem Mount.wholePath?_rooted {registry : Registry} {m : Mount} (hm : m.Registered registry)
    {params : Params} {u : UrlPath} (h : m.wholePath? params = some u) :
    startsWithSlash u.path = true := by
  obtain ⟨hslash, hcomp⟩ := hm.slashed
  obtain ⟨_, _, text, hfill, rfl⟩ := Mount.wholePath?_eq_some_iff.mp h
  exact Template.head?_of_fillPieces hslash hcomp hfill

/-- A stem is empty or starts with a slash, and below it the parameter for the rest is what it
was. -/
theorem Mount.delegate?_rooted {registry : Registry} {m : Mount} (hm : m.Registered registry)
    {name stem residual : String} {params left : Params}
    (h : m.delegate? name params = some (stem, residual, left)) :
    (stem = "" ∨ startsWithSlash stem = true) ∧
      left.get? Mount.rest = params.get? Mount.rest := by
  obtain ⟨hslash, hcomp⟩ := hm.slashed
  obtain ⟨_, _, ⟨text, hfill, rfl⟩, rfl⟩ := Mount.delegate?_eq_some_iff.mp h
  have hrooted := Template.head?_of_fillPieces hslash hcomp hfill
  exact ⟨slash_dropTrailing (Or.inr hrooted), by rw [Mount.get?_leftover, if_pos rfl]⟩

theorem HostGate.wholePath?_verbatim {g : HostGate} {name : String} {params : Params}
    {u : UrlPath} (hwhole : g.isWhole name params = true) (h : g.wholePath? params = some u) :
    u.Verbatim params [.host g] := by
  rw [HostGate.isWhole, Bool.and_eq_true, beq_iff_eq] at hwhole
  obtain ⟨hname, hrest⟩ := hwhole
  obtain ⟨v, hv⟩ := Option.isSome_iff_exists.mp hrest
  obtain ⟨_, _, text, _, rfl⟩ := HostGate.wholePath?_eq_some_iff.mp h
  refine ⟨g, v, rfl, by rw [hname]; rfl, hv, ?_, rfl, rfl⟩
  simp only [Mount.restOf, hv, Option.map_some, Option.getD_some]

/-! ## The descent -/

/-- Every node of the tree was built with the converters of some registry. -/
def Router.Compiled (r : Router) : Prop :=
  ∀ n, r.Contains n → ∃ registry, n.Registered registry

theorem Node.endpoint?_of_subtree? {n : Node} {e : Endpoint} (h : n.subtree? = some e) :
    n.endpoint? = some e := by
  cases n with
  | route q => cases h
  | mount m => exact h
  | host g => exact h
  | lifespan l => cases h

theorem Router.Compiled.below {r inner : Router} (hr : r.Compiled) {n : Node} (hn : n ∈ r.nodes)
    {e : Endpoint} (he : n.subtree? = some e) (ht : e.target = .router inner) :
    inner.Compiled :=
  fun _ hk => hr _ (.behind hn (Node.endpoint?_of_subtree? he) ht hk)

theorem Node.rooted_or_verbatim {r : Router} (hr : r.Compiled) {n : Node} (hn : n ∈ r.nodes)
    {name : String} {params : Params} {u : UrlPath} (h : n.urlPath? name params = some u) :
    startsWithSlash u.path = true ∨ ∃ ns, r.Chain (n :: ns) ∧ u.Verbatim params (n :: ns) := by
  have hbelow {e : Endpoint} (he : n.subtree? = some e) {residual : String} {left : Params}
      {v : UrlPath} (hv : e.urlPath? residual left = some v) : startsWithSlash v.path = true ∨
        ∃ ns, r.Chain (n :: ns) ∧ v.Verbatim left ns := by
    obtain ⟨inner, ht, hv⟩ := Endpoint.urlPath?_eq_some hv
    rw [Router.urlPath?_eq] at hv
    obtain ⟨before, k, after, hnodes, _, hk⟩ := Node.firstUrlPath?_eq_some_iff.mp hv
    have hmem : k ∈ inner.nodes := hnodes ▸ List.mem_append_right _ (List.mem_cons_self ..)
    rcases Node.rooted_or_verbatim (hr.below hn he ht) hmem hk with hrooted | ⟨ns, hns, hverb⟩
    · exact Or.inl hrooted
    · exact Or.inr ⟨k :: ns, .cons hn he ht hns, hverb⟩
  obtain ⟨registry, hreg⟩ := hr n (.here hn)
  cases n with
  | route q =>
      rw [Node.urlPath?] at h
      exact Or.inl (Route.rooted_of_urlPath? hreg h)
  | mount m =>
      rw [Node.urlPath?] at h
      rcases Mount.urlPath?_eq_some h with ⟨_, hwhole⟩ | ⟨_, stem, residual, left, v, hd, hv, rfl⟩
      · exact Or.inl (Mount.wholePath?_rooted hreg hwhole)
      · obtain ⟨hstem, hrest⟩ := Mount.delegate?_rooted hreg hd
        rcases hstem with rfl | hstem
        · -- an empty stem leaves the path as it is
          rw [String.empty_append]
          rcases hbelow rfl hv with hrooted | ⟨ns, hns, hverb⟩
          · exact Or.inl hrooted
          · exact Or.inr ⟨ns, hns, hverb.cons (fun v hv => hrest ▸ hv) _⟩
        · exact Or.inl (startsWithSlash_append hstem _)
  | host g =>
      rw [Node.urlPath?] at h
      rcases HostGate.urlPath?_eq_some h with
        ⟨hwhole, hu⟩ | ⟨_, host, residual, left, v, hd, hv, rfl⟩
      · exact Or.inr ⟨[], .last hn, HostGate.wholePath?_verbatim hwhole hu⟩
      · obtain ⟨_, _, _, rfl⟩ := HostGate.delegate?_eq_some_iff.mp hd
        rcases hbelow rfl hv with hrooted | ⟨ns, hns, hverb⟩
        · exact Or.inl hrooted
        · have hleft : ∀ w, (g.leftover params).get? Mount.rest = some w →
              params.get? Mount.rest = some w := by
            intro w hw
            rw [HostGate.get?_leftover] at hw
            split at hw
            · cases hw
            · exact hw
          obtain ⟨g', w, hlast, hname, hw, hpath, _, hprotocol⟩ := hverb.cons hleft (.host g)
          exact Or.inr ⟨ns, hns, g', w, hlast, hname, hw, hpath, rfl, hprotocol⟩
  | lifespan l =>
      rw [Node.urlPath?] at h
      cases h
  termination_by n
  decreasing_by exact Node.sizeOf_subtree he ht hmem

/-! ## Absolute URLs -/

namespace UrlPath

/-- The scheme that an absolute URL is given: that of the protocol, or that of the base. -/
def scheme (u : UrlPath) (base : Url) : String :=
  (u.protocol.map fun p => p.scheme base.isSecure).getD base.scheme

/-- The authority that an absolute URL is given: the host, or that of the base. -/
def netloc (u : UrlPath) (base : Url) : String := u.host.getD base.netloc

/-- What stands behind the authority of an absolute URL. -/
def behind (u : UrlPath) (base : Url) : String := Text.dropTrailing '/' base.path ++ u.path

theorem absoluteText_eq (u : UrlPath) (base : Url) :
    u.absoluteText base = u.scheme base ++ "://" ++ (u.netloc base ++ u.behind base) := by
  unfold absoluteText scheme netloc behind
  cases u.protocol <;> simp only [Option.map_none, Option.map_some, Option.getD_none,
    Option.getD_some, String.append_assoc]

theorem startsWithSlash_behind {u : UrlPath} {base : Url} (hu : startsWithSlash u.path = true)
    (hbase : base.path = "" ∨ startsWithSlash base.path = true) :
    startsWithSlash (u.behind base) = true := by
  rcases slash_dropTrailing hbase with hnil | hslash
  · rw [behind, hnil, String.empty_append]
    exact hu
  · exact startsWithSlash_append hslash _

theorem readAuthority_behind {tail : String} (h : startsWithSlash tail = true)
    (scheme netloc : String) : (Url.readAuthority scheme (netloc ++ tail).toList).map Prod.fst =
      (Url.readAuthority scheme (netloc ++ "/").toList).map Prod.fst := by
  obtain ⟨cs, hcs⟩ := startsWithSlash_iff.mp h
  rw [String.toList_append, String.toList_append, hcs]
  exact Url.readAuthority_behind_slash scheme netloc.toList cs

end UrlPath

/-- A reversed path starts with a slash, but for the one of a named gate that is taken as a whole
and that no prefix stands in front of: that is the parameter for the rest as it was given. A
rooted path is apart from the authority of the absolute URL that it becomes against a base with an
authority or a rooted path: there stands a slash behind the authority, and the authority is read as
if nothing followed that slash. -/
theorem Router.urlPath?_rooted {r : Router} (hr : r.Compiled) {name : String} {params : Params}
    {u : UrlPath} (h : r.urlPath? name params = some u) :
    (startsWithSlash u.path = true ∨ ∃ ns, r.Chain ns ∧ u.Verbatim params ns) ∧
    (startsWithSlash u.path = true → ∀ (s : String) (base : Url), Url.read s = .ok base →
      (base.authority.isSome = true ∨ startsWithSlash base.path = true) →
      u.absoluteText base = u.scheme base ++ "://" ++ (u.netloc base ++ u.behind base) ∧
        startsWithSlash (u.behind base) = true ∧
        (Url.readAuthority (u.scheme base) (u.netloc base ++ u.behind base).toList).map Prod.fst =
          (Url.readAuthority (u.scheme base) (u.netloc base ++ "/").toList).map Prod.fst) := by
  constructor
  · rw [Router.urlPath?_eq] at h
    obtain ⟨before, n, after, hnodes, _, hn⟩ := Node.firstUrlPath?_eq_some_iff.mp h
    have hmem : n ∈ r.nodes := hnodes ▸ List.mem_append_right _ (List.mem_cons_self ..)
    rcases Node.rooted_or_verbatim hr hmem hn with hrooted | ⟨ns, hns, hverb⟩
    · exact Or.inl hrooted
    · exact Or.inr ⟨n :: ns, hns, hverb⟩
  · intro hu s base hread hbase
    have hpath : base.path = "" ∨ startsWithSlash base.path = true :=
      hbase.elim (Url.path_of_read hread) Or.inr
    have htail := UrlPath.startsWithSlash_behind hu hpath
    exact ⟨u.absoluteText_eq base, htail, UrlPath.readAuthority_behind htail _ _⟩

namespace Site

def tenants : HostGate where
  template := ⟨"\x7btenant\x7d.example.com",
    [.hole ⟨"tenant", Converter.str, Converter.segmentPattern⟩, .literal ".example.com".toList],
    by decide⟩
  target := .ofRouter ⟨[3]⟩ posts
  name := some "tenant"

def hosted : Router := .ofNodes ⟨[5]⟩ [.host tenants]

theorem registered_tenants : tenants.Registered .builtin := by
  have hparts : Template.parts "\x7btenant\x7d.example.com".toList =
      [.hole "tenant".toList "str".toList, .literal ".example.com".toList] := by decide +kernel
  have hcomp : Template.compile .builtin "\x7btenant\x7d.example.com" =
      .ok tenants.template := by
    refine Template.compile_eq_ok_iff.mpr ⟨rfl, ?_⟩
    rw [hparts]
    rfl
  refine ⟨"\x7btenant\x7d.example.com", ?_⟩
  simp only [HostGate.new, hcomp]
  rfl

theorem compiled_root : root.Compiled := fun _ h => ⟨.builtin, registered_of_contains h⟩

theorem compiled_hosted : hosted.Compiled := by
  intro n h
  cases h with
  | here hn =>
      obtain rfl := List.mem_singleton.mp hn
      exact ⟨.builtin, registered_tenants⟩
  | behind hn he ht h =>
      obtain rfl := List.mem_singleton.mp hn
      cases he
      cases ht
      obtain rfl := contains_posts h
      exact ⟨.builtin, registered_post⟩
  | fallback he _ _ => cases he

theorem urlPath?_rooted_posts :
    let u : UrlPath := ⟨"/users/7/posts/a", some .http, none⟩
    let base : Url := ⟨"https", some ⟨"", "localhost", some 8443⟩, "/app/", none, none⟩
    root.urlPath? "users:post" (.ofList [("id", .int 7), ("slug", .str "a")]) = some u ∧
      Url.read "https://localhost:8443/app/" = .ok base ∧
      u.absoluteText base = "https" ++ "://" ++ ("localhost:8443" ++ "/app/users/7/posts/a") ∧
      (Url.readAuthority "https" ("localhost:8443" ++ "/app/users/7/posts/a").toList).map
        Prod.fst = (Url.readAuthority "https" ("localhost:8443" ++ "/").toList).map Prod.fst := by
  intro u base
  have hu : root.urlPath? "users:post" (.ofList [("id", .int 7), ("slug", .str "a")]) = some u := by
    decide +kernel
  have hread : Url.read "https://localhost:8443/app/" = .ok base := by decide +kernel
  have hparts : u.scheme base = "https" ∧ u.netloc base = "localhost:8443" ∧
      u.behind base = "/app/users/7/posts/a" := by decide +kernel
  have happly := (Router.urlPath?_rooted compiled_root hu).2 (by decide) _ base hread (Or.inl rfl)
  rw [hparts.1, hparts.2.1, hparts.2.2] at happly
  exact ⟨hu, hread, happly.1, happly.2.2⟩

/-- The parameter for the rest that a gate is given as a whole becomes part of the host. -/
theorem hosted_not_rooted :
    let params : Params := .ofList [("tenant", .str "acme"), ("path", .str ".evil.org")]
    let u : UrlPath := ⟨".evil.org", none, some "acme.example.com"⟩
    hosted.Compiled ∧ hosted.urlPath? "tenant" params = some u ∧
      ¬ startsWithSlash u.path = true ∧
      (u.absolute "http://localhost/").map Url.text =
        .ok "http://acme.example.com.evil.org/" := by
  intro params u
  have hu : hosted.urlPath? "tenant" params = some u := by decide +kernel
  have habsolute : (u.absolute "http://localhost/").map Url.text =
      .ok "http://acme.example.com.evil.org/" := by decide +kernel
  exact ⟨compiled_hosted, hu, by decide, habsolute⟩

end Site

end Waymark
