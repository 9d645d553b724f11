import Mathlib.Data.List.Nodup
import Waymark.Proofs.Template.Refilling
import Waymark.Proofs.Tree.Registered
import Waymark.Tree.Reverse

/-!
# Looking names up

Reverse lookup tries the nodes of a router in order and takes the first that
has an answer. Which nodes can have one is a matter of names: a node answers
only to names that stand in its tree, qualified by the named subtrees around
them (`Node.mem_qualifiedNames`). So where the qualified names of a tree are
distinct, the order does not matter: the one node with an answer is found
(`Node.firstUrlPath?_of_mem`).

A mount that is asked for as a whole fills its template with the bare rest of
the path (`Mount.wholePath?_eq_some_iff`). One that is asked for something
below it fills its own holes and hands on the parameters that are left.
`Mount.delegate?_eq_some_iff` says what that takes, and `Mount.get?_leftover`
which parameters they are: all but those of its prefix.
-/

namespace Waymark

/-! ## Qualified names -/

/-- A name behind the own name of a subtree, if it has one. -/
def qualify (own : Option String) (name : String) : String :=
  match own with
  | none => name
  | some own => own ++ ":" ++ name

/-- The nodes of a subtree are asked by the name without the qualification. -/
theorem residualName?_eq_some_iff {own : Option String} {name residual : String} :
    residualName? own name = some residual ↔ name = qualify own residual := by
  cases own with
  | none => simp [residualName?, qualify]
  | some own =>
      rw [residualName?, qualify, Option.map_eq_some_iff, ← String.toList_inj]
      simp only [String.toList_append]
      constructor
      · rintro ⟨rest, hrest, rfl⟩
        simp [Text.after?_eq_some hrest]
      · intro h
        refine ⟨residual.toList, ?_, String.ofList_toList⟩
        rw [h]
        simp [Text.after?]

theorem own_ne_qualify (own name : String) : own ≠ qualify (some own) name := by
  intro h
  have hlen := congrArg (fun s => s.toList.length) h
  simp [qualify] at hlen

mutual

/-- The names that the tree of a router answers to: those of its routes and of its named
subtrees, qualified by the own names of the subtrees around them. -/
def Router.qualifiedNames : Router → List String
  | ⟨nodes, _, _, _⟩ => Node.allQualifiedNames nodes

def Endpoint.qualifiedNames : Endpoint → List String
  | ⟨_, _, .router r⟩ => r.qualifiedNames
  | ⟨_, _, _⟩ => []

def Mount.qualifiedNames : Mount → List String
  | ⟨_, _, target, own⟩ => own.toList ++ target.qualifiedNames.map (qualify own)

def HostGate.qualifiedNames : HostGate → List String
  | ⟨_, target, own⟩ => own.toList ++ target.qualifiedNames.map (qualify own)

def Node.qualifiedNames : Node → List String
  | .route r => [r.name]
  | .mount m => m.qualifiedNames
  | .host h => h.qualifiedNames
  | .lifespan _ => []

def Node.allQualifiedNames : List Node → List String
  | [] => []
  | n :: ns => n.qualifiedNames ++ Node.allQualifiedNames ns

end

/-! ## Whole subtrees and delegation -/

theorem Template.covered_iff {t : Template} {params : Params} {skip : Option String} :
    t.covered params skip = true ↔
      ∀ h ∈ t.holes, some h.name ≠ skip → params.contains h.name = true := by
  have hnames : t.names = t.holes.map Hole.name := names_eq_map_holes t.pieces
  rw [covered, List.all_eq_true, hnames, List.forall_mem_map]
  refine forall₂_congr fun h _ => ?_
  rw [Bool.or_eq_true, beq_iff_eq]
  exact or_iff_not_imp_left

namespace Route

theorem urlPath?_eq_some_iff {r : Route} {name : String} {params : Params} {u : UrlPath} :
    r.urlPath? name params = some u ↔ r.answersTo name params = true ∧
      ∃ text, Template.fillPieces params none r.template.pieces = .ok text ∧
        u = ⟨String.ofList text, some r.protocol, none⟩ := by
  rw [urlPath?]
  cases r.answersTo name params with
  | false => simp
  | true =>
      simp only [if_true, Template.fill]
      cases Template.fillPieces params none r.template.pieces with
      | error e => exact iff_of_false (fun h => Option.some_ne_none _ h.symm) (by simp)
      | ok text =>
          constructor
          · intro h
            exact ⟨trivial, text, rfl, (Option.some.inj h).symm⟩
          · rintro ⟨_, text', heq, rfl⟩
            rw [← Except.ok.inj heq]
            rfl

end Route

namespace Mount

/-- The parameters that a mount leaves to the nodes below it. -/
def leftover (m : Mount) (params : Params) : Params :=
  let left := params.restrict fun name => !m.template.names.contains name && some rest != some name
  match params.get? rest with
  | some value => left.insert rest value
  | none => left

/-- What a mount that is asked for as a whole puts behind its prefix: the rest of the path
without the slashes in front. -/
def bareRest (params : Params) : String := Text.dropLeading '/' (restOf params)

/-- The parameters that a mount fills its template with when it is asked for as a whole. -/
def wholly (params : Params) : Params := params.insert rest (.str (bareRest params))

theorem wholePath?_eq_some_iff {m : Mount} {params : Params} {u : UrlPath} :
    m.wholePath? params = some u ↔ m.template.covered (wholly params) (some rest) = true ∧
      ((wholly params).restrict fun name =>
        !m.template.names.contains name && none != some name).isEmpty = true ∧
      ∃ text, Template.fillPieces (wholly params) none m.template.pieces = .ok text ∧
        u = ⟨String.ofList text, none, none⟩ := by
  have hwholly : params.insert rest (.str (Text.dropLeading '/'
      (((params.get? rest).map Value.text).getD ""))) = wholly params := rfl
  rw [wholePath?]
  simp only [hwholly, Template.fill]
  cases Template.fillPieces (wholly params) none m.template.pieces with
  | error e => exact iff_of_false (fun h => Option.some_ne_none _ h.symm) (by simp)
  | ok text =>
      change (if _ then _ else none) = some u ↔ _
      rw [Option.ite_none_right_eq_some, Bool.and_eq_true, Option.some.injEq]
      constructor
      · rintro ⟨⟨hleft, hcovered⟩, rfl⟩
        exact ⟨hcovered, hleft, text, rfl, rfl⟩
      · rintro ⟨hcovered, hleft, text', heq, rfl⟩
        obtain rfl := Except.ok.inj heq
        exact ⟨⟨hleft, hcovered⟩, rfl⟩

theorem delegate?_eq_some_iff {m : Mount} {name : String} {params : Params} {stem residual : String}
    {left : Params} :
    m.delegate? name params = some (stem, residual, left) ↔ name = qualify m.name residual ∧
      m.template.covered params (some rest) = true ∧
      (∃ text, Template.fillPieces params (some rest) m.template.pieces = .ok text ∧
        stem = Text.dropTrailing '/' (String.ofList text)) ∧ left = m.leftover params := by
  rw [← residualName?_eq_some_iff, delegate?]
  cases residualName? m.name name with
  | none => exact iff_of_false (fun h => Option.some_ne_none _ h.symm) (by simp)
  | some found =>
      simp only [Option.bind_eq_bind, Option.bind_some, Template.fill]
      cases m.template.covered params (some rest) with
      | false => exact iff_of_false (fun h => Option.some_ne_none _ h.symm) (by simp)
      | true =>
          cases Template.fillPieces params (some rest) m.template.pieces with
          | error e => exact iff_of_false (fun h => Option.some_ne_none _ h.symm) (by simp)
          | ok text =>
              constructor
              · intro h
                cases h
                exact ⟨rfl, rfl, ⟨text, rfl, rfl⟩, rfl⟩
              · rintro ⟨hname, _, ⟨text', heq, rfl⟩, rfl⟩
                cases hname
                rw [← Except.ok.inj heq]
                rfl

theorem get?_leftover (m : Mount) (params : Params) (k : String) :
    (m.leftover params).get? k = if k = rest then params.get? rest
      else if k ∈ m.template.names then none else params.get? k := by
  have hrestrict : (params.restrict fun name =>
      !m.template.names.contains name && some rest != some name).get? k =
      if k = rest then none else if k ∈ m.template.names then none else params.get? k := by
    rw [Params.get?_restrict]
    by_cases hk : k = rest
    · simp [hk]
    · have hk' : rest ≠ k := fun h => hk h.symm
      by_cases hmem : k ∈ m.template.names <;> simp [hk, hk', hmem]
  rw [leftover]
  cases hrest : params.get? rest with
  | none => exact hrestrict
  | some value =>
      rw [Params.get?_insert, hrestrict]
      split <;> rfl

/-- Filling a mount is filling its prefix, and then what stands for the rest. -/
theorem Shape.fillPieces_eq_ok_iff {registry : Registry} {m : Mount} {lead : List Piece}
    (hs : m.Shape registry lead) {params : Params} {blank : Option String} {text : List Char} :
    Template.fillPieces params blank m.template.pieces = .ok text ↔
      ∃ a b, Template.fillPieces params blank lead = .ok a ∧
        Template.fillPieces params blank restPieces = .ok b ∧ text = a ++ b := by
  rw [← Template.fillPieces_atoms, hs.pieces_eq, Template.fillPieces_append_eq_ok_iff]

theorem fillPieces_rest_blank (params : Params) :
    Template.fillPieces params (some rest) restPieces = .ok ['/'] := rfl

theorem fillPieces_rest {params : Params} {text : String}
    (h : params.get? rest = some (.str text)) :
    Template.fillPieces params none restPieces = .ok ('/' :: text.toList) := by
  have hhole : Template.fillPiece params none (.hole restHole) = .ok text.toList :=
    Template.fillPiece_hole nofun h rfl
  refine Template.fillPieces_eq_ok_iff.mpr ⟨[text.toList], .cons hhole .nil, ?_⟩
  simp [restPieces, Template.assemble]

theorem mem_prefixNames {m : Mount} {k : String} :
    k ∈ m.prefixHoles.map Hole.name ↔ k ∈ m.template.names ∧ k ≠ rest := by
  rw [Template.names, Template.names_eq_map_holes]
  simp only [List.mem_map, mem_prefixHoles]
  constructor
  · rintro ⟨h, ⟨hmem, hne⟩, rfl⟩
    exact ⟨⟨h, hmem, rfl⟩, hne⟩
  · rintro ⟨⟨h, hmem, rfl⟩, hne⟩
    exact ⟨h, ⟨hmem, hne⟩, rfl⟩

theorem get?_leftover_holes (m : Mount) (params : Params) (k : String) :
    (m.leftover params).get? k =
      if k ∈ m.prefixHoles.map Hole.name then none else params.get? k := by
  rw [get?_leftover]
  by_cases hrest : k = rest
  · subst hrest
    rw [if_pos rfl, if_neg (fun hin => (mem_prefixNames.mp hin).2 rfl)]
  · rw [if_neg hrest]
    by_cases hk : k ∈ m.template.names
    · rw [if_pos hk, if_pos (mem_prefixNames.mpr ⟨hk, hrest⟩)]
    · rw [if_neg hk, if_neg (fun hin => hk (mem_prefixNames.mp hin).1)]

/-- The prefix that a mount read is its stem when it delegates. -/
theorem stem_of_reads {m : Mount} {lead : List Piece} (hs : m.Shape .builtin lead)
    (hpath : ∀ h ∈ m.prefixHoles, h.converter ≠ Converter.path) {a : List Char}
    {as : List (String × Value)} (ha : Template.Reads lead a as) :
    Text.dropTrailing '/' (String.ofList (a ++ ['/'])) = String.ofList a := by
  have hlast : ∀ c ∈ a.getLast?, (c == '/') = false := by
    obtain ⟨us, hus, _⟩ := ha
    obtain ⟨hfits, rfl⟩ := Template.capturePieces?_sound hus
    by_cases hne : lead = []
    · subst hne
      simp [Template.assemble]
    · obtain ⟨c, hc, hslash⟩ := Template.getLast?_assemble hne hfits
        (fun h hmem _ hu => (Template.builtin_of_atoms? hs.lead_eq h hmem).getLast?_of_accepts
          (hpath h (hs.prefixHoles_eq ▸ hmem)) hu)
        (fun t ht => by
          obtain ⟨c, hc, rfl⟩ := Template.getLast?_of_literal hs.lead_eq ht
          exact ⟨c, rfl, by simpa using hs.trimmed c hc⟩)
      rw [hc]
      rintro d ⟨⟩
      simpa using hslash
  rw [Text.dropTrailing, String.toList_ofList, Text.trimEnd_append hlast (by simp)]

theorem urlPath?_eq (m : Mount) (name : String) (params : Params) :
    m.urlPath? name params = if m.isWhole name params then m.wholePath? params
      else match m.delegate? name params with
        | none => none
        | some (stem, residual, left) =>
          (m.target.urlPath? residual left).map fun u => { u with path := stem ++ u.path } := by
  rw [Mount.urlPath?.eq_def]
  cases m
  rfl

end Mount

namespace HostGate

/-- The parameters that a gate leaves to the nodes behind it. -/
def leftover (h : HostGate) (params : Params) : Params :=
  params.restrict fun name => !h.template.names.contains name && none != some name

theorem get?_leftover (h : HostGate) (params : Params) (k : String) :
    (h.leftover params).get? k = if k ∈ h.template.names then none else params.get? k := by
  rw [leftover, Params.get?_restrict]
  by_cases hmem : k ∈ h.template.names <;> simp [hmem]

theorem delegate?_eq_some_iff {h : HostGate} {name : String} {params : Params}
    {host residual : String} {left : Params} :
    h.delegate? name params = some (host, residual, left) ↔ name = qualify h.name residual ∧
      h.template.covered params none = true ∧
      (∃ text, Template.fillPieces params none h.template.pieces = .ok text ∧
        host = String.ofList text) ∧ left = h.leftover params := by
  rw [← residualName?_eq_some_iff, delegate?]
  cases residualName? h.name name with
  | none => exact iff_of_false (fun h => Option.some_ne_none _ h.symm) (by simp)
  | some found =>
      simp only [Option.bind_eq_bind, Option.bind_some, Template.fill]
      cases h.template.covered params none with
      | false => exact iff_of_false (fun h => Option.some_ne_none _ h.symm) (by simp)
      | true =>
          cases Template.fillPieces params none h.template.pieces with
          | error e => exact iff_of_false (fun h => Option.some_ne_none _ h.symm) (by simp)
          | ok text =>
              constructor
              · intro h
                cases h
                exact ⟨rfl, rfl, ⟨text, rfl, rfl⟩, rfl⟩
              · rintro ⟨hname, _, ⟨text', heq, rfl⟩, rfl⟩
                cases hname
                rw [← Except.ok.inj heq]
                rfl

theorem urlPath?_eq (h : HostGate) (name : String) (params : Params) :
    h.urlPath? name params = if h.isWhole name params then h.wholePath? params
      else match h.delegate? name params with
        | none => none
        | some (host, residual, left) =>
          (h.target.urlPath? residual left).map fun u => { u with host := some host } := by
  rw [HostGate.urlPath?.eq_def]
  cases h
  rfl

end HostGate

/-! ## The nodes that can answer -/

theorem Router.urlPath?_eq (r : Router) (name : String) (params : Params) :
    r.urlPath? name params = Node.firstUrlPath? r.nodes name params := by
  rw [Router.urlPath?.eq_def]
  cases r
  rfl

theorem Endpoint.urlPath?_router {e : Endpoint} {inner : Router} (h : e.target = .router inner)
    (name : String) (params : Params) : e.urlPath? name params = inner.urlPath? name params := by
  obtain ⟨_, _, target⟩ := e
  cases h
  rw [Endpoint.urlPath?]

/-- Nodes resolve a name as the first of them does that can. -/
theorem Node.firstUrlPath?_eq_some_iff {ns : List Node} {name : String} {params : Params}
    {u : UrlPath} : Node.firstUrlPath? ns name params = some u ↔
      ∃ before n after, ns = before ++ n :: after ∧
        (∀ k ∈ before, k.urlPath? name params = none) ∧ n.urlPath? name params = some u := by
  induction ns with
  | nil => exact iff_of_false (fun h => Option.some_ne_none _ h.symm) (by simp)
  | cons n ns ih =>
      rw [Node.firstUrlPath?]
      cases hn : n.urlPath? name params with
      | some v =>
          constructor
          · intro h
            exact ⟨[], n, ns, rfl, by simp, hn.trans h⟩
          · rintro ⟨before, k, after, heq, hbefore, hk⟩
            cases before with
            | nil =>
                obtain ⟨rfl, rfl⟩ := List.cons.inj heq
                exact hn.symm.trans hk
            | cons b before =>
                obtain ⟨rfl, rfl⟩ := List.cons.inj heq
                rw [hbefore n (List.mem_cons_self ..)] at hn
                cases hn
      | none =>
          refine ih.trans ⟨?_, ?_⟩
          · rintro ⟨before, k, after, rfl, hbefore, hk⟩
            exact ⟨n :: before, k, after, rfl, List.forall_mem_cons.mpr ⟨hn, hbefore⟩, hk⟩
          · rintro ⟨before, k, after, heq, hbefore, hk⟩
            cases before with
            | nil =>
                obtain ⟨rfl, rfl⟩ := List.cons.inj heq
                rw [hn] at hk
                cases hk
            | cons b before =>
                obtain ⟨rfl, rfl⟩ := List.cons.inj heq
                exact ⟨before, k, after, rfl, (List.forall_mem_cons.mp hbefore).2, hk⟩

theorem Endpoint.urlPath?_eq_some {e : Endpoint} {name : String} {params : Params} {u : UrlPath}
    (h : e.urlPath? name params = some u) :
    ∃ inner, e.target = .router inner ∧ inner.urlPath? name params = some u := by
  cases htarget : e.target with
  | router inner => exact ⟨inner, rfl, Endpoint.urlPath?_router htarget name params ▸ h⟩
  | _ =>
      obtain ⟨_, _, target⟩ := e
      cases htarget
      rw [Endpoint.urlPath?.eq_def] at h
      cases h

/-- A mount answers as a whole, or with what the nodes below it answer. -/
theorem Mount.urlPath?_eq_some {m : Mount} {name : String} {params : Params} {u : UrlPath}
    (h : m.urlPath? name params = some u) :
    (m.isWhole name params = true ∧ m.wholePath? params = some u) ∨
    m.isWhole name params = false ∧ ∃ stem residual left v,
      m.delegate? name params = some (stem, residual, left) ∧
      m.target.urlPath? residual left = some v ∧ u = { v with path := stem ++ v.path } := by
  rw [Mount.urlPath?_eq] at h
  cases hw : m.isWhole name params with
  | true =>
      rw [hw] at h
      exact Or.inl ⟨rfl, h⟩
  | false =>
      rw [hw] at h
      cases hd : m.delegate? name params with
      | none =>
          rw [hd] at h
          cases h
      | some d =>
          rw [hd] at h
          obtain ⟨stem, residual, left⟩ := d
          obtain ⟨v, hv, rfl⟩ := Option.map_eq_some_iff.mp h
          exact Or.inr ⟨rfl, stem, residual, left, v, rfl, hv, rfl⟩

theorem HostGate.urlPath?_eq_some {g : HostGate} {name : String} {params : Params} {u : UrlPath}
    (h : g.urlPath? name params = some u) :
    (g.isWhole name params = true ∧ g.wholePath? params = some u) ∨
    g.isWhole name params = false ∧ ∃ host residual left v,
      g.delegate? name params = some (host, residual, left) ∧
      g.target.urlPath? residual left = some v ∧ u = { v with host := some host } := by
  rw [HostGate.urlPath?_eq] at h
  cases hw : g.isWhole name params with
  | true =>
      rw [hw] at h
      exact Or.inl ⟨rfl, h⟩
  | false =>
      rw [hw] at h
      cases hd : g.delegate? name params with
      | none =>
          rw [hd] at h
          cases h
      | some d =>
          rw [hd] at h
          obtain ⟨host, residual, left⟩ := d
          obtain ⟨v, hv, rfl⟩ := Option.map_eq_some_iff.mp h
          exact Or.inr ⟨rfl, host, residual, left, v, rfl, hv, rfl⟩

/-- A subtree asked for something below its own name is not asked for as a whole. -/
theorem own_beq_qualify (own : Option String) (residual : String) :
    (own == some (qualify own residual)) = false := by
  cases own with
  | none => rfl
  | some own => simpa using own_ne_qualify own residual

theorem Mount.urlPath?_of_inner {m : Mount} {inner : Router} (ht : m.target.target = .router inner)
    {residual stem : String} {params left : Params} {u : UrlPath}
    (hd : m.delegate? (qualify m.name residual) params = some (stem, residual, left))
    (hu : inner.urlPath? residual left = some u) :
    m.urlPath? (qualify m.name residual) params = some { u with path := stem ++ u.path } := by
  have hwhole : m.isWhole (qualify m.name residual) params = false := by
    rw [Mount.isWhole, own_beq_qualify, Bool.false_and]
  rw [Mount.urlPath?_eq, hwhole, hd]
  simp only [Endpoint.urlPath?_router ht, hu]
  rfl

theorem HostGate.urlPath?_of_inner {g : HostGate} {inner : Router}
    (ht : g.target.target = .router inner) {residual host : String} {params left : Params}
    {u : UrlPath} (hd : g.delegate? (qualify g.name residual) params = some (host, residual, left))
    (hu : inner.urlPath? residual left = some u) :
    g.urlPath? (qualify g.name residual) params = some { u with host := some host } := by
  have hwhole : g.isWhole (qualify g.name residual) params = false := by
    rw [HostGate.isWhole, own_beq_qualify, Bool.false_and]
  rw [HostGate.urlPath?_eq, hwhole, hd]
  simp only [Endpoint.urlPath?_router ht, hu]
  rfl

mutual

theorem Router.mem_qualifiedNames : ∀ {r : Router} {name : String} {params : Params} {u : UrlPath},
    r.urlPath? name params = some u → name ∈ r.qualifiedNames
  | ⟨nodes, _, _, _⟩, _, _, _, h => by
      rw [Router.qualifiedNames]
      exact Node.mem_allQualifiedNames (Router.urlPath?_eq .. ▸ h)

theorem Endpoint.mem_qualifiedNames : ∀ {e : Endpoint} {name : String} {params : Params}
    {u : UrlPath}, e.urlPath? name params = some u → name ∈ e.qualifiedNames
  | ⟨_, _, .router r⟩, _, _, _, h => by
      obtain ⟨inner, hinner, hv⟩ := Endpoint.urlPath?_eq_some h
      cases hinner
      rw [Endpoint.qualifiedNames]
      exact Router.mem_qualifiedNames hv
  | ⟨_, _, .handler⟩, _, _, _, h => by
      obtain ⟨_, hnone, _⟩ := Endpoint.urlPath?_eq_some h
      cases hnone
  | ⟨_, _, .blocking⟩, _, _, _, h => by
      obtain ⟨_, hnone, _⟩ := Endpoint.urlPath?_eq_some h
      cases hnone
  | ⟨_, _, .session⟩, _, _, _, h => by
      obtain ⟨_, hnone, _⟩ := Endpoint.urlPath?_eq_some h
      cases hnone
  | ⟨_, _, .app⟩, _, _, _, h => by
      obtain ⟨_, hnone, _⟩ := Endpoint.urlPath?_eq_some h
      cases hnone

theorem Mount.mem_qualifiedNames : ∀ {m : Mount} {name : String} {params : Params} {u : UrlPath},
    m.urlPath? name params = some u → name ∈ m.qualifiedNames
  | ⟨path, template, target, own⟩, name, params, u, h => by
      rw [Mount.qualifiedNames, List.mem_append]
      rcases Mount.urlPath?_eq_some h with ⟨hwhole, _⟩ | ⟨_, stem, residual, left, v, hd, hv, _⟩
      · simp only [Mount.isWhole, Bool.and_eq_true, beq_iff_eq] at hwhole
        exact Or.inl (by simp [hwhole.1])
      · obtain ⟨hname, _⟩ := Mount.delegate?_eq_some_iff.mp hd
        exact Or.inr (hname ▸ List.mem_map_of_mem (Endpoint.mem_qualifiedNames hv))

theorem HostGate.mem_qualifiedNames : ∀ {g : HostGate} {name : String} {params : Params}
    {u : UrlPath}, g.urlPath? name params = some u → name ∈ g.qualifiedNames
  | ⟨template, target, own⟩, name, params, u, h => by
      rw [HostGate.qualifiedNames, List.mem_append]
      rcases HostGate.urlPath?_eq_some h with
        ⟨hwhole, _⟩ | ⟨_, host, residual, left, v, hd, hv, _⟩
      · simp only [HostGate.isWhole, Bool.and_eq_true, beq_iff_eq] at hwhole
        exact Or.inl (by simp [hwhole.1])
      · obtain ⟨hname, _⟩ := HostGate.delegate?_eq_some_iff.mp hd
        exact Or.inr (hname ▸ List.mem_map_of_mem (Endpoint.mem_qualifiedNames hv))

theorem Node.mem_qualifiedNames : ∀ {n : Node} {name : String} {params : Params} {u : UrlPath},
    n.urlPath? name params = some u → name ∈ n.qualifiedNames
  | .route r, name, params, u, h => by
      rw [Node.urlPath?] at h
      obtain ⟨hanswers, _⟩ := Route.urlPath?_eq_some_iff.mp h
      simp only [Route.answersTo, Bool.and_eq_true, beq_iff_eq] at hanswers
      simp [Node.qualifiedNames, hanswers.1.1]
  | .mount m, _, _, _, h => by
      rw [Node.urlPath?] at h
      rw [Node.qualifiedNames]
      exact Mount.mem_qualifiedNames h
  | .host g, _, _, _, h => by
      rw [Node.urlPath?] at h
      rw [Node.qualifiedNames]
      exact HostGate.mem_qualifiedNames h
  | .lifespan l, _, _, _, h => by
      rw [Node.urlPath?] at h
      cases h

theorem Node.mem_allQualifiedNames : ∀ {ns : List Node} {name : String} {params : Params}
    {u : UrlPath}, Node.firstUrlPath? ns name params = some u →
      name ∈ Node.allQualifiedNames ns
  | [], _, _, _, h => by
      rw [Node.firstUrlPath?] at h
      cases h
  | n :: ns, name, params, u, h => by
      rw [Node.firstUrlPath?] at h
      rw [Node.allQualifiedNames, List.mem_append]
      cases hn : n.urlPath? name params with
      | some v => exact Or.inl (Node.mem_qualifiedNames hn)
      | none =>
          rw [hn] at h
          exact Or.inr (Node.mem_allQualifiedNames h)

end

/-- Where the qualified names are distinct, an answer of one node is the answer of all. -/
theorem Node.firstUrlPath?_of_mem {ns : List Node} (hd : (Node.allQualifiedNames ns).Nodup)
    {n : Node} (hn : n ∈ ns) {name : String} {params : Params} {u : UrlPath}
    (h : n.urlPath? name params = some u) : Node.firstUrlPath? ns name params = some u := by
  induction ns with
  | nil => cases hn
  | cons k ns ih =>
      rw [Node.allQualifiedNames, List.nodup_append] at hd
      rw [Node.firstUrlPath?]
      rcases List.mem_cons.mp hn with rfl | hn
      · rw [h]
        rfl
      · have hrest := ih hd.2.1 hn
        cases hk : k.urlPath? name params with
        | none => exact hrest
        | some v =>
            exact absurd rfl (hd.2.2 _ (Node.mem_qualifiedNames hk) _
              (Node.mem_allQualifiedNames hrest))

theorem Node.nodup_qualifiedNames {ns : List Node} (hd : (Node.allQualifiedNames ns).Nodup)
    {n : Node} (hn : n ∈ ns) : n.qualifiedNames.Nodup := by
  induction ns with
  | nil => cases hn
  | cons k ns ih =>
      rw [Node.allQualifiedNames, List.nodup_append] at hd
      rcases List.mem_cons.mp hn with rfl | hn
      · exact hd.1
      · exact ih hd.2.1 hn

end Waymark
