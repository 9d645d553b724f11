import Mathlib.Data.List.Perm.Subperm
import Waymark.Proofs.Tree.Chains

/-!
# Reverse lookup finds what is asked for

Reverse lookup answers with the address of the first chain that is asked for
(`Router.urlPath?_eq_lookup`). So its way of looking, which at each node takes
parameters away, puts the rest of the path back and cuts the name, loses no
chain and no parameter.

Each kind of node has one lemma, which says that it answers for the chains that
start at it. A mount and a gate have two ways to answer, as a whole and by the
nodes below; they exclude each other, because a name is not its own continuation.
-/

namespace Waymark

/-! ## What the nodes answer -/

namespace Params

theorem isEmpty_restrict_iff {params : Params} {keep : String → Bool} :
    (params.restrict keep).isEmpty = true ↔ ∀ k ∈ params.keys, keep k = false := by
  unfold isEmpty restrict keys
  rw [List.isEmpty_iff, List.filter_eq_nil_iff, List.forall_mem_map]
  simp only [Bool.not_eq_true]

theorem mem_keys_erase {params : Params} {gone k : String} :
    k ∈ (params.erase gone).keys ↔ k ≠ gone ∧ k ∈ params.keys := by
  rw [← contains_iff, ← contains_iff, contains, contains, get?_erase]
  by_cases hk : k = gone <;> simp [hk]

/-- Parameters as many as the names and with all of the names have no others. -/
theorem mem_keys_iff_of_size {params : Params} {names : List String} (hnodup : names.Nodup)
    (hsize : params.size = names.length) (hall : ∀ k ∈ names, k ∈ params.keys) :
    ∀ k, k ∈ params.keys ↔ k ∈ names := by
  have hlength : params.keys.length ≤ names.length := by
    rw [← hsize, keys, List.length_map, size]
  have hperm := (List.subperm_of_subset hnodup hall).perm_of_length_le hlength
  exact fun k => hperm.symm.mem_iff

end Params

namespace Chain

theorem takes_singleton (n : Node) : takes [n] = n.holes.map Hole.name ++
    if n.subtree?.isSome then [Mount.rest] else [] := by
  unfold takes
  rw [List.flatMap_singleton]
  rfl

theorem asked_singleton_iff {n : Node} {asked : String} {params : Params} :
    Asked [n] asked params ↔ n.name? = some asked ∧ (takes [n]).Nodup ∧
      (∀ k, k ∈ params.keys ↔ k ∈ takes [n]) ∧
      ∀ h ∈ n.holes, (h.written? params).isSome = true := by
  have hname {own : String} (h : n.name? = some own) : name [n] = own := by
    unfold name
    rw [List.filterMap_cons_some h]
    rfl
  constructor
  · rintro ⟨hends, rfl, hnodup, hkeys, haccepted⟩
    obtain ⟨own, hown⟩ := Option.isSome_iff_exists.mp hends
    refine ⟨?_, hnodup, hkeys, haccepted n (List.mem_singleton_self n)⟩
    rw [hname hown]
    exact hown
  · rintro ⟨hown, hnodup, hkeys, haccepted⟩
    have hends : ([n].getLast?.bind Node.name?).isSome = true := Option.isSome_of_mem hown
    refine ⟨hends, hname hown, hnodup, hkeys, ?_⟩
    intro k hk
    obtain rfl := List.mem_singleton.mp hk
    exact haccepted

/-- A subtree as a whole takes what its holes take and the rest, which is no hole of it. -/
theorem asked_whole_iff {n : Node} (hsub : n.subtree?.isSome = true) {asked : String}
    {params : Params} : Asked [n] asked params ↔
      n.name? = some asked ∧ params.contains Mount.rest = true ∧
      (∀ h ∈ n.holes, h.name ≠ Mount.rest ∧ (h.written? params).isSome = true) ∧
      ∀ k ∈ params.keys, k = Mount.rest ∨ k ∈ n.holes.map Hole.name := by
  have htakes : takes [n] = n.holes.map Hole.name ++ [Mount.rest] := by
    rw [takes_singleton, if_pos hsub]
  rw [asked_singleton_iff, htakes]
  simp only [List.mem_append, List.mem_singleton]
  constructor
  · rintro ⟨hown, hnodup, hkeys, haccepted⟩
    have hne : ∀ h ∈ n.holes, h.name ≠ Mount.rest := fun h hmem =>
      (List.nodup_append.mp hnodup).2.2 _ (List.mem_map_of_mem hmem) _ (List.mem_singleton_self _)
    have hrest : Mount.rest ∈ params.keys := (hkeys _).mpr (Or.inr rfl)
    refine ⟨hown, Params.contains_iff.mpr hrest, ?_, fun k hk => ((hkeys k).mp hk).symm⟩
    exact fun h hmem => ⟨hne h hmem, haccepted h hmem⟩
  · rintro ⟨hown, hrest, hholes, hkeys⟩
    refine ⟨hown, ?_, fun k => ⟨fun hk => (hkeys k hk).symm, ?_⟩, fun h hmem => (hholes h hmem).2⟩
    · refine List.nodup_append.mpr ⟨n.nodup_names, List.nodup_singleton _, ?_⟩
      rintro k hk _ hk' rfl
      obtain ⟨h, hmem, rfl⟩ := List.mem_map.mp hk
      exact (hholes h hmem).1 (List.mem_singleton.mp hk')
    · rintro (hk | rfl)
      · obtain ⟨h, hmem, rfl⟩ := List.mem_map.mp hk
        exact Params.contains_iff.mp (Hole.contains_of_written (hholes h hmem).2)
      · exact Params.contains_iff.mp hrest

end Chain

open Chain

theorem Route.urlPath?_eq_lookup (q : Route) (asked : String) (params : Params) :
    q.urlPath? asked params = lookup [[.route q]] asked params := by
  have hnames : q.template.names = q.template.holes.map Hole.name :=
    Template.names_eq_map_holes _
  have htakes : takes [.route q] = q.template.holes.map Hole.name :=
    (takes_singleton _).trans (List.append_nil _)
  refine Option.ext fun u => ?_
  rw [Route.urlPath?_eq_some_iff, lookup_singleton, asked_singleton_iff, htakes]
  simp only [Route.answersTo, Bool.and_eq_true, beq_iff_eq, Template.covered_iff]
  constructor
  · rintro ⟨⟨⟨rfl, hsize⟩, hcovered⟩, text, hfill, rfl⟩
    have hvalues : ∀ h ∈ q.template.holes, params.contains h.name = true :=
      fun h hmem => hcovered h hmem (Option.some_ne_none _)
    obtain ⟨haccepted, rfl⟩ := (Template.fillPieces_eq_ok_iff_written
      fun h hmem => ⟨(Option.some_ne_none _).symm, hvalues h hmem⟩).mp hfill
    refine ⟨⟨rfl, (Node.route q).nodup_names, ?_, haccepted⟩, rfl⟩
    refine Params.mem_keys_iff_of_size (Node.route q).nodup_names ?_ ?_
    · rw [hsize, hnames]
    · exact List.forall_mem_map.mpr fun h hmem => Params.contains_iff.mp (hvalues h hmem)
  · rintro ⟨⟨hname, _, hkeys, haccepted⟩, rfl⟩
    have hvalues : ∀ h ∈ q.template.holes, params.contains h.name = true :=
      fun h hmem => Hole.contains_of_written (haccepted h hmem)
    refine ⟨⟨⟨(Option.some.inj hname).symm, ?_⟩, fun h hmem _ => hvalues h hmem⟩, _, ?_, rfl⟩
    · refine Params.size_eq_length q.template.distinct ?_
      intro k
      rw [Params.contains_iff, hkeys, ← hnames]
    · exact (Template.fillPieces_eq_ok_iff_written fun h hmem =>
        ⟨(Option.some_ne_none _).symm, hvalues h hmem⟩).mpr ⟨haccepted, rfl⟩

namespace Mount

theorem mem_names_of_shape {registry : Registry} {m : Mount} {lead : List Piece}
    (hs : m.Shape registry lead) {k : String} :
    k ∈ m.template.names ↔ k ∈ m.prefixHoles.map Hole.name ∨ k = rest := by
  have hrest : rest ∈ m.template.names := by
    rw [Template.names, ← Template.names_atoms, hs.pieces_eq, List.filterMap_append, names_rest]
    exact List.mem_append_right _ (List.mem_singleton_self _)
  rw [mem_prefixNames]
  by_cases hk : k = rest
  · subst hk
    simp [hrest]
  · simp [hk]

section Filling

variable {registry : Registry} {m : Mount} {lead : List Piece} {params : Params}
  {text : List Char} (hs : m.Shape registry lead)

include hs

/-- A mount fills its template behind its prefix with nothing when it delegates. -/
theorem fillPieces_blank_iff (hvalues : ∀ h ∈ m.prefixHoles, params.contains h.name = true) :
    Template.fillPieces params (some rest) m.template.pieces = .ok text ↔
      (∀ h ∈ m.prefixHoles, (h.written? params).isSome = true) ∧
      text = Template.written params m.prefixPieces ++ ['/'] := by
  have hlead : ∀ h ∈ Template.holesOf lead,
      some rest ≠ some h.name ∧ params.contains h.name = true := by
    intro h hmem
    refine ⟨fun heq => hs.name_ne_rest hmem (Option.some.inj heq).symm, ?_⟩
    exact hvalues h (hs.prefixHoles_eq ▸ hmem)
  rw [hs.fillPieces_eq_ok_iff, hs.prefixPieces_eq, hs.prefixHoles_eq]
  constructor
  · rintro ⟨a, b, ha, hb, rfl⟩
    obtain ⟨haccepted, rfl⟩ := (Template.fillPieces_eq_ok_iff_written hlead).mp ha
    obtain rfl : b = ['/'] := Except.ok.inj (hb.symm.trans (fillPieces_rest_blank params))
    exact ⟨haccepted, rfl⟩
  · rintro ⟨haccepted, rfl⟩
    have ha := (Template.fillPieces_eq_ok_iff_written hlead).mpr ⟨haccepted, rfl⟩
    exact ⟨_, _, ha, fillPieces_rest_blank params, rfl⟩

/-- As a whole it puts the bare rest there. -/
theorem fillPieces_wholly_iff (hvalues : ∀ h ∈ m.prefixHoles, params.contains h.name = true) :
    Template.fillPieces (wholly params) none m.template.pieces = .ok text ↔
      (∀ h ∈ m.prefixHoles, (h.written? params).isSome = true) ∧
      text = Template.written params m.prefixPieces ++ '/' :: (bareRest params).toList := by
  have hget (k : String) : (wholly params).get? k =
      if k = rest then some (.str (bareRest params)) else params.get? k := Params.get?_insert ..
  have hbehind : Template.fillPieces (wholly params) none restPieces =
      .ok ('/' :: (bareRest params).toList) := fillPieces_rest (by rw [hget, if_pos rfl])
  have hkeep : ∀ h ∈ Template.holesOf lead, (wholly params).get? h.name = params.get? h.name := by
    intro h hmem
    rw [hget, if_neg (hs.name_ne_rest hmem)]
  have hlead : ∀ h ∈ Template.holesOf lead,
      none ≠ some h.name ∧ (wholly params).contains h.name = true := by
    intro h hmem
    refine ⟨(Option.some_ne_none _).symm, ?_⟩
    rw [Params.contains, hkeep h hmem]
    exact hvalues h (hs.prefixHoles_eq ▸ hmem)
  have haccepted : (∀ h ∈ Template.holesOf lead, (h.written? (wholly params)).isSome = true) ↔
      ∀ h ∈ Template.holesOf lead, (h.written? params).isSome = true :=
    forall₂_congr fun h hmem => by rw [Hole.written?_congr (hkeep h hmem)]
  rw [hs.fillPieces_eq_ok_iff, hs.prefixPieces_eq, hs.prefixHoles_eq, ← haccepted,
    ← Template.written_congr fun h hmem => Hole.written?_congr (hkeep h hmem)]
  constructor
  · rintro ⟨a, b, ha, hb, rfl⟩
    obtain ⟨hall, rfl⟩ := (Template.fillPieces_eq_ok_iff_written hlead).mp ha
    obtain rfl := Except.ok.inj (hb.symm.trans hbehind)
    exact ⟨hall, rfl⟩
  · rintro ⟨hall, rfl⟩
    have ha := (Template.fillPieces_eq_ok_iff_written hlead).mpr ⟨hall, rfl⟩
    exact ⟨_, _, ha, hbehind, rfl⟩

end Filling

variable {m : Mount} {asked : String} {params : Params}

/-- A mount by itself is asked for as a whole: by its own name, with a value for the rest. -/
theorem isWhole_of_asked (h : Asked [.mount m] asked params) : m.isWhole asked params = true := by
  obtain ⟨hown, hrest, _⟩ := (asked_whole_iff rfl).mp h
  have hown' : m.name = some asked := hown
  rw [isWhole, hrest, hown']
  simp

theorem address_mount (m : Mount) (params : Params) : address params [.mount m] =
    ⟨String.ofList (Template.written params m.prefixPieces ++ '/' :: (bareRest params).toList),
      none, none⟩ := by
  have hpath : String.ofList (Template.written params m.prefixPieces ++
      '/' :: (bareRest params).toList) = (Node.mount m).endPath params := by
    rw [← String.toList_inj]
    simp [Node.endPath]
  rw [hpath]
  rfl

theorem wholePath?_eq_some_iff_written (hm : m.Standard) (hrest : params.contains rest = true)
    {u : UrlPath} : m.wholePath? params = some u ↔
      (∀ h ∈ m.prefixHoles, (h.written? params).isSome = true) ∧
      (∀ k ∈ params.keys, k = rest ∨ k ∈ m.prefixHoles.map Hole.name) ∧
      u = address params [.mount m] := by
  obtain ⟨registry, hpath, hreg⟩ := hm
  obtain ⟨lead, hs⟩ := hreg.shape hpath
  have hkeys : (wholly params).keys = params.keys := by
    rw [wholly, Params.keys_insert, if_pos (Params.contains_iff.mp hrest)]
  have hcovered : m.template.covered (wholly params) (some rest) = true ↔
      ∀ h ∈ m.prefixHoles, params.contains h.name = true := by
    simp only [Template.covered_iff, Params.contains_iff, hkeys, mem_prefixHoles, and_imp,
      ne_eq, Option.some.injEq]
  have hempty : ((wholly params).restrict fun name =>
      !m.template.names.contains name && none != some name).isEmpty = true ↔
      ∀ k ∈ params.keys, k = rest ∨ k ∈ m.prefixHoles.map Hole.name := by
    rw [Params.isEmpty_restrict_iff, hkeys]
    refine forall₂_congr fun k _ => ?_
    have hin : (!m.template.names.contains k && none != some k) = false ↔
        k ∈ m.template.names := by simp
    rw [hin, mem_names_of_shape hs, or_comm]
  rw [wholePath?_eq_some_iff, hcovered, hempty, address_mount]
  constructor
  · rintro ⟨hvalues, hall, text, hfill, rfl⟩
    obtain ⟨haccepted, rfl⟩ := (fillPieces_wholly_iff hs hvalues).mp hfill
    exact ⟨haccepted, hall, rfl⟩
  · rintro ⟨haccepted, hall, rfl⟩
    have hvalues : ∀ h ∈ m.prefixHoles, params.contains h.name = true :=
      fun h hmem => Hole.contains_of_written (haccepted h hmem)
    exact ⟨hvalues, hall, _, (fillPieces_wholly_iff hs hvalues).mpr ⟨haccepted, rfl⟩, rfl⟩

theorem wholePath?_eq_lookup (hm : m.Standard) (hwhole : m.isWhole asked params = true) :
    m.wholePath? params = lookup [[.mount m]] asked params := by
  rw [isWhole, Bool.and_eq_true, beq_iff_eq] at hwhole
  obtain ⟨hown, hrest⟩ := hwhole
  refine Option.ext fun u => ?_
  rw [wholePath?_eq_some_iff_written hm hrest, lookup_singleton, asked_whole_iff rfl]
  constructor
  · rintro ⟨haccepted, hall, rfl⟩
    refine ⟨⟨hown, hrest, fun h hmem => ⟨?_, haccepted h hmem⟩, hall⟩, rfl⟩
    exact (mem_prefixHoles.mp hmem).2
  · rintro ⟨⟨_, _, hholes, hall⟩, rfl⟩
    exact ⟨fun h hmem => (hholes h hmem).2, hall, rfl⟩

theorem delegate?_eq_some_iff_written (hm : m.Standard) {stem residual : String} {left : Params} :
    m.delegate? asked params = some (stem, residual, left) ↔
      asked = qualify m.name residual ∧ (∀ h ∈ m.prefixHoles, (h.written? params).isSome = true) ∧
      stem = (Node.mount m).stem params ∧ left = m.leftover params := by
  obtain ⟨registry, hpath, hreg⟩ := hm
  obtain ⟨lead, hs⟩ := hreg.shape hpath
  have hcovered_iff : m.template.covered params (some rest) = true ↔
      ∀ h ∈ m.prefixHoles, params.contains h.name = true := by
    simp only [Template.covered_iff, mem_prefixHoles, and_imp, ne_eq, Option.some.injEq]
  have hstem : Text.dropTrailing '/'
      (String.ofList (Template.written params m.prefixPieces ++ ['/'])) =
      (Node.mount m).stem params := by
    rw [Text.dropTrailing, String.toList_ofList, Text.trimEnd_append_of_forall (by simp)]
    simp only [Node.stem, Text.dropTrailing, String.toList_ofList]
  rw [delegate?_eq_some_iff, hcovered_iff]
  constructor
  · rintro ⟨hname, hvalues, ⟨text, hfill, rfl⟩, hleft⟩
    obtain ⟨haccepted, rfl⟩ := (fillPieces_blank_iff hs hvalues).mp hfill
    exact ⟨hname, haccepted, hstem, hleft⟩
  · rintro ⟨hname, haccepted, rfl, hleft⟩
    have hvalues : ∀ h ∈ m.prefixHoles, params.contains h.name = true :=
      fun h hmem => Hole.contains_of_written (haccepted h hmem)
    refine ⟨hname, hvalues, ⟨_, ?_, hstem.symm⟩, hleft⟩
    exact (fillPieces_blank_iff hs hvalues).mpr ⟨haccepted, rfl⟩

theorem urlPath?_eq_lookup (hm : m.Standard)
    (hcs : ∀ ns ∈ m.target.chains, ns ≠ [] ∧ ∀ k ∈ ns, k.Standard)
    (hbelow : ∀ asked params,
      m.target.urlPath? asked params = lookup m.target.chains asked params)
    (asked : String) (params : Params) :
    m.urlPath? asked params = lookup (Node.mount m).chains asked params := by
  have hleft := m.get?_leftover_holes params
  rw [urlPath?_eq, Node.chains, chainsBelow_eq]
  cases hwhole : m.isWhole asked params with
  | true =>
      have hown : m.name = some asked := by
        rw [isWhole, Bool.and_eq_true, beq_iff_eq] at hwhole
        exact hwhole.1
      rw [lookup_of_own (n := .mount m) (fun ns hns => (hcs ns hns).1) hleft hown,
        ← wholePath?_eq_lookup hm hwhole]
      rfl
  | false =>
      have hself : ¬ Asked [.mount m] asked params :=
        fun hasked => Bool.false_ne_true (hwhole.symm.trans (isWhole_of_asked hasked))
      rw [lookup_of_not_asked hself]
      cases hd : m.delegate? asked params with
      | none =>
          refine (lookup_below_eq_none (fun ns hns => (hcs ns hns).1) hleft ?_).symm
          intro residual hname haccepted
          have hsome := (delegate?_eq_some_iff_written hm).mpr ⟨hname, haccepted, rfl, rfl⟩
          cases hd.symm.trans hsome
      | some d =>
          obtain ⟨stem, residual, left⟩ := d
          obtain ⟨hname, haccepted, rfl, rfl⟩ := (delegate?_eq_some_iff_written hm).mp hd
          rw [lookup_below (n := .mount m) hcs hleft hname haccepted, ← hbelow]
          rfl

end Mount

namespace HostGate

variable {g : HostGate} {asked : String} {params : Params}

theorem isWhole_of_asked (h : Asked [.host g] asked params) : g.isWhole asked params = true := by
  obtain ⟨hown, hrest, _⟩ := (asked_whole_iff rfl).mp h
  have hown' : g.name = some asked := hown
  rw [isWhole, hrest, hown']
  simp

theorem wholePath?_eq_some_iff {u : UrlPath} : g.wholePath? params = some u ↔
    (∀ h ∈ g.template.holes, (params.erase Mount.rest).contains h.name = true) ∧
      (∀ k ∈ (params.erase Mount.rest).keys, k ∈ g.template.names) ∧
      ∃ text, Template.fillPieces (params.erase Mount.rest) none g.template.pieces = .ok text ∧
        u = ⟨Mount.restOf params, none, some (String.ofList text)⟩ := by
  have hcovered : g.template.covered (params.erase Mount.rest) none = true ↔
      ∀ h ∈ g.template.holes, (params.erase Mount.rest).contains h.name = true := by
    simp [Template.covered_iff]
  have hempty : ((params.erase Mount.rest).restrict fun name =>
      !g.template.names.contains name && none != some name).isEmpty = true ↔
      ∀ k ∈ (params.erase Mount.rest).keys, k ∈ g.template.names := by
    simp [Params.isEmpty_restrict_iff]
  rw [← hcovered, ← hempty, wholePath?]
  simp only [Template.fill]
  cases Template.fillPieces (params.erase Mount.rest) none g.template.pieces with
  | error e =>
      refine iff_of_false ?_ (by simp)
      intro h
      cases h
  | ok text =>
      change (if _ then _ else none) = some u ↔ _
      rw [Option.ite_none_right_eq_some, Bool.and_eq_true, Option.some.injEq]
      constructor
      · rintro ⟨⟨hleft, hall⟩, rfl⟩
        exact ⟨hall, hleft, text, rfl, rfl⟩
      · rintro ⟨hall, hleft, text', heq, rfl⟩
        obtain rfl := Except.ok.inj heq
        exact ⟨⟨hleft, hall⟩, rfl⟩

theorem wholePath?_eq_some_iff_written {u : UrlPath} : g.wholePath? params = some u ↔
    (∀ h ∈ g.template.holes, h.name ≠ Mount.rest ∧ (h.written? params).isSome = true) ∧
      (∀ k ∈ params.keys, k = Mount.rest ∨ k ∈ g.template.holes.map Hole.name) ∧
      u = address params [.host g] := by
  have hkeep {h : Hole} (hne : h.name ≠ Mount.rest) :
      (params.erase Mount.rest).get? h.name = params.get? h.name := by
    rw [Params.get?_erase, if_neg hne]
  have hnames : g.template.names = g.template.holes.map Hole.name :=
    Template.names_eq_map_holes _
  have hall : (∀ k ∈ (params.erase Mount.rest).keys, k ∈ g.template.names) ↔
      ∀ k ∈ params.keys, k = Mount.rest ∨ k ∈ g.template.holes.map Hole.name := by
    simp only [Params.mem_keys_erase, hnames, and_imp, or_iff_not_imp_left]
    exact forall_congr' fun k => forall_comm
  rw [wholePath?_eq_some_iff, hall]
  constructor
  · rintro ⟨hvalues, hall, text, hfill, rfl⟩
    have hne : ∀ h ∈ g.template.holes, h.name ≠ Mount.rest :=
      fun h hmem => (Params.mem_keys_erase.mp (Params.contains_iff.mp (hvalues h hmem))).1
    obtain ⟨haccepted, rfl⟩ := (Template.fillPieces_eq_ok_iff_written fun h hmem =>
      ⟨(Option.some_ne_none _).symm, hvalues h hmem⟩).mp hfill
    refine ⟨fun h hmem => ⟨hne h hmem, ?_⟩, hall, ?_⟩
    · rw [← Hole.written?_congr (hkeep (hne h hmem))]
      exact haccepted h hmem
    · rw [Template.written_congr fun h hmem => Hole.written?_congr (hkeep (hne h hmem))]
      rfl
  · rintro ⟨hholes, hall, rfl⟩
    have hvalues : ∀ h ∈ g.template.holes, (params.erase Mount.rest).contains h.name = true := by
      intro h hmem
      rw [Params.contains, hkeep (hholes h hmem).1]
      exact Hole.contains_of_written (hholes h hmem).2
    refine ⟨hvalues, hall, _, (Template.fillPieces_eq_ok_iff_written fun h hmem =>
      ⟨(Option.some_ne_none _).symm, hvalues h hmem⟩).mpr ⟨?_, rfl⟩, ?_⟩
    · intro h hmem
      rw [Hole.written?_congr (hkeep (hholes h hmem).1)]
      exact (hholes h hmem).2
    · rw [Template.written_congr fun h hmem => Hole.written?_congr (hkeep (hholes h hmem).1)]
      rfl

theorem wholePath?_eq_lookup (hwhole : g.isWhole asked params = true) :
    g.wholePath? params = lookup [[.host g]] asked params := by
  rw [isWhole, Bool.and_eq_true, beq_iff_eq] at hwhole
  obtain ⟨hown, hrest⟩ := hwhole
  refine Option.ext fun u => ?_
  rw [wholePath?_eq_some_iff_written, lookup_singleton, asked_whole_iff rfl]
  constructor
  · rintro ⟨hholes, hall, rfl⟩
    exact ⟨⟨hown, hrest, hholes, hall⟩, rfl⟩
  · rintro ⟨⟨_, _, hholes, hall⟩, rfl⟩
    exact ⟨hholes, hall, rfl⟩

theorem delegate?_eq_some_iff_written {host residual : String} {left : Params} :
    g.delegate? asked params = some (host, residual, left) ↔
      asked = qualify g.name residual ∧
      (∀ h ∈ g.template.holes, (h.written? params).isSome = true) ∧
      host = String.ofList (Template.written params g.template.pieces) ∧
      left = g.leftover params := by
  have hcovered : g.template.covered params none = true ↔
      ∀ h ∈ g.template.holes, params.contains h.name = true := by
    simp [Template.covered_iff]
  rw [delegate?_eq_some_iff, hcovered]
  constructor
  · rintro ⟨hname, hvalues, ⟨text, hfill, rfl⟩, hleft⟩
    obtain ⟨haccepted, rfl⟩ := (Template.fillPieces_eq_ok_iff_written fun h hmem =>
      ⟨(Option.some_ne_none _).symm, hvalues h hmem⟩).mp hfill
    exact ⟨hname, haccepted, rfl, hleft⟩
  · rintro ⟨hname, haccepted, rfl, hleft⟩
    have hvalues : ∀ h ∈ g.template.holes, params.contains h.name = true :=
      fun h hmem => Hole.contains_of_written (haccepted h hmem)
    refine ⟨hname, hvalues, ⟨_, ?_, rfl⟩, hleft⟩
    exact (Template.fillPieces_eq_ok_iff_written fun h hmem =>
      ⟨(Option.some_ne_none _).symm, hvalues h hmem⟩).mpr ⟨haccepted, rfl⟩

theorem urlPath?_eq_lookup
    (hcs : ∀ ns ∈ g.target.chains, ns ≠ [] ∧ ∀ k ∈ ns, k.Standard)
    (hbelow : ∀ asked params,
      g.target.urlPath? asked params = lookup g.target.chains asked params)
    (asked : String) (params : Params) :
    g.urlPath? asked params = lookup (Node.host g).chains asked params := by
  have hleft := g.get?_leftover_holes params
  rw [urlPath?_eq, Node.chains, chainsBelow_eq]
  cases hwhole : g.isWhole asked params with
  | true =>
      have hown : g.name = some asked := by
        rw [isWhole, Bool.and_eq_true, beq_iff_eq] at hwhole
        exact hwhole.1
      rw [lookup_of_own (n := .host g) (fun ns hns => (hcs ns hns).1) hleft hown,
        ← wholePath?_eq_lookup hwhole]
      rfl
  | false =>
      have hself : ¬ Asked [.host g] asked params :=
        fun hasked => Bool.false_ne_true (hwhole.symm.trans (isWhole_of_asked hasked))
      rw [lookup_of_not_asked hself]
      cases hd : g.delegate? asked params with
      | none =>
          refine (lookup_below_eq_none (fun ns hns => (hcs ns hns).1) hleft ?_).symm
          intro residual hname haccepted
          have hsome := delegate?_eq_some_iff_written.mpr ⟨hname, haccepted, rfl, rfl⟩
          cases hd.symm.trans hsome
      | some d =>
          obtain ⟨host, residual, left⟩ := d
          obtain ⟨hname, haccepted, rfl, rfl⟩ := delegate?_eq_some_iff_written.mp hd
          have hgate : ∀ u : UrlPath, { u with
              host := some (String.ofList (Template.written params g.template.pieces)) } =
              { u with
                path := (Node.host g).stem params ++ u.path
                host := ((Node.host g).host? params).or u.host } := by
            intro u
            simp [Node.stem, Node.host?]
          rw [lookup_below (n := .host g) hcs hleft hname haccepted, ← hbelow, ← funext hgate]
          rfl

end HostGate

/-! ## The tree -/

theorem Node.standard_below {n : Node} {e : Endpoint} (he : n.subtree? = some e)
    (h : ∀ ns ∈ n.chains, ∀ k ∈ ns, k.Standard) :
    ∀ ns ∈ e.chains, ns ≠ [] ∧ ∀ k ∈ ns, k.Standard := by
  intro ns hns
  constructor
  · obtain ⟨inner, _, hin⟩ := Endpoint.mem_chains_iff.mp hns
    cases Router.mem_chains_iff.mp hin <;> exact List.cons_ne_nil _ _
  · intro k hk
    have hin : n :: ns ∈ n.chains := Node.mem_chains_iff.mpr (Or.inr ⟨e, he, ns, hns, rfl⟩)
    exact h _ hin k (List.mem_cons_of_mem n hk)

theorem Router.mem_chains_of_mem {r : Router} {n : Node} (hn : n ∈ r.nodes) {ns : List Node}
    (hns : ns ∈ n.chains) : ns ∈ r.chains := by
  rw [Router.chains_eq, Node.mem_allChains_iff]
  exact ⟨n, hn, hns⟩

theorem Node.firstUrlPath?_eq_lookup {ns : List Node} {asked : String} {params : Params}
    (h : ∀ n ∈ ns, n.urlPath? asked params = lookup n.chains asked params) :
    Node.firstUrlPath? ns asked params = lookup (Node.allChains ns) asked params := by
  induction ns with
  | nil =>
      rw [Node.firstUrlPath?, Node.allChains]
      rfl
  | cons n ns ih =>
      obtain ⟨hn, hns⟩ := List.forall_mem_cons.mp h
      rw [Node.firstUrlPath?, Node.allChains, lookup_append, hn, ih hns]
      cases lookup n.chains asked params <;> rfl

theorem Router.urlPath?_eq_lookup_of_nodes {r : Router} {asked : String} {params : Params}
    (h : ∀ n ∈ r.nodes, n.urlPath? asked params = lookup n.chains asked params) :
    r.urlPath? asked params = lookup r.chains asked params := by
  rw [Router.urlPath?_eq, Router.chains_eq]
  exact Node.firstUrlPath?_eq_lookup h

theorem Endpoint.urlPath?_eq_lookup {e : Endpoint} {asked : String} {params : Params}
    (h : ∀ inner, e.target = .router inner →
      inner.urlPath? asked params = lookup inner.chains asked params) :
    e.urlPath? asked params = lookup e.chains asked params := by
  obtain ⟨name, handle, target⟩ := e
  cases target with
  | router inner =>
      rw [Endpoint.urlPath?_router rfl, Endpoint.chains]
      exact h inner rfl
  | _ =>
      rw [Endpoint.urlPath?.eq_def, Endpoint.chains.eq_def]
      rfl

/-- A node answers for the chains that start at it. -/
theorem Node.urlPath?_eq_lookup : ∀ (n : Node), (∀ ns ∈ n.chains, ∀ k ∈ ns, k.Standard) →
    ∀ (asked : String) (params : Params),
      n.urlPath? asked params = lookup n.chains asked params
  | .route q, _, asked, params => by
      rw [Node.urlPath?, Node.chains]
      exact q.urlPath?_eq_lookup asked params
  | .mount m, h, asked, params => by
      have hcs := Node.standard_below rfl h
      have hm : m.Standard := h [.mount m] (Node.mem_chains_iff.mpr (Or.inl rfl)) _
        (List.mem_singleton_self _) m rfl
      rw [Node.urlPath?]
      refine Mount.urlPath?_eq_lookup hm hcs (fun asked params => ?_) asked params
      refine Endpoint.urlPath?_eq_lookup fun inner ht => ?_
      refine Router.urlPath?_eq_lookup_of_nodes fun k hk => ?_
      refine Node.urlPath?_eq_lookup k (fun ns hns => ?_) asked params
      have hin := Router.mem_chains_of_mem hk hns
      exact (hcs ns (Endpoint.mem_chains_iff.mpr ⟨inner, ht, hin⟩)).2
  | .host g, h, asked, params => by
      have hcs := Node.standard_below rfl h
      rw [Node.urlPath?]
      refine HostGate.urlPath?_eq_lookup hcs (fun asked params => ?_) asked params
      refine Endpoint.urlPath?_eq_lookup fun inner ht => ?_
      refine Router.urlPath?_eq_lookup_of_nodes fun k hk => ?_
      refine Node.urlPath?_eq_lookup k (fun ns hns => ?_) asked params
      have hin := Router.mem_chains_of_mem hk hns
      exact (hcs ns (Endpoint.mem_chains_iff.mpr ⟨inner, ht, hin⟩)).2
  | .lifespan l, _, asked, params => by
      rw [Node.urlPath?, Node.chains]
      refine (lookup_eq_none_iff.mpr ?_).symm
      rintro ns hns ⟨hends, _⟩
      obtain rfl := List.mem_singleton.mp hns
      cases hends
  decreasing_by all_goals exact Node.sizeOf_subtree rfl ht hk

namespace Router

theorem Chain.contains {r : Router} {ns : List Node} (h : r.Chain ns) :
    ∀ n ∈ ns, r.Contains n := by
  induction h with
  | last hn =>
      intro k hk
      obtain rfl := List.mem_singleton.mp hk
      exact .here hn
  | @cons r n e inner ns hn he ht _ ih =>
      intro k hk
      rcases List.mem_cons.mp hk with rfl | hk
      · exact .here hn
      · have he' : n.endpoint? = some e := by
          cases n with
          | route q => cases he
          | mount m => exact he
          | host g => exact he
          | lifespan l => cases he
        exact .behind hn he' ht (ih k hk)

theorem urlPath?_eq_lookup {r : Router} (hm : ∀ m, r.Contains (.mount m) → m.Standard)
    (asked : String) (params : Params) :
    r.urlPath? asked params = lookup r.chains asked params := by
  refine urlPath?_eq_lookup_of_nodes fun n hn => ?_
  refine n.urlPath?_eq_lookup (fun ns hns k hk m hmount => ?_) asked params
  have hchain := mem_chains_iff.mp (mem_chains_of_mem hn hns)
  exact hm m (hmount ▸ hchain.contains k hk)

/-- Reverse lookup is sound and complete, and loses no parameter. It has an answer for a name and
parameters if a chain of the tree is asked for by them: the names on it make up the name, and the
parameters are just those that it takes. The answer is the address of the first such chain, in the
order in which the nodes were registered and depth first. -/
theorem urlPath?_iff_asked (r : Router) (hm : ∀ m, r.Contains (.mount m) → m.Standard)
    (asked : String) (params : Params) :
    (∀ ns, ns ∈ r.chains ↔ r.Chain ns) ∧
    ((∃ u, r.urlPath? asked params = some u) ↔
      ∃ ns, r.Chain ns ∧ Waymark.Chain.Asked ns asked params) ∧
    ∀ u, r.urlPath? asked params = some u ↔ ∃ before ns after,
      r.chains = before ++ ns :: after ∧ Waymark.Chain.Asked ns asked params ∧
      (∀ k ∈ before, ¬ Waymark.Chain.Asked k asked params) ∧
      u = Waymark.Chain.address params ns := by
  have hlookup := urlPath?_eq_lookup hm asked params
  refine ⟨fun ns => mem_chains_iff, ?_, ?_⟩
  · rw [hlookup, ← Option.isSome_iff_exists, ← not_iff_not, Option.not_isSome_iff_eq_none,
      lookup_eq_none_iff]
    simp only [mem_chains_iff, not_exists, not_and]
  · intro u
    rw [hlookup, lookup_eq_some_iff]

end Router

namespace Site

/-- A post is addressed by its number and name, through the mount of the users. -/
theorem urlPath?_iff_asked_site :
    root.urlPath? "users:post" (.ofList [("id", .int 7), ("slug", .str "a")]) =
      some ⟨"/users/7/posts/a", some .http, none⟩ := by
  have hanswer := (Router.urlPath?_iff_asked root (fun _ => standard_of_contains) "users:post"
    (.ofList [("id", .int 7), ("slug", .str "a")])).2.2 ⟨"/users/7/posts/a", some .http, none⟩
  refine hanswer.mpr ⟨[[.mount users]], [.mount users, .route post], [], rfl, ?_, ?_, ?_⟩
  · decide +kernel
  · decide +kernel
  · decide +kernel

end Site

end Waymark
