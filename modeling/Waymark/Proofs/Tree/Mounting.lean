import Waymark.Proofs.Tree.Registered

/-!
# Mounting is putting templates together

A route below mounts judges a scope as the one route would whose template is
the prefixes of the mounts, outermost first, with the route's own template
behind them (`verdictBelow_eq`). Walking down the mounts matches in stages:
each stage takes the longest rest it can, decodes what it captured, and hands
on the rest as a path of its own. The one route matches all of it at once. The
two agree because no hole of a prefix takes a slash: the number of slashes in
a prefix says where its stage ends, in the joint template as in its own.
-/

namespace Waymark

/-! ## One mount -/

/-- The verdicts are of one level and give the scope the same parameters. -/
def Verdict.Agrees (v w : Verdict) : Prop :=
  v.level = w.level ∧ v.child.params = w.child.params

namespace Mount

/-- The scope behind a mount that cuts the path: only what the mount adds is different. -/
theorem path_derive (m : Mount) (s : Scope) (a w : List Char) (as : List (String × Value)) :
    (s.derive (m.contribution s a w as)).path.toList = '/' :: w := String.toList_ofList

/-- A mount in front of a route does what its prefix does in front of the route's template. -/
theorem verdict_joint {registry : Registry} {m : Mount} {lead : List Piece}
    (hs : m.Shape registry lead) (hfree : Template.SlashFree lead) {r : Route}
    (hled : Template.SlashLed (Template.atoms r.template.pieces)) {t : Template}
    (ht : Template.atoms t.pieces = lead ++ Template.atoms r.template.pieces) {s : Scope}
    (hk : s.kind.isRouted = true) (hline : '\n' ∉ s.path.toList) :
    Verdict.Agrees
      (if (m.verdict s).level = .full then r.verdict (s.derive (m.verdict s).child) else .none)
      (Route.verdict { r with template := t } s) := by
  have hjoint (cs : List Char) (es : List (String × Value)) : Template.Reads t.pieces cs es ↔
      ∃ a b as bs, cs = a ++ b ∧ Template.Reads lead a as ∧
        Template.Reads r.template.pieces b bs ∧ es = as ++ bs := by
    rw [← Template.reads_atoms, ht, Template.reads_append_iff hfree hled]
    simp only [Template.reads_atoms]
  rcases Route.verdict_cases { r with template := t } s with
    ⟨hserves, es, hes, heq⟩ | ⟨hno, hlevel, hchild⟩
  case inl =>
    obtain ⟨a, b, as, bs, hpath, ha, hb, rfl⟩ := (hjoint _ _).mp hes
    obtain ⟨us, hus, _⟩ := Template.reads_atoms.mpr hb
    obtain ⟨w, rfl⟩ := List.head?_eq_some_iff.mp (hled _ _ hus)
    have hw : '\n' ∉ w := fun hmem => hline (by rw [hpath]; simp [hmem])
    have hmount : m.verdict s = .full (m.contribution s a w as) :=
      verdict_of_cut hs hk hpath ha (hpath ▸ hs.reads_of_slashFree hfree hw ha)
    have hroute : r.verdict (s.derive (m.contribution s a w as)) =
        r.verdictOn (s.derive (m.contribution s a w as)) bs := by
      have hserves' : r.serves (s.derive (m.contribution s a w as)).kind = true := hserves
      exact Route.verdict_of_reads hserves' (by rwa [path_derive])
    rw [hmount, heq]
    simp only [Verdict.level, Verdict.child, if_true, hroute]
    -- the method decides between the two levels, and a mount leaves it as it is
    have hmethod : r.refusesMethod (s.derive (m.contribution s a w as)) =
        Route.refusesMethod { r with template := t } s := rfl
    have hparams : ((s.params.merge (Params.ofList as)).merge (Params.ofList bs)) =
        s.params.merge (Params.ofList (as ++ bs)) := (Params.merge_ofList_append _ hes.nodup).symm
    simp only [Route.verdictOn, hmethod]
    split
    · exact ⟨rfl, congrArg some hparams⟩
    · exact ⟨rfl, congrArg some hparams⟩
  case inr =>
    rw [Verdict.Agrees, hlevel, hchild]
    rcases verdict_cases hs s with ⟨_, a, w, as, hpath, _, ha, hmount⟩ | ⟨_, hnone, _⟩
    · rw [hmount]
      simp only [Verdict.level, Verdict.child, if_true]
      rcases Route.verdict_cases r (s.derive (m.contribution s a w as)) with
        ⟨hserves, bs, hbs, _⟩ | ⟨_, hlevel', hchild'⟩
      · rw [path_derive] at hbs
        exact absurd ((hjoint _ _).mpr ⟨a, '/' :: w, as, bs, hpath, ha, hbs, rfl⟩)
          (hno hserves _)
      · exact ⟨hlevel', congrArg Contribution.params hchild'⟩
    · rw [hnone]
      exact ⟨rfl, rfl⟩

end Mount

/-! ## Mounts below mounts -/

namespace Route

/-- The verdict of a route below mounts, the outermost first. Each mount has to match, and what
is below it judges the scope that the mount derives. -/
def verdictBelow (r : Route) : List Mount → Scope → Verdict
  | [], s => r.verdict s
  | m :: ms, s =>
    if (m.verdict s).level = .full then r.verdictBelow ms (s.derive (m.verdict s).child)
    else .none

/-- The path of a route behind the prefixes of mounts, the outermost first. -/
def pathBelow (r : Route) : List Mount → String
  | [] => r.path
  | m :: ms => m.path ++ r.pathBelow ms

theorem startsWithSlash_pathBelow {registry : Registry} {r : Route}
    (hr : startsWithSlash r.path = true) {ms : List Mount}
    (hms : ∀ m ∈ ms, ∃ lead, m.Shape registry lead) :
    startsWithSlash (r.pathBelow ms) = true := by
  induction ms with
  | nil => exact hr
  | cons m ms ih =>
      have hrest := ih fun k hk => hms k (List.mem_cons_of_mem _ hk)
      obtain ⟨lead, hs⟩ := hms m (List.mem_cons_self ..)
      rw [startsWithSlash, pathBelow, String.toList_append]
      rcases hs.led with hnil | hslash
      · rw [hnil]
        exact hrest
      · rw [List.head?_append, hslash]
        rfl

/-- The joint template exists, its names are those of the chain, and its route judges as the
chain does. The induction is from the innermost mount outwards: what is below a mount is one
route already, by the hypothesis for the scope that the mount derives. -/
theorem exists_joint {r : Route} (hr : r.Registered .builtin) {ms : List Mount}
    (hms : ∀ m ∈ ms, m.Registered .builtin ∧ ∀ h ∈ m.prefixHoles, h.converter ≠ Converter.path)
    (hnames : (ms.flatMap (·.prefixHoles.map Hole.name) ++ r.template.names).Nodup) :
    ∃ t, Template.compile .builtin (r.pathBelow ms) = .ok t ∧
      t.names = ms.flatMap (·.prefixHoles.map Hole.name) ++ r.template.names ∧
      ∀ s : Scope, s.kind.isRouted = true → '\n' ∉ s.path.toList →
        Verdict.Agrees (r.verdictBelow ms s) (Route.verdict { r with template := t } s) := by
  induction ms with
  | nil => exact ⟨r.template, hr.template_eq.2, rfl, fun s _ _ => ⟨rfl, rfl⟩⟩
  | cons m ms ih =>
      obtain ⟨hreg, hpath⟩ := hms m (List.mem_cons_self ..)
      have hms' := fun k hk => hms k (List.mem_cons_of_mem m hk)
      rw [List.flatMap_cons, List.append_assoc] at hnames
      obtain ⟨t, hcomp, htnames, hbelow⟩ := ih hms' (List.nodup_append.mp hnames).2.1
      obtain ⟨lead, hs⟩ := hreg.shape rfl
      have hslash : startsWithSlash (r.pathBelow ms) = true :=
        startsWithSlash_pathBelow hr.template_eq.1 fun k hk => (hms' k hk).1.shape rfl
      have hlead : lead.filterMap Piece.name? = m.prefixHoles.map Hole.name := by
        rw [Template.names_eq_map_holes, hs.prefixHoles_eq]
      -- behind the prefix stands a slash, so the atoms of both are just appended
      have hat : Template.atoms? .builtin (r.pathBelow (m :: ms)).toList =
          some (lead ++ Template.atoms t.pieces) := by
        rw [pathBelow, String.toList_append, Template.atoms?_append _ _ (eq_of_beq hslash),
          hs.lead_eq, Option.bind_some, Template.atoms?_of_compile hcomp, Option.map_some]
      have hjoint : (lead ++ Template.atoms t.pieces).filterMap Piece.name? =
          m.prefixHoles.map Hole.name ++
            (ms.flatMap (·.prefixHoles.map Hole.name) ++ r.template.names) := by
        rw [List.filterMap_append, hlead, Template.names_atoms]
        exact congrArg _ htnames
      obtain ⟨u, hu, huat⟩ := Template.compile_of_atoms? hat (hjoint ▸ hnames)
      refine ⟨u, hu, ?_, fun s hk hline => ?_⟩
      · rw [List.flatMap_cons, List.append_assoc, ← hjoint, ← huat, Template.names_atoms]
        rfl
      · obtain ⟨as, has⟩ : ∃ as, Template.atoms t.pieces = .literal ['/'] :: as := by
          obtain ⟨cs, hcs⟩ := List.head?_eq_some_iff.mp (eq_of_beq hslash)
          exact Template.atoms?_slash (hcs ▸ Template.atoms?_of_compile hcomp)
        have hled : Template.SlashLed (Template.atoms t.pieces) :=
          has ▸ Template.slashLed_literal [] as
        have hone := Mount.verdict_joint (r := { r with template := t }) hs
          (hs.slashFree rfl hpath) hled huat hk hline
        rw [verdictBelow]
        by_cases hfull : (m.verdict s).level = .full
        · rw [if_pos hfull] at hone ⊢
          rcases Mount.verdict_cases hs s with ⟨_, a, w, bs, hcut, hw, _, hmount⟩ | ⟨_, hno, _⟩
          · have hbelow' := hbelow (s.derive (m.verdict s).child)
            rw [hmount] at hone hbelow' ⊢
            have hline' : '\n' ∉ (s.derive (m.contribution s a w bs)).path.toList := by
              rw [Mount.path_derive]
              simpa using hw
            have hdown := hbelow' hk hline'
            exact ⟨hdown.1.trans hone.1, hdown.2.trans hone.2⟩
          · rw [hno] at hfull
            cases hfull
        · rw [if_neg hfull] at hone ⊢
          exact hone

/-- Mounting is putting templates together. A route below mounts, nested to any depth, and the
one route for the prefixes and the route's own path written one behind the other report the
same level for every scope, with the same parameters in the same order. -/
theorem verdictBelow_eq {ms : List Mount} {r : Route}
    (hms : ∀ m ∈ ms, m.Registered .builtin ∧ ∀ h ∈ m.prefixHoles, h.converter ≠ Converter.path)
    (hr : r.Registered .builtin)
    (hnames : (ms.flatMap (·.prefixHoles.map Hole.name) ++ r.template.names).Nodup) :
    ∃ joint, Route.new .builtin (r.pathBelow ms) r.endpoint r.protocol = .ok joint ∧
      ∀ s : Scope, s.kind.isRouted = true → '\n' ∉ s.path.toList →
        (r.verdictBelow ms s).level = (Route.verdict { joint with methods := r.methods } s).level ∧
        (r.verdictBelow ms s).child.params =
          (Route.verdict { joint with methods := r.methods } s).child.params := by
  obtain ⟨t, ht, _, hagree⟩ := exists_joint hr hms hnames
  have hslash : startsWithSlash (r.pathBelow ms) = true :=
    startsWithSlash_pathBelow hr.template_eq.1 fun m hm => (hms m hm).1.shape rfl
  obtain ⟨joint, hnew, htemplate, hendpoint, hprotocol⟩ :=
    new_of_compile hslash ht r.endpoint r.protocol
  refine ⟨joint, hnew, fun s hk hline => ?_⟩
  -- the name of a route and its place in the schema have no part in its verdict
  have hsame : Route.verdict { joint with methods := r.methods } s =
      Route.verdict { r with template := t } s := by
    obtain ⟨template, endpoint, name, methods, protocol, listed⟩ := joint
    cases htemplate
    cases hendpoint
    cases hprotocol
    rfl
  rw [hsame]
  exact hagree s hk hline

theorem verdictBelow_eq_site :
    ∃ joint, Route.new .builtin "/users/\x7bid:int\x7d/posts/\x7bslug\x7d" Site.page .http =
        .ok joint ∧
      ∀ s : Scope, s.kind.isRouted = true → '\n' ∉ s.path.toList →
        (Site.post.verdictBelow [Site.users] s).level =
          (Route.verdict { joint with methods := none } s).level ∧
        (Site.post.verdictBelow [Site.users] s).child.params =
          (Route.verdict { joint with methods := none } s).child.params := by
  have hholes : Site.users.prefixHoles = [Site.idHole] := rfl
  have hpath : ∀ m ∈ [Site.users], m.Registered .builtin ∧
      ∀ h ∈ m.prefixHoles, h.converter ≠ Converter.path := by
    intro m hm
    obtain rfl := List.mem_singleton.mp hm
    refine ⟨Site.registered_users, fun h hmem heq => ?_⟩
    rw [hholes] at hmem
    obtain rfl := List.mem_singleton.mp hmem
    exact absurd (congrArg Converter.pattern heq) (by decide)
  exact verdictBelow_eq hpath Site.registered_post (by decide)

end Route

end Waymark
