import Mathlib.Data.List.Induction
import Waymark.Proofs.Param.Laws

/-!
# Parameters under edits

However parameters are edited, what they hold can be told from the edits alone.
An edit writes values under names or drops a name (`Edit.record`), and the value
of a name is the last one that was written for it and not dropped since
(`Stands`). `Records` is the invariant that ties parameters to what was written
so far: a step lemma for one value written and one for a name dropped, and by
induction the same for every sequence of edits (`records_run`).

What a lookup does not show is the order of the names, which each edit changes
in a way of its own (`keys_apply`). Order and lookups together are all that
parameters are (`ext_get?`), so the laws of merging are read off the two.
-/

namespace Waymark

namespace Params

/-! ## Order and lookups -/

theorem entries_eq_filterMap (ps : Params) :
    ps.entries = ps.keys.filterMap fun k => (ps.get? k).map fun v => (k, v) := by
  have hentry : ∀ e ∈ ps.entries, (ps.get? e.1).map (fun v => (e.1, v)) = some e := by
    intro e he
    rw [get?_eq_some_iff.mpr he]
    rfl
  rw [keys, List.filterMap_map]
  exact (List.filterMap_some.symm.trans (List.filterMap_congr fun e he => (hentry e he).symm))

/-- Parameters are the same if they have the same names in the same order and the same values. -/
theorem ext_get? {ps qs : Params} (hkeys : ps.keys = qs.keys)
    (hget : ∀ k, ps.get? k = qs.get? k) : ps = qs := by
  refine ext ?_
  rw [entries_eq_filterMap, entries_eq_filterMap, hkeys]
  simp only [hget]

theorem get?_empty (k : String) : empty.get? k = none := rfl

theorem keys_erase (ps : Params) (k : String) : (ps.erase k).keys = ps.keys.filter (· != k) := by
  rw [keys, keys, List.filter_map]
  rfl

/-! ## Entries given one after the other -/

theorem keys_foldl_insert (es : List (String × Value)) (ps : Params) :
    (es.foldl (fun acc e => acc.insert e.1 e.2) ps).keys =
      (es.map (·.1)).foldl (fun ks k => if k ∈ ks then ks else ks ++ [k]) ps.keys := by
  induction es generalizing ps with
  | nil => rfl
  | cons e es ih => rw [List.foldl_cons, ih, keys_insert, List.map_cons, List.foldl_cons]

/-- Names are put behind those that are there, each of them once and only if it is new. -/
theorem foldl_names (ks names : List String) :
    ks.foldl (fun ns k => if k ∈ ns then ns else ns ++ [k]) names =
      names ++ (ks.filter fun k => decide (k ∉ names)).eraseDups := by
  induction ks generalizing names with
  | nil => simp
  | cons k ks ih =>
      rw [List.foldl_cons, ih, List.filter_cons]
      by_cases hin : k ∈ names
      · simp [hin]
      · have hrest : ks.filter (fun k' => decide (k' ∉ names ++ [k])) =
            (ks.filter fun k' => decide (k' ∉ names)).filter fun k' => !k' == k := by
          rw [List.filter_filter]
          refine List.filter_congr fun k' _ => ?_
          by_cases hk : k' = k <;> simp [hk]
        rw [if_neg hin, if_pos (decide_eq_true hin), List.eraseDups_cons, hrest, List.append_assoc]
        rfl

theorem eraseDups_of_nodup {ks : List String} (h : ks.Nodup) : ks.eraseDups = ks := by
  induction ks with
  | nil => rfl
  | cons k ks ih =>
      obtain ⟨hk, hks⟩ := List.nodup_cons.mp h
      have hall : ks.filter (fun k' => !k' == k) = ks := by
        refine List.filter_eq_self.mpr fun k' hk' => ?_
        have hne : k' ≠ k := fun heq => hk (heq ▸ hk')
        simp [hne]
      rw [List.eraseDups_cons, hall, ih hks]

theorem keys_merge (ps qs : Params) :
    (ps.merge qs).keys = ps.keys ++ qs.keys.filter fun k => decide (k ∉ ps.keys) := by
  rw [merge, keys_foldl_insert, foldl_names, ← keys,
    eraseDups_of_nodup (qs.nodup_keys.sublist List.filter_sublist)]

/-! ## Laws of merging -/

theorem merge_empty (ps : Params) : ps.merge empty = ps := rfl

theorem empty_merge (ps : Params) : empty.merge ps = ps :=
  ext (entries_ofList ps.distinct)

theorem merge_self (ps : Params) : ps.merge ps = ps := by
  refine ext_get? ?_ fun k => ?_
  · rw [keys_merge]
    simp
  · rw [get?_merge, Option.or_self]

theorem merge_assoc (ps qs rs : Params) : (ps.merge qs).merge rs = ps.merge (qs.merge rs) := by
  refine ext_get? ?_ fun k => ?_
  · simp only [keys_merge, List.filter_append, List.append_assoc, List.filter_filter]
    congr 2
    refine List.filter_congr fun k _ => ?_
    by_cases hp : k ∈ ps.keys <;> by_cases hq : k ∈ qs.keys <;> simp [hp, hq]
  · simp only [get?_merge, Option.or_assoc]

theorem merge_insert (ps qs : Params) (k : String) (v : Value) :
    ps.merge (qs.insert k v) = (ps.merge qs).insert k v := by
  refine ext_get? ?_ fun k' => ?_
  · rw [keys_insert, keys_merge, keys_merge, keys_insert]
    by_cases hp : k ∈ ps.keys <;> by_cases hq : k ∈ qs.keys <;> simp [hp, hq]
  · rw [get?_insert, get?_merge, get?_merge, get?_insert]
    by_cases h : k' = k <;> simp [h]

/-- Giving entries one after the other is merging what is made of them alone. -/
theorem foldl_insert_eq_merge (es : List (String × Value)) (ps : Params) :
    es.foldl (fun acc e => acc.insert e.1 e.2) ps = ps.merge (ofList es) := by
  induction es using List.reverseRecOn with
  | nil => rfl
  | append_singleton es e ih =>
      rw [List.foldl_concat, ih, ← merge_insert, ofList, ofList, List.foldl_concat]

theorem ofList_append (as bs : List (String × Value)) :
    ofList (as ++ bs) = (ofList as).merge (ofList bs) := by
  rw [ofList, List.foldl_append, foldl_insert_eq_merge bs, ← ofList]

/-- It does not matter how a list is cut up before its parts are collected and merged. -/
theorem ofList_flatten (parts : List (List (String × Value))) :
    ofList parts.flatten = (parts.map ofList).foldl merge empty := by
  induction parts using List.reverseRecOn with
  | nil => rfl
  | append_singleton parts part ih =>
      rw [List.flatten_concat, ofList_append, ih, List.map_append, List.map_singleton,
        List.foldl_concat]

/-! ## Edits and what they record -/

/-- A way to change parameters; a collection starts afresh. -/
inductive Edit where
  | insert (name : String) (value : Value)
  | remove (name : String)
  | merge (other : Params)
  | collect (entries : List (String × Value))

inductive Event where
  | written (name : String) (value : Value)
  | dropped (name : String)

def Event.name : Event → String
  | .written k _ => k
  | .dropped k => k

/-- The entries as they are written one after the other. -/
def writing (es : List (String × Value)) : List Event := es.map fun e => .written e.1 e.2

namespace Edit

def apply : Edit → Params → Params
  | .insert k v, ps => ps.insert k v
  | .remove k, ps => ps.erase k
  | .merge other, ps => ps.merge other
  | .collect es, _ => ofList es

/-- What there is to tell after an edit, given what there was before it. -/
def record : Edit → List Event → List Event
  | .insert k v, log => log ++ [.written k v]
  | .remove k, log => log ++ [.dropped k]
  | .merge other, log => log ++ writing other.entries
  | .collect es, _ => writing es

/-- The names after an edit: a new one goes to the end, and the others keep their order. -/
def order : Edit → List String → List String
  | .insert k _, ks => if k ∈ ks then ks else ks ++ [k]
  | .remove k, ks => ks.filter (· != k)
  | .merge other, ks => ks ++ other.keys.filter fun k => decide (k ∉ ks)
  | .collect es, _ => (es.map (·.1)).eraseDups

end Edit

/-- The parameters that edits make, starting from none. -/
def run (edits : List Edit) : Params := edits.foldl (fun ps e => e.apply ps) empty

def history (edits : List Edit) : List Event := edits.foldl (fun log e => e.record log) []

/-- The value is the last one that was written for the name, and it was not dropped since. -/
def Stands (log : List Event) (k : String) (v : Value) : Prop :=
  ∃ before after, log = before ++ .written k v :: after ∧ ∀ e ∈ after, e.name ≠ k

theorem not_stands_nil (k : String) (v : Value) : ¬ Stands [] k v := by
  rintro ⟨before, after, h, _⟩
  simp at h

theorem stands_concat_iff {log : List Event} {e : Event} {k : String} {v : Value} :
    Stands (log ++ [e]) k v ↔ e = .written k v ∨ e.name ≠ k ∧ Stands log k v := by
  constructor
  · rintro ⟨before, after, h, hafter⟩
    rcases List.eq_nil_or_concat after with rfl | ⟨after, last, rfl⟩
    · obtain ⟨rfl, hlast⟩ := List.append_inj' h rfl
      exact Or.inl (List.singleton_inj.mp hlast)
    · rw [List.concat_eq_append, List.forall_mem_append, List.forall_mem_singleton] at hafter
      rw [List.concat_eq_append, ← List.cons_append, ← List.append_assoc] at h
      obtain ⟨rfl, hlast⟩ := List.append_inj' h rfl
      obtain rfl := List.singleton_inj.mp hlast
      exact Or.inr ⟨hafter.2, before, after, rfl, hafter.1⟩
  · rintro (rfl | ⟨hne, before, after, rfl, hafter⟩)
    · exact ⟨log, [], rfl, nofun⟩
    · refine ⟨before, after ++ [e], by simp, ?_⟩
      rw [List.forall_mem_append, List.forall_mem_singleton]
      exact ⟨hafter, hne⟩

/-- The parameters have for each name the value that stands. -/
def Records (log : List Event) (ps : Params) : Prop :=
  ∀ k v, ps.get? k = some v ↔ Stands log k v

theorem records_empty : Records [] empty := by
  intro k v
  exact iff_of_false (by simp [get?_empty]) (not_stands_nil k v)

namespace Records

variable {log : List Event} {ps : Params}

theorem insert (h : Records log ps) (k : String) (v : Value) :
    Records (log ++ [.written k v]) (ps.insert k v) := by
  intro k' v'
  rw [get?_insert, stands_concat_iff, Event.written.injEq, Event.name]
  by_cases hk : k' = k
  · simp [hk]
  · have hk' : k ≠ k' := fun heq => hk heq.symm
    simp [hk, hk', h k' v']

theorem erase (h : Records log ps) (k : String) :
    Records (log ++ [.dropped k]) (ps.erase k) := by
  intro k' v'
  rw [get?_erase, stands_concat_iff, Event.name]
  by_cases hk : k' = k
  · simp [hk]
  · have hk' : k ≠ k' := fun heq => hk heq.symm
    simp [hk, hk', h k' v']

/-- Values written one after the other, by induction on them. -/
theorem foldl_insert (h : Records log ps) (es : List (String × Value)) :
    Records (log ++ writing es) (es.foldl (fun acc e => acc.insert e.1 e.2) ps) := by
  induction es generalizing log ps with
  | nil => simpa [writing] using h
  | cons e es ih =>
      have hstep := ih (h.insert e.1 e.2)
      rwa [List.append_assoc] at hstep

/-- What an edit records is what it does. -/
theorem apply (h : Records log ps) (e : Edit) : Records (e.record log) (e.apply ps) := by
  cases e with
  | insert k v => exact h.insert k v
  | remove k => exact h.erase k
  | merge other => exact h.foldl_insert other.entries
  | collect es => exact records_empty.foldl_insert es

end Records

theorem records_run (edits : List Edit) : Records (history edits) (run edits) := by
  induction edits using List.reverseRecOn with
  | nil => exact records_empty
  | append_singleton edits e ih =>
      rw [history, run, List.foldl_concat, List.foldl_concat]
      exact ih.apply e

theorem keys_apply (e : Edit) (ps : Params) : (e.apply ps).keys = e.order ps.keys := by
  cases e with
  | insert k v => exact keys_insert ps k v
  | remove k => exact keys_erase ps k
  | merge other => exact keys_merge ps other
  | collect es =>
      have hnew : (es.map (·.1)).filter (fun k => decide (k ∉ empty.keys)) = es.map (·.1) :=
        List.filter_eq_self.mpr fun k _ => by simp [keys, empty]
      rw [Edit.apply, ofList, keys_foldl_insert, foldl_names, hnew]
      rfl

/-- Parameters are an ordered map in which the last value given to a name counts. However they are
edited, their names are distinct and have the values that were written for them last and not
dropped since, and every further edit leaves the names in the order that it says. Merging has the
empty parameters as identity, may be bracketed at will, and does nothing the second time, all of
it with the order; a list is collected by giving its entries one after the other, or by merging
what its parts are collected to, however it is cut up. -/
theorem last_written_wins :
    (∀ edits : List Edit, (run edits).keys.Nodup ∧
      (∀ k v, (run edits).get? k = some v ↔ Stands (history edits) k v) ∧
      ∀ e : Edit, (run (edits ++ [e])).keys = e.order (run edits).keys) ∧
    (∀ ps qs rs : Params, (ps.merge qs).merge rs = ps.merge (qs.merge rs)) ∧
    (∀ ps : Params, empty.merge ps = ps ∧ ps.merge empty = ps ∧ ps.merge ps = ps) ∧
    (∀ es : List (String × Value), ofList es = run (es.map fun e => .insert e.1 e.2)) ∧
    ∀ parts : List (List (String × Value)),
      ofList parts.flatten = (parts.map ofList).foldl merge empty := by
  refine ⟨fun edits => ⟨nodup_keys _, records_run edits, fun e => ?_⟩, merge_assoc,
    fun ps => ⟨empty_merge ps, merge_empty ps, merge_self ps⟩, fun es => ?_, ofList_flatten⟩
  · rw [run, List.foldl_concat]
    exact keys_apply e (run edits)
  · rw [run, List.foldl_map]
    rfl

end Params

end Waymark
