import Mathlib.Data.List.Basic
import Mathlib.Data.List.Nodup
import Mathlib.Data.List.Perm.Basic
import Waymark.Param.Params

/-!
# Parameters as a map

Parameters are an ordered map, and everything that a lookup reads of them is
read through `get?`. The lemmas here say what each operation does to `get?`,
and `entries_ofList` and `merge_ofList_append` what they do to the order: entries
under names of their own are put one behind the other.
-/

namespace Waymark

namespace Params

/-! ## Looking up -/

theorem get?_eq_some_iff {ps : Params} {k : String} {v : Value} :
    ps.get? k = some v ↔ (k, v) ∈ ps.entries := by
  obtain ⟨es, hd⟩ := ps
  simp only [get?, Option.map_eq_some_iff]
  constructor
  · rintro ⟨e, he, rfl⟩
    have hk : e.1 = k := by simpa using List.find?_some he
    rw [← hk]
    exact List.mem_of_find?_eq_some he
  · intro hmem
    induction es with
    | nil => cases hmem
    | cons e es ih =>
        rw [List.map_cons, List.nodup_cons] at hd
        rcases List.mem_cons.mp hmem with rfl | hmem
        · exact ⟨(k, v), by simp, rfl⟩
        · have hne : e.1 ≠ k := fun heq => hd.1 (heq ▸ List.mem_map_of_mem hmem)
          obtain ⟨e', he', hv⟩ := ih hd.2 hmem
          exact ⟨e', by rw [List.find?_cons_of_neg (by simpa using hne), he'], hv⟩

theorem get?_perm {ps qs : Params} (h : ps.entries.Perm qs.entries) (k : String) :
    ps.get? k = qs.get? k :=
  Option.ext fun v => by rw [get?_eq_some_iff, get?_eq_some_iff, h.mem_iff]

theorem contains_iff {ps : Params} {k : String} : ps.contains k = true ↔ k ∈ ps.keys := by
  rw [contains, Option.isSome_iff_exists, keys, List.mem_map]
  constructor
  · rintro ⟨v, hv⟩
    exact ⟨(k, v), get?_eq_some_iff.mp hv, rfl⟩
  · rintro ⟨e, he, rfl⟩
    exact ⟨e.2, get?_eq_some_iff.mpr he⟩

theorem nodup_keys (ps : Params) : ps.keys.Nodup := ps.distinct

theorem get?_insert (ps : Params) (k k' : String) (v : Value) :
    (ps.insert k v).get? k' = if k' = k then some v else ps.get? k' := by
  obtain ⟨es, hd⟩ := ps
  simp only [get?, insert]
  induction es with
  | nil =>
      by_cases h : k' = k
      · simp [putEntry, h]
      · have hne : k ≠ k' := fun heq => h heq.symm
        simp [putEntry, h, hne]
  | cons e es ih =>
      rw [List.map_cons, List.nodup_cons] at hd
      by_cases he : e.1 = k
      · by_cases h : k' = k
        · simp [putEntry, he, h]
        · have hne : k ≠ k' := fun heq => h heq.symm
          simp [putEntry, he, h, List.find?_cons_of_neg, hne]
      · rw [putEntry, if_neg he]
        by_cases h : e.1 = k'
        · have hne : k' ≠ k := h ▸ he
          simp [h, hne]
        · rw [List.find?_cons_of_neg (by simpa using h), ih hd.2,
            List.find?_cons_of_neg (by simpa using h)]

theorem get?_restrict (ps : Params) (keep : String → Bool) (k : String) :
    (ps.restrict keep).get? k = if keep k then ps.get? k else none := by
  refine Option.ext fun v => ?_
  rw [get?_eq_some_iff, restrict, List.mem_filter]
  by_cases h : keep k = true
  · rw [if_pos h, get?_eq_some_iff]
    exact and_iff_left h
  · rw [if_neg h]
    simp [h]

theorem get?_erase (ps : Params) (gone k : String) :
    (ps.erase gone).get? k = if k = gone then none else ps.get? k := by
  rw [erase, get?_restrict]
  by_cases hk : k = gone <;> simp [hk]

/-! ## Merging -/

theorem get?_foldl_insert (es : List (String × Value)) (ps : Params) (k : String)
    (hk : k ∉ es.map (·.1)) :
    (es.foldl (fun acc e => acc.insert e.1 e.2) ps).get? k = ps.get? k := by
  induction es generalizing ps with
  | nil => rfl
  | cons e es ih =>
      rw [List.map_cons, List.mem_cons, not_or] at hk
      rw [List.foldl_cons, ih _ hk.2, get?_insert, if_neg hk.1]

theorem get?_merge (ps qs : Params) (k : String) :
    (ps.merge qs).get? k = (qs.get? k).or (ps.get? k) := by
  obtain ⟨es, hd⟩ := qs
  rw [merge]
  induction es generalizing ps with
  | nil => rfl
  | cons e es ih =>
      rw [List.map_cons, List.nodup_cons] at hd
      rw [List.foldl_cons]
      by_cases he : e.1 = k
      · rw [get?_foldl_insert es _ k (he ▸ hd.1), get?_insert, if_pos he.symm]
        simp [get?, he]
      · rw [ih _ hd.2, get?_insert, if_neg (fun heq => he heq.symm)]
        simp [get?, List.find?_cons_of_neg, he]

theorem entries_insert_of_not_mem {ps : Params} {k : String} (v : Value) (hk : k ∉ ps.keys) :
    (ps.insert k v).entries = ps.entries ++ [(k, v)] := by
  obtain ⟨es, hd⟩ := ps
  simp only [insert, keys] at hk ⊢
  clear hd
  induction es with
  | nil => rfl
  | cons e es ih =>
      rw [List.map_cons, List.mem_cons, not_or] at hk
      rw [putEntry, if_neg (fun heq => hk.1 heq.symm), ih hk.2, List.cons_append]

/-- Entries under names of their own are put behind those that are there. -/
theorem entries_foldl_insert (es : List (String × Value)) (ps : Params)
    (h : (ps.keys ++ es.map (·.1)).Nodup) :
    (es.foldl (fun acc e => acc.insert e.1 e.2) ps).entries = ps.entries ++ es := by
  induction es generalizing ps with
  | nil => simp
  | cons e es ih =>
      rw [List.map_cons, List.nodup_middle, List.nodup_cons] at h
      have hk : e.1 ∉ ps.keys := fun hin => h.1 (List.mem_append_left _ hin)
      have hkeys : (ps.insert e.1 e.2).keys = ps.keys ++ [e.1] := by
        rw [keys_insert, if_neg hk]
      rw [List.foldl_cons, ih, entries_insert_of_not_mem _ hk, List.append_assoc]
      · rfl
      · rw [hkeys, List.append_assoc, List.singleton_append, List.nodup_middle, List.nodup_cons]
        exact h

theorem entries_ofList {es : List (String × Value)} (h : (es.map (·.1)).Nodup) :
    (ofList es).entries = es := by
  rw [ofList, entries_foldl_insert es empty (by simpa [keys, empty] using h)]
  rfl

theorem get?_ofList_of_mem {es : List (String × Value)} (h : (es.map (·.1)).Nodup)
    {e : String × Value} (he : e ∈ es) : (ofList es).get? e.1 = some e.2 := by
  rw [get?_eq_some_iff, entries_ofList h]
  exact he

/-- Merging what two runs of entries make is merging them one after the other. -/
theorem merge_ofList_append (ps : Params) {as bs : List (String × Value)}
    (h : ((as ++ bs).map (·.1)).Nodup) :
    ps.merge (ofList (as ++ bs)) = (ps.merge (ofList as)).merge (ofList bs) := by
  have ha : (as.map (·.1)).Nodup := (List.nodup_append.mp (List.map_append ▸ h)).1
  have hb : (bs.map (·.1)).Nodup := (List.nodup_append.mp (List.map_append ▸ h)).2.1
  simp only [merge, entries_ofList h, entries_ofList ha, entries_ofList hb, List.foldl_append]

/-! ## Size -/

theorem size_eq_length {ps : Params} {names : List String} (hn : names.Nodup)
    (h : ∀ k, ps.contains k = true ↔ k ∈ names) : ps.size = names.length := by
  have hperm : ps.keys.Perm names :=
    (List.perm_ext_iff_of_nodup ps.nodup_keys hn).mpr fun k => by rw [← contains_iff, h]
  rw [size, ← hperm.length_eq, keys, List.length_map]

end Params

end Waymark
