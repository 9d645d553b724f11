import Waymark.Param.Value
import Waymark.Text.Outline

/-!
# Parameters

Named values in the order in which their names were first given. A name stands
once: giving it again replaces its value where it is, so the values found by a
nested node win over those of the nodes around it without moving.
-/

namespace Waymark

structure Params where
  entries : List (String × Value)
  distinct : (entries.map (·.1)).Nodup

namespace Params

/-! ## Entries -/

/-- The entries with `name` given `value`: in its place if it is there, else at the end. -/
def putEntry (name : String) (value : Value) : List (String × Value) → List (String × Value)
  | [] => [(name, value)]
  | e :: es => if e.1 = name then (name, value) :: es else e :: putEntry name value es

theorem map_putEntry (name : String) (value : Value) (es : List (String × Value)) :
    (putEntry name value es).map (·.1) =
      if name ∈ es.map (·.1) then es.map (·.1) else es.map (·.1) ++ [name] := by
  induction es with
  | nil => simp [putEntry]
  | cons e es ih =>
    by_cases h : e.1 = name
    · simp [putEntry, h]
    · have h' : name ≠ e.1 := fun h'' => h h''.symm
      simp only [putEntry, h, if_false, List.map_cons, ih, List.mem_cons, h', false_or]
      split <;> simp

theorem nodup_putEntry {name : String} {value : Value} {es : List (String × Value)}
    (h : (es.map (·.1)).Nodup) : ((putEntry name value es).map (·.1)).Nodup := by
  rw [map_putEntry]
  split
  · exact h
  · rename_i hn
    refine List.nodup_append.mpr ⟨h, by simp, fun a ha b hb => ?_⟩
    rintro rfl
    exact hn (List.mem_singleton.mp hb ▸ ha)

/-! ## Operations -/

def empty : Params := ⟨[], by simp⟩

instance : Inhabited Params := ⟨empty⟩

/-- Gives `name` a value. -/
def insert (ps : Params) (name : String) (value : Value) : Params :=
  ⟨putEntry name value ps.entries, nodup_putEntry ps.distinct⟩

/-- The value of a name. -/
def get? (ps : Params) (name : String) : Option Value :=
  (ps.entries.find? fun e => e.1 == name).map (·.2)

def contains (ps : Params) (name : String) : Bool := (ps.get? name).isSome

/-- The parameters whose names satisfy `keep`. -/
def restrict (ps : Params) (keep : String → Bool) : Params :=
  ⟨ps.entries.filter fun e => keep e.1, ps.distinct.sublist (List.filter_sublist.map _)⟩

/-- The parameters without a name. -/
def erase (ps : Params) (name : String) : Params := ps.restrict (· != name)

/-- The parameters with all of `other` given, whose values win. -/
def merge (ps other : Params) : Params :=
  other.entries.foldl (fun acc e => acc.insert e.1 e.2) ps

/-- The parameters given one after the other. -/
def ofList (es : List (String × Value)) : Params :=
  es.foldl (fun acc e => acc.insert e.1 e.2) empty

def keys (ps : Params) : List String := ps.entries.map (·.1)

def size (ps : Params) : Nat := ps.entries.length

def isEmpty (ps : Params) : Bool := ps.entries.isEmpty

/-- The same names in the same order with equal values. -/
def same (ps qs : Params) : Bool :=
  ps.size == qs.size &&
    (ps.entries.zip qs.entries).all fun (a, b) => a.1 == b.1 && a.2.same b.2

def toJson (ps : Params) : Json := .obj (ps.entries.map fun e => (e.1, e.2.toJson))

def outline (ps : Params) : String :=
  Text.Outline.record "PathParams"
    [("params", Text.Outline.list
      (ps.entries.map fun e => "(" ++ Text.quoted e.1 ++ ", " ++ e.2.outline ++ ")"))]

theorem keys_insert (ps : Params) (name : String) (value : Value) :
    (ps.insert name value).keys =
      if name ∈ ps.keys then ps.keys else ps.keys ++ [name] :=
  map_putEntry name value ps.entries

@[ext] theorem ext {ps qs : Params} (h : ps.entries = qs.entries) : ps = qs := by
  cases ps; cases qs; simp_all

end Params

end Waymark
