import Waymark.Proofs.Converter.Builtin
import Waymark.Proofs.Template.Writing

/-!
# Values that are spelled out

A value may be given by its text. A builtin converter, the one for binary
numbers left aside, writes the text of a value as it writes the value itself,
or refuses both (`Hole.Builtin.encode_spelled`). That takes the texts of one
kind to be no texts of another: a number is read from its digits and nothing
else is, and no number has as many characters as a UUID.

A binary number is left out because it may look like a whole one: `7` is
written for an `int` hole, the binary number with the text `7` is not.
-/

namespace Waymark

namespace Value

/-- The value as the text that it is shown as. -/
def spelled (v : Value) : Value := .str v.text

@[simp] theorem text_spelled (v : Value) : v.spelled.text = v.text := rfl

/-! ## The texts of the kinds -/

theorem readInt64?_intText (n : Int64) : Text.readInt64? (intText n) = some n.toInt := by
  have hlow : Text.int64Min ≤ n.toInt := by
    have := n.le_toInt
    simp only [Text.int64Min]
    omega
  have hhigh : n.toInt ≤ Text.int64Max := by
    have := n.toInt_lt
    simp only [Text.int64Max]
    omega
  exact Text.readInt64?_renderInt hlow hhigh

theorem length_intText (n : Int64) : (intText n).toList.length < 32 := by
  have habs : n.toInt.natAbs < 10 ^ 19 := by
    have hlow := n.le_toInt
    have hhigh := n.toInt_lt
    omega
  have hdigits : (Nat.toDigits 10 n.toInt.natAbs).length ≤ 19 :=
    (Nat.length_toDigits_le_iff (by omega) (by omega)).mpr habs
  have hsign : (if n.toInt < 0 then ['-'] else []).length ≤ 1 := by split <;> simp
  rw [intText, String.toList_ofList, Json.renderInt, List.length_append]
  omega

theorem uuidRead?_intText (n : Int64) : Uuid.read? (intText n) = none := by
  have hlen := length_intText n
  unfold Uuid.read?
  dsimp only
  rw [if_neg (by omega), if_neg (by omega), if_neg (by omega), if_neg (by omega)]

theorem readInt64?_uuid (u : Uuid) : Text.readInt64? u.text = none := by
  have hhyphen : '-' ∈ u.text.toList.tail := by
    have hlen := u.length_plain
    rw [Uuid.text, String.toList_ofList, Uuid.chars, Uuid.hyphenate]
    obtain ⟨c, cs, hcs⟩ := List.exists_cons_of_length_pos (l := u.plain) (by omega)
    rw [hcs]
    simp
  cases hread : Text.readInt64? u.text with
  | none => rfl
  | some n =>
      have hdigit := Text.isDigit_of_readInt64? hread '-' hhyphen
      cases hdigit

end Value

/-! ## What converters make of them -/

namespace Converter

theorem intOf_spelled {v : Value} (hv : v.float? = none) :
    (intOf v.spelled).toOption = (intOf v).toOption := by
  cases v with
  | str s => rfl
  | int n =>
      simp only [Value.spelled, Value.text, intOf, Value.readInt64?_intText]
      rw [Int64.ofInt_toInt]
  | float x => cases hv
  | uuid u =>
      simp only [Value.spelled, Value.text, intOf, Value.readInt64?_uuid]

theorem uuidOf_spelled {v : Value} (hv : v.float? = none) :
    (uuidOf v.spelled).toOption = (uuidOf v).toOption := by
  cases v with
  | str s => rfl
  | int n =>
      simp only [Value.spelled, Value.text, uuidOf, Value.uuidRead?_intText]
  | float x => cases hv
  | uuid u => simp only [Value.spelled, Value.text, uuidOf, Uuid.read?_text]

theorem toOption_bind_congr {α β : Type} {x y : Except ConversionError α}
    (f : α → Except ConversionError β) (h : x.toOption = y.toOption) :
    (x >>= f).toOption = (y >>= f).toOption := by
  cases x with
  | error e =>
      cases y with
      | error e' => rfl
      | ok b => cases h
  | ok a =>
      cases y with
      | error e' => cases h
      | ok b =>
          cases h
          rfl

end Converter

/-- A builtin converter writes the text of a value as it writes the value, or refuses both. -/
theorem Hole.Builtin.encode_spelled {h : Hole} (hb : h.Builtin)
    (hfloat : h.converter ≠ Converter.float) {v : Value} (hv : v.float? = none) :
    (h.converter.encode v.spelled).toOption = (h.converter.encode v).toOption := by
  cases hb with
  | str => rfl
  | path => rfl
  | int => exact Converter.toOption_bind_congr _ (Converter.intOf_spelled hv)
  | float => exact absurd rfl hfloat
  | uuid => exact Converter.toOption_bind_congr _ (Converter.uuidOf_spelled hv)

/-! ## Parameters -/

namespace Params

/-- The parameters with every value as the text that it is shown as. -/
def spelled (ps : Params) : Params where
  entries := ps.entries.map fun e => (e.1, e.2.spelled)
  distinct := by
    rw [List.map_map]
    exact ps.distinct

/-- No value is a binary number. -/
def Textual (ps : Params) : Prop := ∀ k v, ps.get? k = some v → v.float? = none

@[simp] theorem keys_spelled (ps : Params) : ps.spelled.keys = ps.keys := by
  simp only [keys, spelled, List.map_map, Function.comp_def]

theorem get?_spelled (ps : Params) (k : String) :
    ps.spelled.get? k = (ps.get? k).map Value.spelled := by
  simp only [get?, spelled, List.find?_map, Option.map_map, Function.comp_def]

theorem spelled_insert (ps : Params) (k : String) (v : Value) :
    (ps.insert k v).spelled = ps.spelled.insert k v.spelled := by
  obtain ⟨es, hd⟩ := ps
  refine Params.ext ?_
  simp only [insert, spelled]
  clear hd
  induction es with
  | nil => rfl
  | cons e es ih =>
      by_cases he : e.1 = k
      · simp only [putEntry, List.map_cons, if_pos he]
      · simp only [putEntry, List.map_cons, if_neg he, ih]

theorem spelled_foldl_insert (es : List (String × Value)) (ps : Params) :
    (es.foldl (fun acc e => acc.insert e.1 e.2) ps).spelled =
      es.foldl (fun acc e => acc.insert e.1 e.2.spelled) ps.spelled := by
  induction es generalizing ps with
  | nil => rfl
  | cons e es ih => rw [List.foldl_cons, ih, spelled_insert, List.foldl_cons]

theorem Textual.insert {ps : Params} (hps : ps.Textual) (k : String) {v : Value}
    (hv : v.float? = none) : (ps.insert k v).Textual := by
  intro k' w hw
  rw [get?_insert] at hw
  split at hw
  · exact Option.some.inj hw ▸ hv
  · exact hps k' w hw

theorem Textual.foldl_insert {es : List (String × Value)} (h : ∀ e ∈ es, e.2.float? = none)
    {ps : Params} (hps : ps.Textual) :
    (es.foldl (fun acc e => acc.insert e.1 e.2) ps).Textual := by
  induction es generalizing ps with
  | nil => exact hps
  | cons e es ih =>
      obtain ⟨he, hes⟩ := List.forall_mem_cons.mp h
      exact ih hes (hps.insert e.1 he)

end Params

theorem Hole.Builtin.written?_spelled {h : Hole} (hb : h.Builtin)
    (hfloat : h.converter ≠ Converter.float) {params : Params} (hp : params.Textual) :
    h.written? params.spelled = h.written? params := by
  unfold Hole.written?
  rw [Params.get?_spelled]
  cases hget : params.get? h.name with
  | none => rfl
  | some v =>
      rw [Option.map_some, Option.bind_some, Option.bind_some]
      exact hb.encode_spelled hfloat (hp _ _ hget)

end Waymark
