import Waymark.Proofs.Except
import Waymark.Proofs.Pattern.Language
import Waymark.Proofs.Text.Integer
import Waymark.Proofs.Uuid
import Waymark.Template.Basic

/-!
# The builtin converters

A hole of a template over the builtin registry is of one of five kinds
(`Hole.Builtin`), each with the pattern that its notation reads as. For all
kinds but `float` the two directions are tied together here:

- what a hole captured and decoded is encoded to the captured text again
  (`Hole.Builtin.encode_of_decode`), provided that digits have no redundant
  zero in front;
- what a value is encoded to is taken by the pattern and can be decoded
  (`Hole.Builtin.accepts_of_encode`), provided that a `path` has no line feed.

Decimal fractions are left out: `1.50` is read, and written as `1.5`.
-/

namespace Waymark

namespace Converter

/-! ## The patterns, read -/

def segmentPattern : Pattern := .rep (.char ⟨true, [('/', '/')]⟩) 1 none true

def linePattern : Pattern := .rep (.char .anyInLine) 0 none true

def digitsPattern : Pattern := .rep (.char ⟨false, [('0', '9')]⟩) 1 none true

def decimalPattern : Pattern :=
  .seq digitsPattern (.rep (.seq (.char (.one '.')) digitsPattern) 0 (some 1) true)

def hexPattern (count : Nat) : Pattern :=
  .rep (.char ⟨false, [('0', '9'), ('a', 'f')]⟩) count (some count) true

def uuidPattern : Pattern :=
  .seq (hexPattern 8) (.seq (.char (.one '-')) (.seq (hexPattern 4) (.seq (.char (.one '-'))
    (.seq (hexPattern 4) (.seq (.char (.one '-')) (.seq (hexPattern 4) (.seq (.char (.one '-'))
      (hexPattern 12))))))))

theorem read?_str : Pattern.read? str.pattern = some segmentPattern := rfl

theorem read?_path : Pattern.read? path.pattern = some linePattern := rfl

theorem read?_int : Pattern.read? int.pattern = some digitsPattern := rfl

theorem read?_float : Pattern.read? float.pattern = some decimalPattern := by
  decide +kernel

theorem read?_uuid : Pattern.read? uuid.pattern = some uuidPattern := by
  decide +kernel

/-! ## The texts they take -/

theorem accepts_segment {u : List Char} : segmentPattern.Accepts u ↔ u ≠ [] ∧ '/' ∉ u := by
  have hhas (c : Char) : (⟨true, [('/', '/')]⟩ : CharSet).has c = true ↔ c ≠ '/' := by
    simp only [CharSet.has, List.any_cons, List.any_nil, Bool.or_false, bne_iff_ne, ne_eq,
      Bool.not_eq_true, Bool.and_eq_false_iff, decide_eq_false_iff_not]
    constructor
    · rintro h rfl
      simp at h
    · intro h
      by_contra hno
      simp only [not_or, not_not] at hno
      exact h (Char.le_antisymm hno.2 hno.1)
  rw [segmentPattern, Pattern.accepts_rep_char]
  simp only [hhas]
  constructor
  · rintro ⟨hlen, hall, _⟩
    refine ⟨?_, fun hmem => hall _ hmem rfl⟩
    rintro rfl
    simp at hlen
  · rintro ⟨hne, hmem⟩
    refine ⟨List.length_pos_iff.mpr hne, ?_, by simp⟩
    rintro c hc rfl
    exact hmem hc

theorem has_anyInLine (c : Char) : CharSet.anyInLine.has c = true ↔ c ≠ '\n' := by
  simp only [CharSet.has, CharSet.anyInLine, List.any_cons, List.any_nil, Bool.or_false,
    bne_iff_ne, ne_eq, Bool.not_eq_true, Bool.and_eq_false_iff, decide_eq_false_iff_not]
  constructor
  · rintro h rfl
    simp at h
  · intro h
    by_contra hno
    simp only [not_or, not_not] at hno
    exact h (Char.le_antisymm hno.2 hno.1)

theorem accepts_line {u : List Char} : linePattern.Accepts u ↔ '\n' ∉ u := by
  rw [linePattern, Pattern.accepts_rep_char]
  simp only [has_anyInLine]
  constructor
  · rintro ⟨_, hall, _⟩ hmem
    exact hall _ hmem rfl
  · intro hmem
    refine ⟨Nat.zero_le _, ?_, by simp⟩
    rintro c hc rfl
    exact hmem hc

theorem accepts_digits {u : List Char} :
    digitsPattern.Accepts u ↔ u ≠ [] ∧ ∀ c ∈ u, Text.isDigit c = true := by
  have hhas (c : Char) : (⟨false, [('0', '9')]⟩ : CharSet).has c = Text.isDigit c := by
    simp [CharSet.has, Text.isDigit]
  rw [digitsPattern, Pattern.accepts_rep_char]
  simp only [hhas, ← List.length_pos_iff]
  simp [Nat.succ_le_iff]

theorem accepts_hex {count : Nat} {u : List Char} : (hexPattern count).Accepts u ↔
    u.length = count ∧ ∀ c ∈ u, (⟨false, [('0', '9'), ('a', 'f')]⟩ : CharSet).has c = true := by
  rw [hexPattern, Pattern.accepts_rep_char]
  simp only [Option.mem_some_iff]
  constructor
  · rintro ⟨hleast, hall, hmost⟩
    exact ⟨by have := hmost _ rfl; omega, hall⟩
  · rintro ⟨rfl, hall⟩
    exact ⟨Nat.le_refl _, hall, fun m hm => hm ▸ Nat.le_refl _⟩

theorem isWritten_iff (c : Char) : Uuid.isWritten c = true ↔
    (⟨false, [('0', '9'), ('a', 'f')]⟩ : CharSet).has c = true ∨ c = '-' := by
  simp [Uuid.isWritten, CharSet.has]

theorem accepts_hyphen {a b : Pattern} {u : List Char} :
    (Pattern.seq a (.seq (.char (.one '-')) b)).Accepts u ↔
      ∃ v w, u = v ++ '-' :: w ∧ a.Accepts v ∧ b.Accepts w := by
  rw [Pattern.accepts_seq]
  constructor
  · rintro ⟨v, w, rfl, hv, hw⟩
    obtain ⟨x, y, rfl, hx, hy⟩ := Pattern.accepts_seq.mp hw
    exact ⟨v, y, by rw [Pattern.accepts_one.mp hx]; rfl, hv, hy⟩
  · rintro ⟨v, w, rfl, hv, hw⟩
    exact ⟨v, '-' :: w, rfl, hv, Pattern.accepts_seq.mpr
      ⟨['-'], w, rfl, Pattern.accepts_one.mpr rfl, hw⟩⟩

theorem written_of_accepts_uuid {u : List Char} (h : uuidPattern.Accepts u) :
    u.length = 36 ∧ ∀ c ∈ u, Uuid.isWritten c = true := by
  obtain ⟨v₁, u, rfl, h₁, h⟩ := accepts_hyphen.mp h
  obtain ⟨v₂, u, rfl, h₂, h⟩ := accepts_hyphen.mp h
  obtain ⟨v₃, u, rfl, h₃, h⟩ := accepts_hyphen.mp h
  obtain ⟨v₄, v₅, rfl, h₄, h₅⟩ := accepts_hyphen.mp h
  rw [accepts_hex] at h₁ h₂ h₃ h₄ h₅
  refine ⟨by simp [h₁.1, h₂.1, h₃.1, h₄.1, h₅.1], fun c hc => ?_⟩
  rw [isWritten_iff]
  simp only [List.mem_append, List.mem_cons] at hc
  rcases hc with hc | rfl | hc | rfl | hc | rfl | hc | rfl | hc
  · exact Or.inl (h₁.2 c hc)
  · exact Or.inr rfl
  · exact Or.inl (h₂.2 c hc)
  · exact Or.inr rfl
  · exact Or.inl (h₃.2 c hc)
  · exact Or.inr rfl
  · exact Or.inl (h₄.2 c hc)
  · exact Or.inr rfl
  · exact Or.inl (h₅.2 c hc)

theorem accepts_uuid_text (u : Uuid) : uuidPattern.Accepts u.text.toList := by
  have hdigit : ∀ d : Fin 16, (⟨false, [('0', '9'), ('a', 'f')]⟩ : CharSet).has
      (Text.hexDigit d.val) = true := by decide
  have hhex : ∀ c ∈ u.plain, (⟨false, [('0', '9'), ('a', 'f')]⟩ : CharSet).has c = true := by
    intro c hc
    obtain ⟨d, _, rfl⟩ := List.mem_map.mp hc
    exact hdigit d
  have hpart (n m : Nat) (hle : n + m ≤ 32) : (hexPattern m).Accepts ((u.plain.drop n).take m) := by
    refine accepts_hex.mpr ⟨?_, fun c hc => ?_⟩
    · rw [List.length_take, List.length_drop, u.length_plain]
      omega
    · exact hhex c (List.mem_of_mem_drop (List.mem_of_mem_take hc))
  have hlast : (hexPattern 12).Accepts (u.plain.drop 20) := by
    refine accepts_hex.mpr ⟨?_, fun c hc => hhex c (List.mem_of_mem_drop hc)⟩
    rw [List.length_drop, u.length_plain]
  rw [Uuid.text, String.toList_ofList, Uuid.chars, Uuid.hyphenate]
  simp only [List.append_assoc, List.cons_append]
  exact accepts_hyphen.mpr ⟨_, _, rfl, hpart 0 8 (by omega),
    accepts_hyphen.mpr ⟨_, _, rfl, hpart 8 4 (by omega),
      accepts_hyphen.mpr ⟨_, _, rfl, hpart 12 4 (by omega),
        accepts_hyphen.mpr ⟨_, _, rfl, hpart 16 4 (by omega), hlast⟩⟩⟩⟩

/-! ## Whole numbers -/

theorem toInt_ofInt {n : Nat} (h : n ≤ 9223372036854775807) :
    (Int64.ofInt (Int.ofNat n)).toInt = Int.ofNat n := by
  refine Int64.toInt_ofInt_of_le ?_ ?_
  · simp only [Int.ofNat_eq_natCast]
    omega
  · simp only [Int.ofNat_eq_natCast]
    omega

theorem intText_ofInt {n : Nat} (h : n ≤ 9223372036854775807) :
    Value.intText (Int64.ofInt (Int.ofNat n)) = String.ofList (Nat.toDigits 10 n) := by
  have hneg : ¬ Int.ofNat n < 0 := by
    simp only [Int.ofNat_eq_natCast]
    omega
  rw [Value.intText, toInt_ofInt h, Json.renderInt, if_neg hneg]
  rfl

theorem intText_of_nonneg {n : Int64} (h : ¬ n < 0) :
    ∃ k ≤ 9223372036854775807, n = Int64.ofInt (Int.ofNat k) ∧
      Value.intText n = String.ofList (Nat.toDigits 10 k) := by
  have hpos : 0 ≤ n.toInt := by
    rw [Int64.lt_iff_toInt_lt] at h
    simpa using h
  have hlt := n.toInt_lt
  obtain ⟨k, hk⟩ := Int.eq_ofNat_of_zero_le hpos
  have hle : k ≤ 9223372036854775807 := by omega
  have hn : n = Int64.ofInt (Int.ofNat k) := by
    rw [← Int64.toInt_inj, toInt_ofInt hle]
    exact hk
  exact ⟨k, hle, hn, hn ▸ intText_ofInt hle⟩

/-! ## What decoding and encoding come down to -/

theorem int_decode_eq_ok {t : String} {v : Value} (h : int.decode t = .ok v) :
    ∃ n, Text.readInt64? t = some n ∧ v = .int (Int64.ofInt n) := by
  simp only [int] at h
  cases hn : Text.readInt64? t with
  | none => rw [hn] at h; cases h
  | some n => rw [hn] at h; exact ⟨n, rfl, (Except.ok.inj h).symm⟩

theorem int_encode_eq_ok {v : Value} {t : String} :
    int.encode v = .ok t ↔ ∃ n, intOf v = .ok n ∧ ¬ n < 0 ∧ Value.intText n = t := by
  simp only [int, Except.bind_eq_ok_iff]
  refine exists_congr fun n => and_congr_right fun _ => ?_
  by_cases hneg : n < 0
  · rw [if_pos hneg]
    exact iff_of_false nofun fun h => h.1 hneg
  · rw [if_neg hneg, Except.pure_eq_ok_iff]
    exact ⟨fun h => ⟨hneg, h⟩, And.right⟩

theorem uuid_decode_eq_ok {t : String} {v : Value} :
    uuid.decode t = .ok v ↔ ∃ u, Uuid.read? t = some u ∧ v = .uuid u := by
  unfold uuid
  dsimp only
  cases Uuid.read? t with
  | none => exact iff_of_false (fun h => nomatch h) (by simp)
  | some u =>
      constructor
      · intro h
        exact ⟨u, rfl, (Except.ok.inj h).symm⟩
      · rintro ⟨w, hw, rfl⟩
        rw [Option.some.inj hw]

theorem uuid_encode_eq_ok {v : Value} {t : String} :
    uuid.encode v = .ok t ↔ ∃ u, uuidOf v = .ok u ∧ u.text = t := by
  change (do return (← uuidOf v).text) = Except.ok t ↔ _
  simp only [Except.bind_eq_ok_iff, Except.pure_eq_ok_iff]

end Converter

/-! ## Texts of one line -/

namespace Value

theorem line_toDigits (n : Nat) : '\n' ∉ Nat.toDigits 10 n := by
  intro h
  have := Text.isDigit_toDigits _ h
  revert this
  decide

theorem line_intText (n : Int64) : '\n' ∉ (intText n).toList := by
  rw [intText, String.toList_ofList, Json.renderInt, List.mem_append, not_or]
  refine ⟨?_, line_toDigits _⟩
  split <;> simp

theorem line_uuid (u : Uuid) : '\n' ∉ u.text.toList := by
  intro h
  have := (Converter.written_of_accepts_uuid (Converter.accepts_uuid_text u)).2 _ h
  revert this
  decide

theorem line_positional (d : Decimal) : '\n' ∉ d.positional := by
  have hdigits := line_toDigits d.digits
  have hfilled (k : Nat) : '\n' ∉ List.replicate k '0' ++ Nat.toDigits 10 d.digits := by
    simp [hdigits]
  rw [Decimal.positional]
  split
  · split
    · exact hdigits
    · simp [hdigits]
  · intro h
    rcases List.mem_append.mp h with h | h
    · exact hfilled _ (List.mem_of_mem_take h)
    · rcases List.mem_cons.mp h with h | h
      · cases h
      · exact hfilled _ (List.mem_of_mem_drop h)

theorem line_float (x : Binary64) : '\n' ∉ x.text.toList := by
  cases x with
  | nan => exact (by decide : '\n' ∉ "NaN".toList)
  | infinity negative =>
      cases negative with
      | true => exact (by decide : '\n' ∉ "-inf".toList)
      | false => exact (by decide : '\n' ∉ "inf".toList)
  | finite negative size =>
      rw [Binary64.text, String.toList_ofList, List.mem_append, not_or]
      refine ⟨?_, line_positional _⟩
      split <;> simp

/-- A value is shown in one line, unless it is a text of more. -/
theorem line_text {v : Value} (h : ∀ s, v = .str s → '\n' ∉ s.toList) : '\n' ∉ v.text.toList := by
  cases v with
  | str s => exact h s rfl
  | int n => exact line_intText n
  | float x => exact line_float x
  | uuid u => exact line_uuid u

end Value

/-! ## Holes of the builtin converters -/

/-- A hole with a builtin converter and the pattern that its notation reads as. -/
inductive Hole.Builtin : Hole → Prop
  | str (name : String) : Builtin ⟨name, Converter.str, Converter.segmentPattern⟩
  | path (name : String) : Builtin ⟨name, Converter.path, Converter.linePattern⟩
  | int (name : String) : Builtin ⟨name, Converter.int, Converter.digitsPattern⟩
  | float (name : String) : Builtin ⟨name, Converter.float, Converter.decimalPattern⟩
  | uuid (name : String) : Builtin ⟨name, Converter.uuid, Converter.uuidPattern⟩

theorem Registry.builtin_get? {kind : String} {c : Converter}
    (h : Registry.builtin.get? kind = some c) :
    c = Converter.str ∨ c = Converter.path ∨ c = Converter.int ∨ c = Converter.float ∨
      c = Converter.uuid := by
  obtain ⟨e, he, rfl⟩ := Option.map_eq_some_iff.mp h
  have hmem : e ∈ [("uuid", Converter.uuid), ("float", Converter.float), ("int", Converter.int),
    ("path", Converter.path), ("str", Converter.str)] := List.mem_of_find?_eq_some he
  simp only [List.mem_cons, List.not_mem_nil, or_false] at hmem
  rcases hmem with rfl | rfl | rfl | rfl | rfl <;> simp

theorem Hole.builtin_of_get? {kind : String} {h : Hole}
    (hconv : Registry.builtin.get? kind = some h.converter)
    (hpat : Pattern.read? h.converter.pattern = some h.pattern) : h.Builtin := by
  obtain ⟨name, converter, pattern⟩ := h
  rcases Registry.builtin_get? hconv with heq | heq | heq | heq | heq
  all_goals
    dsimp only at heq hpat
    subst heq
  · obtain rfl := Option.some.inj (hpat.symm.trans Converter.read?_str)
    exact .str name
  · obtain rfl := Option.some.inj (hpat.symm.trans Converter.read?_path)
    exact .path name
  · obtain rfl := Option.some.inj (hpat.symm.trans Converter.read?_int)
    exact .int name
  · obtain rfl := Option.some.inj (hpat.symm.trans Converter.read?_float)
    exact .float name
  · obtain rfl := Option.some.inj (hpat.symm.trans Converter.read?_uuid)
    exact .uuid name

namespace Hole.Builtin

variable {h : Hole}

theorem avoids_slash (hb : h.Builtin) (hpath : h.converter ≠ Converter.path) :
    h.pattern.avoids '/' = true := by
  cases hb with
  | path => exact absurd rfl hpath
  | str => exact (by decide : Converter.segmentPattern.avoids '/' = true)
  | int => exact (by decide : Converter.digitsPattern.avoids '/' = true)
  | float => exact (by decide : Converter.decimalPattern.avoids '/' = true)
  | uuid => exact (by decide : Converter.uuidPattern.avoids '/' = true)

/-- What a hole captured and decoded is encoded to the captured text again. -/
theorem encode_of_decode (hb : h.Builtin) (hfloat : h.converter ≠ Converter.float)
    {u : List Char} (hu : h.pattern.Accepts u)
    (hint : h.converter = Converter.int → u = ['0'] ∨ u.head? ≠ some '0') {v : Value}
    (hv : h.converter.decode (String.ofList u) = .ok v) :
    h.converter.encode v = .ok (String.ofList u) := by
  cases hb with
  | str =>
      obtain ⟨hne, hslash⟩ := Converter.accepts_segment.mp hu
      cases hv
      have hempty : (String.ofList u).isEmpty = false := by
        simpa [String.isEmpty_iff] using hne
      simp only [Converter.str, Value.text, hempty, Bool.false_eq_true, if_false,
        String.toList_ofList, List.contains_iff_mem, hslash]
  | path =>
      cases hv
      rfl
  | int =>
      obtain ⟨hne, hdigits⟩ := Converter.accepts_digits.mp hu
      obtain ⟨n, hn, rfl⟩ := Converter.int_decode_eq_ok hv
      rw [Text.readInt64?_digits hne hdigits] at hn
      split at hn
      case isFalse => cases hn
      rename_i hle
      cases hn
      have hpos : ¬ Int64.ofInt (Int.ofNat (Nat.ofDigitChars 10 u 0)) < 0 := by
        rw [Int64.lt_iff_toInt_lt, Converter.toInt_ofInt hle]
        simp
      refine Converter.int_encode_eq_ok.mpr ⟨_, rfl, hpos, ?_⟩
      rw [Converter.intText_ofInt hle, Text.toDigits_ofDigitChars hne hdigits (hint rfl)]
  | float => exact absurd rfl hfloat
  | uuid =>
      obtain ⟨hlen, hwritten⟩ := Converter.written_of_accepts_uuid hu
      obtain ⟨id, hid, rfl⟩ := Converter.uuid_decode_eq_ok.mp hv
      rw [← Uuid.text_of_read? hlen hwritten hid]
      exact Converter.uuid_encode_eq_ok.mpr ⟨id, rfl, rfl⟩

/-- What a value is encoded to is taken by the pattern and can be decoded. -/
theorem accepts_of_encode (hb : h.Builtin) (hfloat : h.converter ≠ Converter.float) {v : Value}
    {t : String} (ht : h.converter.encode v = .ok t)
    (hpath : h.converter = Converter.path → '\n' ∉ t.toList) :
    h.pattern.Accepts t.toList ∧ ∃ w, h.converter.decode t = .ok w := by
  cases hb with
  | str =>
      simp only [Converter.str] at ht
      split at ht
      case isTrue => cases ht
      rename_i hempty
      split at ht
      case isTrue => cases ht
      rename_i hslash
      cases ht
      refine ⟨Converter.accepts_segment.mpr ⟨?_, ?_⟩, _, rfl⟩
      · simpa [String.isEmpty_iff] using hempty
      · simpa using hslash
  | path => exact ⟨Converter.accepts_line.mpr (hpath rfl), _, rfl⟩
  | int =>
      obtain ⟨n, _, hpos, rfl⟩ := Converter.int_encode_eq_ok.mp ht
      obtain ⟨k, hle, _, htext⟩ := Converter.intText_of_nonneg hpos
      rw [htext, String.toList_ofList]
      refine ⟨Converter.accepts_digits.mpr ⟨Nat.toDigits_ne_nil, Text.isDigit_toDigits⟩,
        .int (Int64.ofInt (Int.ofNat k)), ?_⟩
      simp only [Converter.int, Text.readInt64?_toDigits hle]
  | float => exact absurd rfl hfloat
  | uuid =>
      obtain ⟨id, _, rfl⟩ := Converter.uuid_encode_eq_ok.mp ht
      exact ⟨Converter.accepts_uuid_text id, .uuid id,
        Converter.uuid_decode_eq_ok.mpr ⟨id, Uuid.read?_text id, rfl⟩⟩

/-- A builtin converter writes no line feed that is not in the value. -/
theorem line_of_encode (hb : h.Builtin) (hfloat : h.converter ≠ Converter.float) {v : Value}
    {t : String} (ht : h.converter.encode v = .ok t) (hv : '\n' ∉ v.text.toList) :
    '\n' ∉ t.toList := by
  cases hb with
  | str =>
      simp only [Converter.str] at ht
      split at ht
      case isTrue => cases ht
      split at ht
      case isTrue => cases ht
      exact Except.ok.inj ht ▸ hv
  | path => exact Except.ok.inj ht ▸ hv
  | int =>
      obtain ⟨n, _, _, rfl⟩ := Converter.int_encode_eq_ok.mp ht
      exact Value.line_intText n
  | float => exact absurd rfl hfloat
  | uuid =>
      obtain ⟨id, _, rfl⟩ := Converter.uuid_encode_eq_ok.mp ht
      exact Value.line_uuid id

end Hole.Builtin

end Waymark
