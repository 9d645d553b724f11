import Waymark.Proofs.Converter.Kinds
import Waymark.Proofs.Converter.Spelling

/-!
# Encoding and decoding

What a converter encodes is read back, and what it decodes is written again.
Each of the two has one exception:

- `encoded_read_back`: an encoded text is decoded to a value that is encoded
  to it again, the value itself if it is of the kind, and the pattern of the
  converter takes the text. But a `path` also encodes a text with a line feed,
  which its pattern does not take.
- `encode_decode_iff`: a text of the kind that can be decoded is decoded to a
  value that can be encoded. But a `float` decodes a number of any size, and
  one from `Magnitude.limit` up becomes an infinity, which is not encoded.

A number may come back written otherwise, `007` as `7`, and a zero without its
sign.
-/

namespace Waymark

theorem Value.eq_of_same {v w : Value} (h : w.same v = true) (hv : v.float? = none) : w = v := by
  cases v with
  | float x => cases hv
  | str s => exact of_decide_eq_true (by cases w <;> exact h)
  | int n => exact of_decide_eq_true (by cases w <;> exact h)
  | uuid u => exact of_decide_eq_true (by cases w <;> exact h)

namespace Converter

theorem Kind.Holds.float?_eq_none {k : Kind} {v : Value} (h : k.Holds v) (hk : k ≠ .float) :
    v.float? = none := by
  cases h with
  | float x => exact absurd rfl hk
  | _ => rfl

/-! ## Binary numbers -/

theorem float_encode_eq_ok {v : Value} {t : String} :
    float.encode v = .ok t ↔ ∃ negative size, floatOf v = .ok (.finite negative size) ∧
      (negative = true → size.mant = 0) ∧ (Binary64.finite false size).text = t := by
  simp only [float, Except.bind_eq_ok_iff]
  constructor
  · rintro ⟨x, hx, hok⟩
    cases x with
    | nan => cases hok
    | infinity negative => cases hok
    | finite negative size =>
        refine ⟨negative, size, hx, ?_⟩
        by_cases hzero : size.mant = 0
        · have hsame : size = .zero := Decimal.magnitude_eq_zero hzero
          subst hsame
          cases negative <;> exact ⟨fun _ => rfl, Except.ok.inj hok⟩
        · have hne : (size.mant == 0) = false := by simpa using hzero
          cases negative with
          | true =>
              simp only [Binary64.isNegative, bne, hne] at hok
              cases hok
          | false =>
              simp only [Binary64.isFinite, Binary64.isNegative, Binary64.isZero, hne] at hok
              exact ⟨by simp, Except.ok.inj hok⟩
  · rintro ⟨negative, size, hx, hsign, rfl⟩
    refine ⟨_, hx, ?_⟩
    by_cases hzero : size.mant = 0
    · have hsame : size = .zero := Decimal.magnitude_eq_zero hzero
      subst hsame
      cases negative <;> rfl
    · cases negative with
      | true => exact absurd (hsign rfl) hzero
      | false =>
          have hne : (size.mant == 0) = false := by simpa using hzero
          simp only [Binary64.isFinite, Binary64.isNegative, Binary64.isZero, hne]
          rfl

theorem float_decode_of_written {u : List Char} {d : Decimal} (h : Decimal.Written u d) :
    float.decode (String.ofList u) = .ok (.float (.ofDecimal d)) := by
  rw [← String.toList_ofList (l := u)] at h
  simp only [float, Binary64.read?_of_written h]

theorem float_decode_text (size : Magnitude) :
    float.decode (Binary64.finite false size).text = .ok (.float (.finite false size)) := by
  simp only [float, Binary64.read?_text]

namespace Kind

/-! ## What is encoded -/

/-- An encoded text is decoded to a value that is encoded to it again, and that is the value
itself if it is of the kind. -/
theorem decode_encode {k : Kind} {v : Value} {t : String} (ht : k.converter.encode v = .ok t) :
    ∃ w, k.converter.decode t = .ok w ∧ k.converter.encode w = .ok t ∧
      (k.Holds v → w.same v = true) := by
  cases k with
  | str =>
      have htext : v.text = t := by
        simp only [converter, Converter.str] at ht
        split at ht
        · cases ht
        · split at ht
          · cases ht
          · exact Except.ok.inj ht
      refine ⟨.str t, rfl, ?_, ?_⟩
      · subst htext
        exact ht
      · rintro ⟨s⟩
        simp [Value.same, ← htext, Value.text]
  | path =>
      have htext : v.text = t := Except.ok.inj ht
      refine ⟨.str t, rfl, rfl, ?_⟩
      rintro (_ | s)
      simp [Value.same, ← htext, Value.text]
  | int =>
      obtain ⟨n, hn, hpos, rfl⟩ := int_encode_eq_ok.mp ht
      refine ⟨.int n, ?_, int_encode_eq_ok.mpr ⟨n, rfl, hpos, rfl⟩, ?_⟩
      · simp only [converter, Converter.int, Value.readInt64?_intText, Int64.ofInt_toInt]
      · rintro (_ | _ | m)
        obtain rfl := Except.ok.inj hn
        simp [Value.same]
  | float =>
      obtain ⟨negative, size, hx, hsign, rfl⟩ := float_encode_eq_ok.mp ht
      refine ⟨_, float_decode_text size, ?_, ?_⟩
      · exact float_encode_eq_ok.mpr ⟨false, size, rfl, by simp, rfl⟩
      · rintro (_ | _ | _ | x)
        obtain rfl := Except.ok.inj hx
        cases negative with
        | false => simp [Value.same, Binary64.same]
        | true => simp [Value.same, Binary64.same, Binary64.isZero, hsign rfl]
  | uuid =>
      -- the converter by its name, or the identifier is read while the two are compared
      simp only [converter] at ht ⊢
      obtain ⟨u, hu, rfl⟩ := uuid_encode_eq_ok.mp ht
      refine ⟨.uuid u, uuid_decode_eq_ok.mpr ⟨u, Uuid.read?_text u, rfl⟩,
        uuid_encode_eq_ok.mpr ⟨u, rfl, rfl⟩, ?_⟩
      rintro (_ | _ | _ | _ | w)
      obtain rfl := Except.ok.inj hu
      simp [Value.same]

/-- The text of a `path` that is encoded may be of more than one line. -/
theorem accepts_encode_iff {k : Kind} {v : Value} {t : String}
    (ht : k.converter.encode v = .ok t) :
    k.pattern.Accepts t.toList ↔ ¬ (k = path ∧ '\n' ∈ t.toList) := by
  by_cases hpath : k = path
  · subst hpath
    simp [pattern, accepts_line]
  · refine iff_of_true ?_ fun h => hpath h.1
    by_cases hfloat : k = float
    · subst hfloat
      obtain ⟨negative, size, _, _, rfl⟩ := float_encode_eq_ok.mp ht
      obtain ⟨d, hwritten, _⟩ := Decimal.exists_written_positional (Decimal.shortest size)
      refine accepts_decimal.mpr ⟨d, ?_⟩
      simpa [Binary64.text] using hwritten
    · have hne : k.converter ≠ Converter.float := fun h => hfloat (converter_injective h)
      have hline : k.converter = Converter.path → '\n' ∉ t.toList :=
        fun h => absurd (converter_injective (l := path) h) hpath
      exact ((k.builtin "").accepts_of_encode hne ht hline).1

/-! ## What is decoded -/

def Overflows (u : List Char) : Prop :=
  ∃ d, Decimal.Written u d ∧ Magnitude.limit * d.ratio.2 ≤ d.ratio.1

theorem ofDecimal_eq {u : List Char} {d : Decimal} (h : Decimal.Written u d) :
    (∃ size, Binary64.ofDecimal d = .finite false size) ∧ ¬ Overflows u ∨
      Binary64.ofDecimal d = .infinity false ∧ Overflows u := by
  have hover : Overflows u ↔ d.toMagnitude? = none := by
    rw [d.toMagnitude?_eq_none_iff]
    constructor
    · rintro ⟨d', h', hle⟩
      have hsame := (Decimal.read?_of_written h').symm.trans (Decimal.read?_of_written h)
      rwa [← Option.some.inj hsame]
    · intro hle
      exact ⟨d, h, hle⟩
  rw [Binary64.ofDecimal, hover]
  cases d.toMagnitude? with
  | none => exact Or.inr ⟨rfl, rfl⟩
  | some size => exact Or.inl ⟨⟨size, rfl⟩, by simp⟩

/-- What is decoded can be encoded, unless it is a number that overflows. -/
theorem encode_decode_iff {k : Kind} {u : List Char} {v : Value} (hu : k.Takes u)
    (hv : k.converter.decode (String.ofList u) = .ok v) :
    (∃ t, k.converter.encode v = .ok t) ↔ ¬ (k = float ∧ Overflows u) := by
  cases hu with
  | str hne hslash =>
      refine iff_of_true ⟨String.ofList u, ?_⟩ (by simp)
      cases hv
      simp [converter, Converter.str, Value.text, hne, hslash]
  | path hline =>
      cases hv
      exact iff_of_true ⟨String.ofList u, rfl⟩ (by simp)
  | int hne hdigits =>
      obtain ⟨n, hn, rfl⟩ := int_decode_eq_ok hv
      rw [Text.readInt64?_digits hne hdigits] at hn
      split at hn
      case isFalse => cases hn
      rename_i hle
      obtain rfl := Option.some.inj hn
      refine iff_of_true ⟨_, int_encode_eq_ok.mpr ⟨_, rfl, ?_, rfl⟩⟩ (by simp)
      rw [Int64.lt_iff_toInt_lt, toInt_ofInt hle]
      simp
  | @float _ d hwritten =>
      obtain rfl := Except.ok.inj ((float_decode_of_written hwritten).symm.trans hv)
      rcases ofDecimal_eq hwritten with ⟨⟨size, hsize⟩, hno⟩ | ⟨hinf, hover⟩
      · rw [hsize]
        exact iff_of_true ⟨_, float_encode_eq_ok.mpr ⟨false, size, rfl, by simp, rfl⟩⟩
          fun h => hno h.2
      · rw [hinf]
        refine iff_of_false ?_ fun h => h ⟨rfl, hover⟩
        rintro ⟨t, ht⟩
        cases ht
  | uuid =>
      obtain ⟨id, _, rfl⟩ := uuid_decode_eq_ok.mp hv
      exact iff_of_true ⟨_, uuid_encode_eq_ok.mpr ⟨id, rfl, rfl⟩⟩ (by simp)

/-- What was decoded is encoded to a text of the kind that is decoded to it again. -/
theorem decode_encode_of_decode {k : Kind} {u : List Char} {v : Value} {t : String}
    (hu : k.Takes u) (hv : k.converter.decode (String.ofList u) = .ok v)
    (ht : k.converter.encode v = .ok t) :
    k.pattern.Accepts t.toList ∧ k.converter.decode t = .ok v := by
  have htaken := accepts_encode_iff ht
  by_cases hfloat : k = float
  · subst hfloat
    obtain ⟨d, hwritten⟩ := accepts_decimal.mp (accepts_iff.mpr hu)
    obtain rfl := Except.ok.inj ((float_decode_of_written hwritten).symm.trans hv)
    refine ⟨htaken.mpr (by simp), ?_⟩
    obtain ⟨negative, size, hx, _, rfl⟩ := float_encode_eq_ok.mp ht
    replace hx : Binary64.ofDecimal d = .finite negative size := Except.ok.inj hx
    obtain ⟨⟨size', hsize⟩, _⟩ | ⟨hinf, _⟩ := ofDecimal_eq hwritten
    · rw [hsize] at hx ⊢
      cases hx
      exact float_decode_text size
    · rw [hinf] at hx
      cases hx
  · have hkind := holds_of_decode hv
    obtain ⟨w, hw, _, hsame⟩ := decode_encode ht
    rw [Value.eq_of_same (hsame hkind) (hkind.float?_eq_none hfloat)] at hw
    refine ⟨htaken.mpr ?_, hw⟩
    rintro ⟨rfl, hline⟩
    cases hu with
    | path hone =>
        cases hv
        obtain rfl : String.ofList u = t := Except.ok.inj ht
        exact hone (by simpa using hline)

end Kind

/-- What a converter encodes is decoded again, to the value itself if it is of the kind, and is
taken by the pattern, but for the lines of a `path`. -/
theorem encoded_read_back {k : Kind} {v : Value} {t : String}
    (ht : k.converter.encode v = .ok t) :
    ∃ p, Pattern.read? k.converter.pattern = some p ∧
      (p.Accepts t.toList ↔ ¬ (k = .path ∧ '\n' ∈ t.toList)) ∧
      ∃ w, k.converter.decode t = .ok w ∧ k.converter.encode w = .ok t ∧
        (k.Holds v → w.same v = true) :=
  ⟨k.pattern, k.read?_pattern, k.accepts_encode_iff ht, k.decode_encode ht⟩

theorem encoded_read_back_seven : int.encode (.str "+007") = .ok "7" ∧
    ∃ p, Pattern.read? int.pattern = some p ∧
      (p.Accepts "7".toList ↔ ¬ (Kind.int = .path ∧ '\n' ∈ "7".toList)) ∧
      ∃ w, int.decode "7" = .ok w ∧ int.encode w = .ok "7" ∧
        (Kind.int.Holds (.str "+007") → w.same (.str "+007") = true) := by
  have ht : int.encode (.str "+007") = .ok "7" := rfl
  exact ⟨ht, encoded_read_back (k := .int) ht⟩

/-- A `path` is encoded with its line feeds, and its pattern takes none. -/
theorem path_encodes_line_feed : path.encode (.str "a\nb") = .ok "a\nb" ∧
    Pattern.read? path.pattern = some linePattern ∧ ¬ linePattern.Accepts "a\nb".toList := by
  refine ⟨rfl, read?_path, fun h => accepts_line.mp h ?_⟩
  decide

end Converter

end Waymark
