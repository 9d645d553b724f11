import Waymark.Proofs.Converter.Builtin
import Waymark.Proofs.Number.Shortest

/-!
# The kinds of placeholders

There are five builtin kinds (`Converter.Kind`). A kind has a name and a
converter, and it says which texts a placeholder stands for (`Kind.Takes`) and
which values come out of it (`Kind.Holds`). The last two are said here without
a pattern or a decoder. `Kind.accepts_iff` and `Kind.holds_of_decode` tie them
to the converters, and `kind_of_get?` says that the registry has no others.
-/

namespace Waymark

namespace Converter

inductive Kind where
  | str
  | path
  | int
  | float
  | uuid
  deriving DecidableEq

namespace Kind

def name : Kind → String
  | str => "str"
  | path => "path"
  | int => "int"
  | float => "float"
  | uuid => "uuid"

def converter : Kind → Converter
  | str => Converter.str
  | path => Converter.path
  | int => Converter.int
  | float => Converter.float
  | uuid => Converter.uuid

def pattern : Kind → Pattern
  | str => segmentPattern
  | path => linePattern
  | int => digitsPattern
  | float => decimalPattern
  | uuid => uuidPattern

theorem get?_name (k : Kind) : Registry.builtin.get? k.name = some k.converter := by
  cases k <;> rfl

theorem read?_pattern (k : Kind) : Pattern.read? k.converter.pattern = some k.pattern := by
  cases k with
  | str => exact read?_str
  | path => exact read?_path
  | int => exact read?_int
  | float => exact read?_float
  | uuid => exact read?_uuid

theorem builtin (k : Kind) (name : String) : Hole.Builtin ⟨name, k.converter, k.pattern⟩ :=
  Hole.builtin_of_get? k.get?_name k.read?_pattern

theorem name_injective {k l : Kind} (h : k.name = l.name) : k = l := by
  revert h
  cases k <;> cases l <;> decide

/-- No two kinds have the same converter: their patterns differ. -/
theorem converter_injective {k l : Kind} (h : k.converter = l.converter) : k = l := by
  have hpattern := congrArg Converter.pattern h
  revert hpattern
  cases k <;> cases l <;> decide

/-! ## Values -/

/-- The values of a kind. -/
inductive Holds : Kind → Value → Prop
  | str (s : String) : Holds str (.str s)
  | path (s : String) : Holds path (.str s)
  | int (n : Int64) : Holds int (.int n)
  | float (x : Binary64) : Holds float (.float x)
  | uuid (u : Uuid) : Holds uuid (.uuid u)

theorem holds_of_decode {k : Kind} {s : String} {v : Value} (h : k.converter.decode s = .ok v) :
    k.Holds v := by
  cases k with
  | str =>
      cases h
      exact .str s
  | path =>
      cases h
      exact .path s
  | int =>
      obtain ⟨n, _, rfl⟩ := int_decode_eq_ok h
      exact .int _
  | float =>
      simp only [converter, Converter.float] at h
      split at h
      · cases h
        exact .float _
      · cases h
  | uuid =>
      obtain ⟨u, _, rfl⟩ := uuid_decode_eq_ok.mp h
      exact .uuid u

/-! ## Texts -/

/-- A number of hexadecimal digits with small letters. -/
def IsHex (count : Nat) (u : List Char) : Prop :=
  u.length = count ∧ ∀ c ∈ u, ('0' ≤ c ∧ c ≤ '9') ∨ ('a' ≤ c ∧ c ≤ 'f')

/-- The texts that a placeholder of a kind stands for. -/
inductive Takes : Kind → List Char → Prop
  | str {u : List Char} (hne : u ≠ []) (hslash : '/' ∉ u) : Takes str u
  | path {u : List Char} (hline : '\n' ∉ u) : Takes path u
  | int {u : List Char} (hne : u ≠ []) (hdigits : ∀ c ∈ u, Text.isDigit c = true) : Takes int u
  | float {u : List Char} {d : Decimal} (hwritten : Decimal.Written u d) : Takes float u
  | uuid {v₁ v₂ v₃ v₄ v₅ : List Char} (h₁ : IsHex 8 v₁) (h₂ : IsHex 4 v₂) (h₃ : IsHex 4 v₃)
      (h₄ : IsHex 4 v₄) (h₅ : IsHex 12 v₅) :
      Takes uuid (v₁ ++ '-' :: (v₂ ++ '-' :: (v₃ ++ '-' :: (v₄ ++ '-' :: v₅))))

theorem accepts_hex_iff {count : Nat} {u : List Char} :
    (hexPattern count).Accepts u ↔ IsHex count u := by
  rw [accepts_hex, IsHex]
  simp [CharSet.has]

theorem accepts_decimal {u : List Char} :
    decimalPattern.Accepts u ↔ ∃ d, Decimal.Written u d := by
  rw [decimalPattern, Pattern.accepts_seq]
  constructor
  · rintro ⟨ds, rest, rfl, hds, hrest⟩
    obtain ⟨hne, hdigits⟩ := accepts_digits.mp hds
    rcases (Pattern.accepts_optional (by simp)).mp hrest with rfl | hrest
    · rw [List.append_nil]
      exact ⟨_, .whole hne hdigits⟩
    · obtain ⟨point, fs, rfl, hpoint, hfs⟩ := Pattern.accepts_seq.mp hrest
      obtain ⟨hfne, hfdigits⟩ := accepts_digits.mp hfs
      rw [Pattern.accepts_one.mp hpoint]
      exact ⟨_, .fraction hne hdigits hfne hfdigits⟩
  · rintro ⟨d, hwritten⟩
    cases hwritten with
    | whole hne hds =>
        refine ⟨u, [], (List.append_nil u).symm, accepts_digits.mpr ⟨hne, hds⟩, ?_⟩
        exact (Pattern.accepts_optional (by simp)).mpr (Or.inl rfl)
    | @fraction ds fs hne hds hfne hfs =>
        refine ⟨ds, '.' :: fs, rfl, accepts_digits.mpr ⟨hne, hds⟩, ?_⟩
        refine (Pattern.accepts_optional (by simp)).mpr (Or.inr ?_)
        exact Pattern.accepts_seq.mpr ⟨['.'], fs, rfl, Pattern.accepts_one.mpr rfl,
          accepts_digits.mpr ⟨hfne, hfs⟩⟩

theorem accepts_uuid {u : List Char} : uuidPattern.Accepts u ↔ Takes uuid u := by
  simp only [uuidPattern, accepts_hyphen, accepts_hex_iff]
  constructor
  · rintro ⟨v₁, _, rfl, h₁, v₂, _, rfl, h₂, v₃, _, rfl, h₃, v₄, v₅, rfl, h₄, h₅⟩
    exact .uuid h₁ h₂ h₃ h₄ h₅
  · rintro (_ | _ | _ | _ | ⟨h₁, h₂, h₃, h₄, h₅⟩)
    exact ⟨_, _, rfl, h₁, _, _, rfl, h₂, _, _, rfl, h₃, _, _, rfl, h₄, h₅⟩

/-- The pattern of a kind takes the texts of the kind and no others. -/
theorem accepts_iff {k : Kind} {u : List Char} : k.pattern.Accepts u ↔ k.Takes u := by
  cases k with
  | str =>
      refine accepts_segment.trans ⟨fun h => .str h.1 h.2, ?_⟩
      rintro ⟨hne, hslash⟩
      exact ⟨hne, hslash⟩
  | path =>
      refine accepts_line.trans ⟨.path, ?_⟩
      rintro (_ | hline)
      exact hline
  | int =>
      refine accepts_digits.trans ⟨fun h => .int h.1 h.2, ?_⟩
      rintro (_ | _ | ⟨hne, hdigits⟩)
      exact ⟨hne, hdigits⟩
  | float =>
      refine accepts_decimal.trans ⟨fun h => .float h.choose_spec, ?_⟩
      rintro (_ | _ | _ | hwritten)
      exact ⟨_, hwritten⟩
  | uuid => exact accepts_uuid

end Kind

theorem kind_of_get? {name : String} {c : Converter} (h : Registry.builtin.get? name = some c) :
    ∃ k : Kind, k.name = name ∧ k.converter = c := by
  obtain ⟨e, he, rfl⟩ := Option.map_eq_some_iff.mp h
  have hmem : e ∈ [("uuid", uuid), ("float", float), ("int", int), ("path", path),
    ("str", str)] := List.mem_of_find?_eq_some he
  have hname := List.find?_some he
  simp only [beq_iff_eq] at hname
  subst hname
  simp only [List.mem_cons, List.not_mem_nil, or_false] at hmem
  rcases hmem with rfl | rfl | rfl | rfl | rfl
  · exact ⟨.uuid, rfl, rfl⟩
  · exact ⟨.float, rfl, rfl⟩
  · exact ⟨.int, rfl, rfl⟩
  · exact ⟨.path, rfl, rfl⟩
  · exact ⟨.str, rfl, rfl⟩

end Converter

theorem Hole.Builtin.exists_kind {h : Hole} (hb : h.Builtin) :
    ∃ k : Converter.Kind, h = ⟨h.name, k.converter, k.pattern⟩ := by
  cases hb with
  | str => exact ⟨.str, rfl⟩
  | path => exact ⟨.path, rfl⟩
  | int => exact ⟨.int, rfl⟩
  | float => exact ⟨.float, rfl⟩
  | uuid => exact ⟨.uuid, rfl⟩

end Waymark
