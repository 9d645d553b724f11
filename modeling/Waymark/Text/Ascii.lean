/-!
# ASCII letters

Method names, header names and hexadecimal digits are ASCII by their
standards, so case is folded for the twenty-six ASCII letters only and every
other character stands for itself.
-/

namespace Waymark.Text

def isDigit (c : Char) : Bool := '0' ≤ c && c ≤ '9'

def isLower (c : Char) : Bool := 'a' ≤ c && c ≤ 'z'

def isUpper (c : Char) : Bool := 'A' ≤ c && c ≤ 'Z'

def isLetter (c : Char) : Bool := isLower c || isUpper c

/-- The text with its ASCII capitals written small. -/
def lower (s : String) : String := String.ofList (s.toList.map Char.toLower)

/-- The text with its small ASCII letters written as capitals. -/
def upper (s : String) : String := String.ofList (s.toList.map Char.toUpper)

/-- Equality of texts up to the case of ASCII letters. -/
def sameLetters (s t : String) : Bool := lower s == lower t

/-- The value of a hexadecimal digit of either case. -/
def hexValue? (c : Char) : Option Nat :=
  if isDigit c then some (c.toNat - '0'.toNat)
  else if 'a' ≤ c && c ≤ 'f' then some (c.toNat - 'a'.toNat + 10)
  else if 'A' ≤ c && c ≤ 'F' then some (c.toNat - 'A'.toNat + 10)
  else none

/-- The small hexadecimal digit of a value below sixteen. -/
def hexDigit (n : Nat) : Char :=
  if n < 10 then Char.ofNat ('0'.toNat + n) else Char.ofNat ('a'.toNat + n - 10)

/-- A number in hexadecimal, without leading zeros. -/
def hex (n : Nat) : String := String.ofList (Nat.toDigits 16 n)

/-- A number in hexadecimal, filled with zeros on the left up to `width` digits. -/
def hexWide (width n : Nat) : List Char :=
  let ds := Nat.toDigits 16 n
  List.replicate (width - ds.length) '0' ++ ds

/-- The characters of a method or header name: letters, digits and fifteen marks. -/
def isTokenChar (c : Char) : Bool :=
  isLetter c || isDigit c || "!#$%&'*+-.^_\x60|~".toList.contains c

theorem sameLetters_iff (s t : String) : sameLetters s t = true ↔ lower s = lower t := by
  simp [sameLetters]

theorem toUpper_toLower (c : Char) : c.toLower.toUpper = c.toUpper := by
  by_cases h : c.val ≥ 'A'.val ∧ c.val ≤ 'Z'.val
  · have hlow : 65 ≤ c.toNat := UInt32.le_iff_toNat_le.mp h.1
    have hhigh : c.toNat ≤ 90 := UInt32.le_iff_toNat_le.mp h.2
    have hlower : c.toLower.toNat = c.toNat + 32 := by
      unfold Char.toLower
      rw [dif_pos h]
      change (c.val + ('a'.val - 'A'.val)).toNat = c.val.toNat + 32
      rw [UInt32.toNat_add]
      change (c.toNat + 32) % 2 ^ 32 = c.toNat + 32
      omega
    have hsmall : 'a'.val ≤ c.toLower.val ∧ c.toLower.val ≤ 'z'.val := by
      refine ⟨UInt32.le_iff_toNat_le.mpr ?_, UInt32.le_iff_toNat_le.mpr ?_⟩
      · change 97 ≤ c.toLower.toNat
        omega
      · change c.toLower.toNat ≤ 122
        omega
    have hcapital : ¬ ('a'.val ≤ c.val ∧ c.val ≤ 'z'.val) := by
      intro hc
      have : 97 ≤ c.toNat := UInt32.le_iff_toNat_le.mp hc.1
      omega
    unfold Char.toUpper
    rw [dif_pos hsmall, dif_neg hcapital]
    refine Char.ext (UInt32.toNat_inj.mp ?_)
    -- taking away the distance between the cases is adding its complement
    change (c.toLower.val + ('A'.val - 'a'.val)).toNat = c.toNat
    rw [UInt32.toNat_add]
    change (c.toLower.toNat + 4294967264) % 2 ^ 32 = c.toNat
    omega
  · have hsame : c.toLower = c := dif_neg h
    rw [hsame]

theorem upper_lower (s : String) : upper (lower s) = upper s := by
  rw [upper, lower, upper, String.toList_ofList, List.map_map]
  exact congrArg String.ofList (List.map_congr_left fun c _ => toUpper_toLower c)

theorem upper_eq_of_sameLetters {s t : String} (h : sameLetters s t = true) :
    upper s = upper t := by
  rw [← upper_lower s, (sameLetters_iff s t).mp h, upper_lower]

end Waymark.Text
