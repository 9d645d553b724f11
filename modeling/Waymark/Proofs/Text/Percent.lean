import Mathlib.Data.List.Basic
import Waymark.Proofs.Text.Cut
import Waymark.Text.Percent

/-!
# Percent encoding undone

Encoding writes bytes as `%XX`, decoding reads every complete `%XX`, also those
that stood in the text before. So decoding an encoded text gives what decoding
the text itself gives, as long as the encoding leaves `%` and the hexadecimal
digits alone (`decode_encode`). The proof is on bytes (`encodeBytes`): the first
byte that is written as `%XX` ends any `%XX` that was about to begin.

A text can be cut for decoding where something stands that is no hexadecimal
digit (`decode_append`).
-/

namespace Waymark.Text

/-! ## Bytes -/

theorem utf8_append (a b : List Char) : utf8 (a ++ b) = utf8 a ++ utf8 b := List.flatMap_append

theorem utf8_cons (c : Char) (cs : List Char) :
    utf8 (c :: cs) = String.utf8EncodeChar c ++ utf8 cs := List.flatMap_cons

theorem utf8_injective {a b : List Char} (h : utf8 a = utf8 b) : a = b := by
  have hbytes : (String.ofList a).toByteArray = (String.ofList b).toByteArray :=
    congrArg List.toByteArray h
  exact String.ofList_inj.mp (String.toByteArray_inj.mp hbytes)

theorem utf8EncodeChar_of_ascii {c : Char} (h : c.toNat < 0x80) :
    String.utf8EncodeChar c = [UInt8.ofNat c.toNat] := by
  have hsmall : c.val.toNat ≤ 127 := Nat.le_of_lt_succ h
  rw [String.utf8EncodeChar]
  exact if_pos hsmall

theorem le_of_mem_utf8EncodeChar {c : Char} (h : ¬ c.toNat < 0x80) :
    ∀ b ∈ String.utf8EncodeChar c, 0x80 ≤ b := by
  have hlarge : ¬ c.val.toNat ≤ 127 := fun hle => h (Nat.lt_succ_of_le hle)
  have hbyte {n : Nat} (hlow : 0x80 ≤ n) (hhigh : n < 0x100) : (0x80 : UInt8) ≤ UInt8.ofNat n := by
    rw [UInt8.le_iff_toNat_le, UInt8.toNat_ofNat_of_lt' hhigh]
    exact hlow
  intro b hb
  rw [String.utf8EncodeChar, if_neg hlarge] at hb
  split at hb
  · simp only [List.mem_cons, List.not_mem_nil, or_false] at hb
    rcases hb with rfl | rfl <;> exact hbyte (by omega) (by omega)
  · split at hb <;> simp only [List.mem_cons, List.not_mem_nil, or_false] at hb
    · rcases hb with rfl | rfl | rfl <;> exact hbyte (by omega) (by omega)
    · rcases hb with rfl | rfl | rfl | rfl <;> exact hbyte (by omega) (by omega)

/-- What holds of the bytes one by one holds of all. -/
theorem forall_byte {P : UInt8 → Prop} (h : ∀ n < 256, P (UInt8.ofNat n)) (b : UInt8) : P b := by
  have hb := h b.toNat b.toNat_lt
  rwa [UInt8.ofNat_toNat] at hb

theorem utf8_of_ascii {cs : List Char} (h : ∀ c ∈ cs, c.toNat < 0x80) :
    utf8 cs = cs.map fun c => UInt8.ofNat c.toNat := by
  induction cs with
  | nil => rfl
  | cons c cs ih =>
      rw [utf8_cons, utf8EncodeChar_of_ascii (h c (List.mem_cons_self ..)),
        ih fun d hd => h d (List.mem_cons_of_mem _ hd)]
      rfl

namespace Percent

/-! ## Hexadecimal digits -/

theorem toNat_of_hexValue? {c : Char} (h : (hexValue? c).isSome) :
    48 ≤ c.toNat ∧ c.toNat ≤ 57 ∨ 97 ≤ c.toNat ∧ c.toNat ≤ 102 ∨
      65 ≤ c.toNat ∧ c.toNat ≤ 70 := by
  unfold hexValue? at h
  split at h
  · rename_i hd
    rw [isDigit, Bool.and_eq_true, decide_eq_true_eq, decide_eq_true_eq] at hd
    exact Or.inl hd
  · split at h
    · rename_i hd
      rw [Bool.and_eq_true, decide_eq_true_eq, decide_eq_true_eq] at hd
      exact Or.inr (Or.inl hd)
    · split at h
      · rename_i hd
        rw [Bool.and_eq_true, decide_eq_true_eq, decide_eq_true_eq] at hd
        exact Or.inr (Or.inr hd)
      · cases h

theorem forall_hex {p : Char → Bool} (h : "0123456789abcdefABCDEF".toList.all p = true) {c : Char}
    (hc : (hexValue? c).isSome) : p c = true := by
  have hrange := toNat_of_hexValue? hc
  have hdigits : ∀ n < 103, 48 ≤ n ∧ n ≤ 57 ∨ 97 ≤ n ∧ n ≤ 102 ∨ 65 ≤ n ∧ n ≤ 70 →
      "0123456789abcdefABCDEF".toList.contains (Char.ofNat n) = true := by decide +kernel
  have hmem := hdigits c.toNat (by omega) hrange
  rw [Char.ofNat_toNat, List.contains_iff_mem] at hmem
  exact List.all_eq_true.mp h c hmem

/-! ## Decoding -/

def isHex (b : UInt8) : Bool := (hexValue? (Char.ofNat b.toNat)).isSome

theorem byteOf?_isSome (x y : UInt8) : (byteOf? x y).isSome = (isHex x && isHex y) := by
  unfold byteOf? isHex
  cases hexValue? (Char.ofNat x.toNat) <;> cases hexValue? (Char.ofNat y.toNat) <;> rfl

/-- The byte that is written behind a `%`, if the text goes on with two digits. -/
def escaped? : List UInt8 → Option UInt8
  | x :: y :: _ => byteOf? x y
  | _ => none

theorem decode_cons (b : UInt8) (bs : List UInt8) : decode (b :: bs) =
    match if b == 0x25 then escaped? bs else none with
    | some v => v :: decode (bs.drop 2)
    | none => b :: decode bs := by
  match bs with
  | [] => cases b == 0x25 <;> rfl
  | [x] => cases b == 0x25 <;> rfl
  | x :: y :: rest =>
      rw [decode]
      cases b == 0x25
      · rfl
      · simp only [if_true, escaped?]
        cases byteOf? x y <;> rfl

theorem decode_cons_of_ne {b : UInt8} (h : b ≠ 0x25) (bs : List UInt8) :
    decode (b :: bs) = b :: decode bs := by
  rw [decode_cons, if_neg (by simpa using h)]

theorem decode_cons_of_none {b : UInt8} {bs : List UInt8} (h : escaped? bs = none) :
    decode (b :: bs) = b :: decode bs := by
  rw [decode_cons, h, ite_self]

theorem decode_escaped {x y v : UInt8} (h : byteOf? x y = some v) (bs : List UInt8) :
    decode (0x25 :: x :: y :: bs) = v :: decode bs := by
  rw [decode_cons, beq_self_eq_true, if_pos rfl, escaped?, h]
  rfl

theorem escaped?_eq_none {bs : List UInt8} (h : ∀ b ∈ bs.head?, isHex b = false) :
    escaped? bs = none := by
  match bs with
  | [] => rfl
  | [x] => rfl
  | x :: y :: rest =>
      have hsome := byteOf?_isSome x y
      rw [h x rfl, Bool.false_and, Option.isSome_eq_false_iff, Option.isNone_iff_eq_none] at hsome
      exact hsome

/-- What begins a `%XX` stays in front of a byte that is no digit. -/
theorem escaped?_append {bs more : List UInt8} (h : ∀ b ∈ more.head?, isHex b = false) :
    escaped? (bs ++ more) = escaped? bs := by
  match bs with
  | [] => exact escaped?_eq_none h
  | [x] =>
      cases more with
      | nil => rfl
      | cons y rest =>
          have hsome := byteOf?_isSome x y
          rw [h y rfl, Bool.and_false, Option.isSome_eq_false_iff,
            Option.isNone_iff_eq_none] at hsome
          exact hsome
  | x :: y :: rest => rfl

theorem escaped?_eq_some {bs : List UInt8} {v : UInt8} (h : escaped? bs = some v) :
    ∃ x y rest, bs = x :: y :: rest ∧ byteOf? x y = some v := by
  match bs, h with
  | x :: y :: rest, h => exact ⟨x, y, rest, rfl, h⟩

/-- Decoding goes by parts where no digit stands at the cut. -/
theorem decode_append {bs more : List UInt8} (h : ∀ b ∈ more.head?, isHex b = false) :
    decode (bs ++ more) = decode bs ++ decode more := by
  match bs with
  | [] => rfl
  | b :: bs =>
      rw [List.cons_append]
      by_cases hb : b = 0x25
      · subst hb
        cases hesc : escaped? bs with
        | none =>
            have hmore : escaped? (bs ++ more) = none := by rw [escaped?_append h, hesc]
            rw [decode_cons_of_none hmore, decode_cons_of_none hesc, decode_append h,
              List.cons_append]
        | some v =>
            obtain ⟨x, y, rest, rfl, hv⟩ := escaped?_eq_some hesc
            rw [List.cons_append, List.cons_append, decode_escaped hv, decode_escaped hv,
              decode_append h, List.cons_append]
      · rw [decode_cons_of_ne hb, decode_cons_of_ne hb, decode_append h, List.cons_append]
  termination_by bs.length

theorem length_decode_le (bs : List UInt8) : (decode bs).length ≤ bs.length := by
  match bs with
  | [] => exact Nat.le_refl 0
  | b :: bs =>
      rw [decode_cons]
      split
      · have ih := length_decode_le (bs.drop 2)
        simp only [List.length_cons, List.length_drop] at ih ⊢
        omega
      · have ih := length_decode_le bs
        simp only [List.length_cons]
        omega
  termination_by bs.length
  decreasing_by
    · simp only [List.length_cons, List.length_drop]
      omega
    · simp

/-- Decoding that makes a text no shorter has found nothing to decode. -/
theorem decode_eq_self {bs : List UInt8} (h : bs.length ≤ (decode bs).length) :
    decode bs = bs := by
  induction bs with
  | nil => rfl
  | cons b bs ih =>
      rw [decode_cons] at h ⊢
      split at h
      · have hle := length_decode_le (bs.drop 2)
        simp only [List.length_cons, List.length_drop] at h hle
        have hlong : 2 ≤ bs.length := by
          rename_i hesc
          obtain ⟨_, hesc⟩ := Option.ite_none_right_eq_some.mp hesc
          obtain ⟨x, y, rest, rfl, _⟩ := escaped?_eq_some hesc
          simp
        omega
      · simp only [List.length_cons] at h
        rw [ih (by omega)]

/-! ## Encoding -/

/-- Encoding on bytes: bytes beyond ASCII are never kept. -/
def encodeBytes (keep : Char → Bool) (bs : List UInt8) : List UInt8 :=
  bs.flatMap fun b => if b.toNat < 0x80 && keep (Char.ofNat b.toNat) then [b] else utf8 (escape b)

/-- An encoding that leaves `%XX` as it is. -/
structure KeepsEscapes (keep : Char → Bool) : Prop where
  percent : keep '%' = true
  hex : ∀ c, (hexValue? c).isSome → keep c = true

theorem utf8_escape (b : UInt8) :
    ∃ x y, utf8 (escape b) = [0x25, x, y] ∧ byteOf? x y = some b := by
  have hb := forall_byte
    (P := fun b => let bs := utf8 (escape b)
      bs = [0x25, bs.getD 1 0, bs.getD 2 0] ∧ byteOf? (bs.getD 1 0) (bs.getD 2 0) = some b)
    (by decide +kernel) b
  exact ⟨_, _, hb⟩

theorem utf8_encode (keep : Char → Bool) (cs : List Char) :
    utf8 (encode keep cs) = encodeBytes keep (utf8 cs) := by
  induction cs with
  | nil => rfl
  | cons c cs ih =>
      rw [encode, List.flatMap_cons, ← encode, utf8_append, ih, utf8_cons, encodeBytes, encodeBytes,
        List.flatMap_append]
      congr 1
      by_cases hascii : c.toNat < 0x80
      · have hbyte : (UInt8.ofNat c.toNat).toNat = c.toNat :=
          UInt8.toNat_ofNat_of_lt' (Nat.lt_trans hascii (by decide))
        have hchar : Char.ofNat c.toNat = c := Char.ofNat_toNat c
        rw [utf8EncodeChar_of_ascii hascii, List.flatMap_singleton, List.flatMap_singleton, hbyte,
          hchar]
        split
        · rw [utf8_of_ascii (by simpa using hascii)]
          rfl
        · rfl
      · have hnone : ∀ b ∈ String.utf8EncodeChar c,
            (if b.toNat < 0x80 && keep (Char.ofNat b.toNat) then [b] else utf8 (escape b)) =
              utf8 (escape b) := by
          intro b hb
          have hle := UInt8.le_iff_toNat_le.mp (le_of_mem_utf8EncodeChar hascii b hb)
          have hnot : ¬ b.toNat < 0x80 := Nat.not_lt.mpr hle
          rw [decide_eq_false hnot, Bool.false_and]
          rfl
        rw [List.flatMap_congr hnone, decide_eq_false hascii, Bool.false_and]
        simp only [utf8, List.flatMap_assoc, Bool.false_eq_true, if_false]

section Encode

variable {keep : Char → Bool}

theorem encodeBytes_cons_of_keep {b : UInt8} (h : b.toNat < 0x80)
    (hkeep : keep (Char.ofNat b.toNat) = true) (bs : List UInt8) :
    encodeBytes keep (b :: bs) = b :: encodeBytes keep bs := by
  rw [encodeBytes, List.flatMap_cons, decide_eq_true h, hkeep]
  rfl

/-- A byte that is encoded is kept, or it is written so that it is decoded to itself. -/
theorem encodeBytes_cons_cases (keep : Char → Bool) (b : UInt8) (bs : List UInt8) :
    encodeBytes keep (b :: bs) = b :: encodeBytes keep bs ∨
      ∃ x y, encodeBytes keep (b :: bs) = 0x25 :: x :: y :: encodeBytes keep bs ∧
        byteOf? x y = some b := by
  rw [encodeBytes, List.flatMap_cons]
  split
  · exact Or.inl rfl
  · obtain ⟨x, y, hesc, hv⟩ := utf8_escape b
    exact Or.inr ⟨x, y, by rw [hesc]; rfl, hv⟩

theorem lt_of_isHex {b : UInt8} (h : isHex b = true) : b.toNat < 0x80 :=
  forall_byte (P := fun b => isHex b = true → b.toNat < 0x80) (by decide +kernel) b h

theorem not_isHex_percent : isHex 0x25 = false := by decide

theorem encodeBytes_cons_of_isHex (hkeep : KeepsEscapes keep) {b : UInt8} (h : isHex b = true)
    (bs : List UInt8) : encodeBytes keep (b :: bs) = b :: encodeBytes keep bs :=
  encodeBytes_cons_of_keep (lt_of_isHex h) (hkeep.hex _ h) bs

theorem encodeBytes_percent (hkeep : KeepsEscapes keep) (bs : List UInt8) :
    encodeBytes keep (0x25 :: bs) = 0x25 :: encodeBytes keep bs :=
  encodeBytes_cons_of_keep (by decide) hkeep.percent bs

theorem head?_encodeBytes {bs : List UInt8} (h : ∀ b ∈ bs.head?, isHex b = false) :
    ∀ b ∈ (encodeBytes keep bs).head?, isHex b = false := by
  cases bs with
  | nil => exact h
  | cons c cs =>
      rcases encodeBytes_cons_cases keep c cs with hsame | ⟨x, y, hesc, _⟩
      · rw [hsame]
        exact h
      · rw [hesc]
        rintro b ⟨⟩
        exact not_isHex_percent

/-- Encoding makes no `%XX` out of a `%` that began none. -/
theorem escaped?_encodeBytes (hkeep : KeepsEscapes keep) {bs : List UInt8}
    (h : escaped? bs = none) : escaped? (encodeBytes keep bs) = none := by
  match bs with
  | [] => rfl
  | x :: rest =>
      cases hx : isHex x with
      | false =>
          refine escaped?_eq_none (head?_encodeBytes ?_)
          rintro b ⟨⟩
          exact hx
      | true =>
          rw [encodeBytes_cons_of_isHex hkeep hx]
          -- the digit is kept, so the byte behind it decides
          have hrest : ∀ b ∈ rest.head?, isHex b = false := by
            cases rest with
            | nil => simp
            | cons y more =>
                have hsome := byteOf?_isSome x y
                rw [escaped?] at h
                rw [h, hx, Bool.true_and] at hsome
                rintro b ⟨⟩
                exact hsome.symm
          change escaped? ([x] ++ encodeBytes keep rest) = none
          rw [escaped?_append (head?_encodeBytes hrest)]
          rfl

theorem decode_encodeBytes (hkeep : KeepsEscapes keep) (bs : List UInt8) :
    decode (encodeBytes keep bs) = decode bs := by
  match bs with
  | [] => rfl
  | b :: bs =>
      by_cases hb : b = 0x25
      · subst hb
        rw [encodeBytes_percent hkeep]
        cases hesc : escaped? bs with
        | none =>
            rw [decode_cons_of_none hesc, decode_cons_of_none (escaped?_encodeBytes hkeep hesc),
              decode_encodeBytes hkeep]
        | some v =>
            obtain ⟨x, y, rest, rfl, hv⟩ := escaped?_eq_some hesc
            have hhex := byteOf?_isSome x y
            rw [hv, Option.isSome_some, eq_comm, Bool.and_eq_true] at hhex
            rw [encodeBytes_cons_of_isHex hkeep hhex.1, encodeBytes_cons_of_isHex hkeep hhex.2,
              decode_escaped hv, decode_escaped hv, decode_encodeBytes hkeep]
      · rw [decode_cons_of_ne hb]
        rcases encodeBytes_cons_cases keep b bs with hsame | ⟨x, y, hesc, hv⟩
        · rw [hsame, decode_cons_of_ne hb, decode_encodeBytes hkeep]
        · rw [hesc, decode_escaped hv, decode_encodeBytes hkeep]
  termination_by bs.length

/-- Decoding undoes encoding, up to what the text had to be decoded itself. -/
theorem decode_encode (hkeep : KeepsEscapes keep) (cs : List Char) :
    decode (utf8 (encode keep cs)) = decode (utf8 cs) := by
  rw [utf8_encode, decode_encodeBytes hkeep]

theorem encode_eq_self {cs : List Char} (h : ∀ c ∈ cs, c.toNat < 0x80 ∧ keep c = true) :
    encode keep cs = cs := by
  induction cs with
  | nil => rfl
  | cons c cs ih =>
      obtain ⟨hascii, hc⟩ := h c (List.mem_cons_self ..)
      rw [encode, List.flatMap_cons, ← encode, ih fun d hd => h d (List.mem_cons_of_mem _ hd),
        decide_eq_true hascii, hc]
      rfl

theorem encode_append (keep : Char → Bool) (a b : List Char) :
    encode keep (a ++ b) = encode keep a ++ encode keep b := List.flatMap_append

theorem mem_encode {cs : List Char} {c : Char} (h : c ∈ encode keep cs) :
    (c ∈ cs ∧ c.toNat < 0x80 ∧ keep c = true) ∨ c = '%' ∨ (hexValue? c).isSome := by
  obtain ⟨d, hmem, hc⟩ := List.mem_flatMap.mp h
  split at hc
  · rename_i hd
    rw [Bool.and_eq_true, decide_eq_true_eq] at hd
    rw [List.mem_singleton] at hc
    subst hc
    exact Or.inl ⟨hmem, hd⟩
  · obtain ⟨b, _, hc⟩ := List.mem_flatMap.mp hc
    have hall := forall_byte
      (P := fun b => (escape b).all (fun c => c == '%' || (hexValue? c).isSome) = true)
      (by decide +kernel) b
    simpa using Or.inr (List.all_eq_true.mp hall c hc)

end Encode

end Percent

end Waymark.Text
