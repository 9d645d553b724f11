import Mathlib.Algebra.GroupWithZero.Nat
import Waymark.Proofs.Except
import Waymark.Proofs.Text.Cut
import Waymark.Proofs.Text.Integer
import Waymark.Proofs.Text.Percent
import Waymark.Url.Address

/-!
# Addresses read back

What an address is written as is read as that address: four numbers between
points (`readIpv4?_ipv4Text`), and eight numbers between colons of which `::`
stands for a run of zeros (`readIpv6?_ipv6Text`). The numbers are in range,
whatever text they were read from (`readIpv4?_lt`, `readIpv6?_range`).
-/

namespace Waymark.Address

open Text

/-! ## IPv4 -/

/-- Four numbers between points. -/
def quad (a b c d : Nat) : List Char :=
  Nat.toDigits 10 a ++ '.' :: (Nat.toDigits 10 b ++ '.' :: (Nat.toDigits 10 c ++
    '.' :: Nat.toDigits 10 d))

theorem toList_ipv4Text (n : Nat) : (ipv4Text n).toList =
    quad (n / 256 ^ 3 % 256) (n / 256 ^ 2 % 256) (n / 256 % 256) (n % 256) := by
  have htext (m : Nat) : (toString m).toList = Nat.toDigits 10 m := by
    rw [Nat.toString_eq_ofList_toDigits, String.toList_ofList]
  simp only [ipv4Text, List.map_cons, List.map_nil, joined, String.toList_append, htext, quad]
  simp

theorem point_not_mem_toDigits (n : Nat) : '.' ∉ Nat.toDigits 10 n :=
  fun h => absurd (isDigit_toDigits _ h) (by decide)

theorem pieces_quad (a b c d : Nat) : pieces '.' (quad a b c d) =
    [Nat.toDigits 10 a, Nat.toDigits 10 b, Nat.toDigits 10 c, Nat.toDigits 10 d] := by
  rw [quad, pieces_append_cons, pieces_append_cons, pieces_append_cons]
  simp only [pieces_of_not_mem (point_not_mem_toDigits _)]
  rfl

theorem labels_quad (a b c d : Nat) : labels (quad a b c d) =
    [Nat.toDigits 10 a, Nat.toDigits 10 b, Nat.toDigits 10 c, Nat.toDigits 10 d] := by
  rw [labels, pieces_quad]
  exact if_neg fun h => Nat.toDigits_ne_nil (Option.some.inj h)

theorem endsInNumber_quad (a b c d : Nat) : endsInNumber (quad a b c d) = true := by
  have hdigits : (Nat.toDigits 10 d).all isDigit = true := List.all_eq_true.mpr isDigit_toDigits
  have hne : (Nat.toDigits 10 d).isEmpty = false := by
    rw [Bool.eq_false_iff, Ne, List.isEmpty_iff]
    exact Nat.toDigits_ne_nil
  rw [endsInNumber, labels_quad]
  simp [hdigits, hne]

theorem number?_toDigits {n : Nat} (h : n < 256) : number? (Nat.toDigits 10 n) = some n := by
  have hall : ∀ n < 256, number? (Nat.toDigits 10 n) = some n := by decide +kernel
  exact hall n h

theorem readIpv4?_quad {a b c d : Nat} (ha : a < 256) (hb : b < 256) (hc : c < 256)
    (hd : d < 256) :
    readIpv4? (quad a b c d) = some (d + a * 256 ^ 3 + b * 256 ^ 2 + c * 256) := by
  have hlow : ¬ 256 ≤ d := by omega
  have ha' : ¬ 255 < a := by omega
  have hb' : ¬ 255 < b := by omega
  have hc' : ¬ 255 < c := by omega
  rw [readIpv4?, labels_quad]
  simp [number?_toDigits ha, number?_toDigits hb, number?_toDigits hc, number?_toDigits hd,
    hlow, ha', hb', hc', List.zipIdx]

theorem readIpv4?_ipv4Text {n : Nat} (h : n < 256 ^ 4) :
    readIpv4? (ipv4Text n).toList = some n := by
  rw [toList_ipv4Text, readIpv4?_quad (Nat.mod_lt _ (by decide)) (Nat.mod_lt _ (by decide))
    (Nat.mod_lt _ (by decide)) (Nat.mod_lt _ (by decide))]
  congr 1
  omega

theorem foldl_bytes_le {front : List Nat} (h : ∀ m ∈ front, m ≤ 255) : ∀ place sum : Nat,
    place + front.length ≤ 4 →
    (front.zipIdx place).foldl (fun sum x => sum + x.1 * Nat.pow 256 (3 - x.2)) sum +
      256 ^ (4 - (place + front.length)) ≤ sum + 256 ^ (4 - place) := by
  induction front with
  | nil =>
      intro place sum _
      exact Nat.le_refl _
  | cons n front ih =>
      intro place sum hroom
      rw [List.length_cons] at hroom ⊢
      obtain ⟨hn, hfront⟩ := List.forall_mem_cons.mp h
      have hle := ih hfront (place + 1) (sum + n * Nat.pow 256 (3 - place)) (by omega)
      have hlen : place + 1 + front.length = place + (front.length + 1) := by omega
      have hplace : 4 - place = 3 - place + 1 := by omega
      have hnext : 4 - (place + 1) = 3 - place := by omega
      have hmul : n * 256 ^ (3 - place) ≤ 255 * 256 ^ (3 - place) := Nat.mul_le_mul_right _ hn
      rw [hlen, hnext] at hle
      rw [List.zipIdx_cons, List.foldl_cons, hplace, Nat.pow_succ]
      refine Nat.le_trans hle ?_
      change sum + n * 256 ^ (3 - place) + 256 ^ (3 - place) ≤ _
      omega

theorem readIpv4?_lt {cs : List Char} {n : Nat} (h : readIpv4? cs = some n) : n < 256 ^ 4 := by
  obtain ⟨ns, _, h⟩ := Option.bind_eq_some_iff.mp h
  dsimp only at h
  split at h
  · cases h
  rename_i hshort
  obtain ⟨last, hlast, h⟩ := Option.bind_eq_some_iff.mp h
  obtain ⟨front, rfl⟩ := List.getLast?_eq_some_iff.mp hlast
  rw [List.length_append, List.length_singleton] at hshort
  rw [List.dropLast_concat] at h
  split at h
  · cases h
  rename_i hrange
  rw [Bool.or_eq_true, not_or, decide_eq_true_eq, List.any_eq_true] at hrange
  obtain ⟨hlast, hbytes⟩ := hrange
  have hfront : ∀ m ∈ front, m ≤ 255 := fun m hm =>
    Nat.not_lt.mp fun hlt => hbytes ⟨m, hm, decide_eq_true hlt⟩
  have hle := foldl_bytes_le hfront 0 last (by omega)
  rw [Nat.zero_add, Nat.sub_zero] at hle
  have hroom : last < 256 ^ (4 - front.length) := Nat.not_le.mp hlast
  obtain rfl := Option.some.inj h
  omega

/-! ## Numbers in hexadecimal -/

theorem hexValue?_digitChar {d : Nat} (h : d < 16) :
    digitValue? 16 (Nat.digitChar d) = some d := by
  have hall : ∀ d < 16, digitValue? 16 (Nat.digitChar d) = some d := by decide
  exact hall d h

theorem readDigits?_append_singleton {radix : Nat} {cs : List Char} {c : Char} {acc m d : Nat}
    (hcs : readDigits? radix acc cs = some m) (hc : digitValue? radix c = some d) :
    readDigits? radix acc (cs ++ [c]) = some (m * radix + d) := by
  induction cs generalizing acc with
  | nil =>
      obtain rfl := Option.some.inj hcs
      rw [List.nil_append, readDigits?, hc]
      rfl
  | cons e cs ih =>
      obtain ⟨v, hv, hcs⟩ := Option.bind_eq_some_iff.mp hcs
      rw [List.cons_append, readDigits?, hv]
      exact ih hcs

theorem readDigitRun?_hex (n : Nat) : readDigitRun? 16 (Nat.toDigits 16 n) = some n := by
  have hrun (m : Nat) : readDigits? 16 0 (Nat.toDigits 16 m) = some m := by
    induction m using Nat.strongRecOn with
    | ind m ih =>
        by_cases hm : m < 16
        · rw [Nat.toDigits_of_lt_base hm, readDigits?, hexValue?_digitChar hm]
          simp [readDigits?]
        · have hread := readDigits?_append_singleton (ih (m / 16) (by omega))
            (hexValue?_digitChar (Nat.mod_lt m (by decide : 0 < 16)))
          rw [Nat.toDigits_of_base_le (by decide) (by omega), hread]
          congr 1
          omega
  rw [readDigitRun?, hrun]
  exact fun h => Nat.toDigits_ne_nil h

theorem hex_of_mem_toDigits {n : Nat} : ∀ c ∈ Nat.toDigits 16 n, (hexValue? c).isSome := by
  induction n using Nat.strongRecOn with
  | ind n ih =>
      intro c hc
      have hdigit : ∀ d < 16, (hexValue? (Nat.digitChar d)).isSome := by decide
      by_cases hn : n < 16
      · rw [Nat.toDigits_of_lt_base hn, List.mem_singleton] at hc
        exact hc ▸ hdigit n hn
      · rw [Nat.toDigits_of_base_le (by decide) (by omega), List.mem_append,
          List.mem_singleton] at hc
        rcases hc with hc | rfl
        · exact ih _ (by omega) c hc
        · exact hdigit _ (Nat.mod_lt _ (by decide))

theorem readDigits?_lt {radix : Nat} {cs : List Char} {acc n : Nat}
    (h : readDigits? radix acc cs = some n) : n < (acc + 1) * radix ^ cs.length := by
  induction cs generalizing acc with
  | nil =>
      obtain rfl := Option.some.inj h
      simp
  | cons c cs ih =>
      obtain ⟨v, hv, h⟩ := Option.bind_eq_some_iff.mp h
      have hdigit : v < radix := of_decide_eq_true (Option.filter_eq_some_iff.mp hv).2
      have hle : acc * radix + v + 1 ≤ (acc + 1) * radix := by
        rw [Nat.add_mul, Nat.one_mul]
        omega
      calc n < (acc * radix + v + 1) * radix ^ cs.length := ih h
        _ ≤ (acc + 1) * radix * radix ^ cs.length := Nat.mul_le_mul_right _ hle
        _ = (acc + 1) * radix ^ (c :: cs).length := by
            rw [List.length_cons, Nat.pow_succ', Nat.mul_assoc]

theorem readDigitRun?_lt {cs : List Char} {n : Nat} (hlen : cs.length ≤ 4)
    (h : readDigitRun? 16 cs = some n) : n < 65536 := by
  cases cs with
  | nil => cases h
  | cons c cs =>
      have hlt := readDigits?_lt h
      have hpow : 16 ^ (c :: cs).length ≤ 16 ^ 4 := Nat.pow_le_pow_right (by decide) hlen
      omega

/-! ## IPv6 -/

def Groups (ns : List Nat) : Prop := ∀ n ∈ ns, n < 65536

theorem length_toDigits_le {n : Nat} (h : n < 65536) : (Nat.toDigits 16 n).length ≤ 4 :=
  (Nat.length_toDigits_le_iff (by decide) (by decide)).mpr h

theorem not_mem_toDigits {n : Nat} {c : Char} (h : (hexValue? c).isSome = false) :
    c ∉ Nat.toDigits 16 n := by
  intro hmem
  rw [hex_of_mem_toDigits c hmem] at h
  cases h

theorem readGroups?_singleton (g : List Char) : readGroups? [g] =
    if g.contains '.' then readTail? g
    else if g.length ≤ 4 then (readDigitRun? 16 g).map ([·]) else none := rfl

theorem readGroups?_cons {g : List Char} {gs : List (List Char)} (hne : gs ≠ []) :
    readGroups? (g :: gs) = if g.length > 4 then none
      else (readDigitRun? 16 g).bind fun n => (readGroups? gs).map (n :: ·) := by
  rw [readGroups?]
  · split
    · rfl
    · cases readDigitRun? 16 g with
      | none => rfl
      | some n => cases readGroups? gs <;> rfl
  · exact hne

theorem readGroups?_digits {ns : List Nat} (h : Groups ns) (hne : ns ≠ []) :
    readGroups? (ns.map (Nat.toDigits 16)) = some ns := by
  induction ns with
  | nil => exact absurd rfl hne
  | cons n ns ih =>
      obtain ⟨hn, hns⟩ := List.forall_mem_cons.mp h
      have hlen := length_toDigits_le hn
      cases ns with
      | nil =>
          have hpoint : ¬ (Nat.toDigits 16 n).contains '.' = true := by
            simpa using not_mem_toDigits (n := n) (c := '.') (by decide)
          rw [List.map_singleton, readGroups?_singleton, if_neg hpoint, if_pos hlen,
            readDigitRun?_hex, Option.map_some]
      | cons m ns =>
          rw [List.map_cons, readGroups?_cons (by simp), if_neg (Nat.not_lt.mpr hlen),
            readDigitRun?_hex, Option.bind_some, ih hns (List.cons_ne_nil m ns), Option.map_some]

theorem byte?_le {cs : List Char} {n : Nat} (h : byte? cs = some n) : n ≤ 255 := by
  unfold byte? at h
  split at h
  · cases h
  · cases h
  · exact of_decide_eq_true (Option.filter_eq_some_iff.mp h).2

theorem groups_of_readTail? {cs : List Char} {ns : List Nat} (h : readTail? cs = some ns) :
    Groups ns := by
  obtain ⟨bytes, hbytes, h⟩ := Option.bind_eq_some_iff.mp h
  have hle : ∀ n ∈ bytes, n ≤ 255 := by
    intro n hn
    obtain ⟨cs, _, hread⟩ := Option.exists_of_mem_mapM hbytes n hn
    exact byte?_le hread
  split at h
  · obtain rfl := Option.some.inj h
    intro n hn
    simp only [List.forall_mem_cons] at hle
    simp only [List.mem_cons, List.not_mem_nil, or_false] at hn
    omega
  · cases h

theorem groups_of_readGroups? {gs : List (List Char)} {ns : List Nat}
    (h : readGroups? gs = some ns) : Groups ns := by
  induction gs generalizing ns with
  | nil =>
      obtain rfl := Option.some.inj h
      simp [Groups]
  | cons g gs ih =>
      by_cases hgs : gs = []
      · rw [hgs, readGroups?_singleton] at h
        split at h
        · exact groups_of_readTail? h
        · split at h
          · rename_i hlen
            obtain ⟨n, hn, rfl⟩ := Option.map_eq_some_iff.mp h
            exact List.forall_mem_singleton.mpr (readDigitRun?_lt hlen hn)
          · cases h
      · rw [readGroups?_cons hgs] at h
        split at h
        · cases h
        · rename_i hlen
          obtain ⟨n, hn, h⟩ := Option.bind_eq_some_iff.mp h
          obtain ⟨rest, hrest, rfl⟩ := Option.map_eq_some_iff.mp h
          exact List.forall_mem_cons.mpr ⟨readDigitRun?_lt (Nat.not_lt.mp hlen) hn, ih hrest⟩

theorem groups_of_readSide? {cs : List Char} {ns : List Nat} (h : readSide? cs = some ns) :
    Groups ns := by
  rw [readSide?] at h
  split at h
  · obtain rfl := Option.some.inj h
    simp [Groups]
  · exact groups_of_readGroups? h

/-- What is read as an address are eight numbers of 16 bits. -/
theorem readIpv6?_range {cs : List Char} {ns : List Nat} (h : readIpv6? cs = some ns) :
    ns.length = 8 ∧ Groups ns := by
  unfold readIpv6? at h
  split at h
  · obtain ⟨hread, hlen⟩ := Option.filter_eq_some_iff.mp h
    exact ⟨eq_of_beq hlen, groups_of_readSide? hread⟩
  · dsimp only at h
    split at h
    · cases h
    obtain ⟨front, hfront, h⟩ := Option.bind_eq_some_iff.mp h
    obtain ⟨back, hback, h⟩ := Option.bind_eq_some_iff.mp h
    split at h
    · cases h
    obtain rfl := Option.some.inj h
    constructor
    · simp only [List.length_append, List.length_replicate]
      omega
    · intro n hn
      simp only [List.mem_append] at hn
      rcases hn with (hn | hn) | hn
      · exact groups_of_readSide? hfront n hn
      · rw [List.eq_of_mem_replicate hn]
        decide
      · exact groups_of_readSide? hback n hn

def groupChars : List Nat → List Char
  | [] => []
  | [n] => Nat.toDigits 16 n
  | n :: ns => Nat.toDigits 16 n ++ ':' :: groupChars ns

theorem toList_groupsText (ns : List Nat) : (groupsText ns).toList = groupChars ns := by
  induction ns with
  | nil => rfl
  | cons n ns ih =>
      cases ns with
      | nil => simp [groupsText, joined, groupChars, hex]
      | cons m ns =>
          have hjoin : groupsText (n :: m :: ns) = hex n ++ ":" ++ groupsText (m :: ns) := rfl
          rw [hjoin, String.toList_append, String.toList_append, ih]
          simp [groupChars, hex]

theorem colon_not_mem_toDigits (n : Nat) : ':' ∉ Nat.toDigits 16 n := not_mem_toDigits (by decide)

theorem mem_groupChars {ns : List Nat} :
    ∀ c ∈ groupChars ns, (hexValue? c).isSome ∨ c = ':' := by
  induction ns with
  | nil => simp [groupChars]
  | cons n ns ih =>
      cases ns with
      | nil => exact fun c hc => Or.inl (hex_of_mem_toDigits c hc)
      | cons m ns =>
          intro c hc
          rw [groupChars, List.mem_append, List.mem_cons] at hc
          · rcases hc with hc | rfl | hc
            · exact Or.inl (hex_of_mem_toDigits c hc)
            · exact Or.inr rfl
            · exact ih c hc
          · simp

theorem groupChars_cons_cons (n m : Nat) (ns : List Nat) :
    groupChars (n :: m :: ns) = Nat.toDigits 16 n ++ ':' :: groupChars (m :: ns) := rfl

theorem head?_groupChars (n : Nat) (ns : List Nat) (cs : List Char) :
    (groupChars (n :: ns) ++ cs).head? ≠ some ':' := by
  obtain ⟨d, ds, hdigits⟩ := List.exists_cons_of_ne_nil (Nat.toDigits_ne_nil (b := 16) (n := n))
  have hd : d ≠ ':' := by
    rintro rfl
    exact colon_not_mem_toDigits n (hdigits ▸ List.mem_cons_self ..)
  have hhead : (groupChars (n :: ns) ++ cs).head? = some d := by
    cases ns with
    | nil => rw [groupChars, hdigits]; rfl
    | cons m ns => rw [groupChars_cons_cons, hdigits]; rfl
  rw [hhead]
  exact fun h => hd (Option.some.inj h)

theorem pieces_groupChars {ns : List Nat} (hne : ns ≠ []) :
    pieces ':' (groupChars ns) = ns.map (Nat.toDigits 16) := by
  induction ns with
  | nil => exact absurd rfl hne
  | cons n ns ih =>
      cases ns with
      | nil => exact pieces_of_not_mem (colon_not_mem_toDigits n)
      | cons m ns =>
          rw [groupChars_cons_cons, pieces_append_cons,
            pieces_of_not_mem (colon_not_mem_toDigits n), ih (List.cons_ne_nil m ns)]
          rfl

theorem readSide?_groupChars {ns : List Nat} (h : Groups ns) :
    readSide? (groupChars ns) = some ns := by
  cases ns with
  | nil => rfl
  | cons n ns =>
      have hne : ¬ (groupChars (n :: ns)).isEmpty = true := by
        rw [List.isEmpty_iff]
        cases ns with
        | nil => exact Nat.toDigits_ne_nil
        | cons m ns => simp [groupChars_cons_cons]
      rw [readSide?, if_neg hne, pieces_groupChars (List.cons_ne_nil n ns),
        readGroups?_digits h (List.cons_ne_nil n ns)]

/-! ### The gap -/

theorem cutGap?_cons {c : Char} {cs : List Char} (h : c ≠ ':' ∨ cs.head? ≠ some ':') :
    cutGap? (c :: cs) = (cutGap? cs).map fun (before, after) => (c :: before, after) := by
  rw [cutGap?]
  rintro rest rfl rfl
  rcases h with h | h <;> exact h rfl

theorem cutGap?_append {a : List Char} (h : ':' ∉ a) (cs : List Char) :
    cutGap? (a ++ cs) = (cutGap? cs).map fun (before, after) => (a ++ before, after) := by
  induction a with
  | nil => simp
  | cons c a ih =>
      rw [List.mem_cons, not_or] at h
      rw [List.cons_append, cutGap?_cons (Or.inl (Ne.symm h.1)), ih h.2, Option.map_map]
      rfl

theorem cutGap?_groupChars (ns : List Nat) : cutGap? (groupChars ns) = none := by
  induction ns with
  | nil => rfl
  | cons n ns ih =>
      cases ns with
      | nil =>
          have happ := cutGap?_append (colon_not_mem_toDigits n) []
          rwa [List.append_nil] at happ
      | cons m ns =>
          have hhead := head?_groupChars m ns []
          rw [List.append_nil] at hhead
          rw [groupChars_cons_cons, cutGap?_append (colon_not_mem_toDigits n),
            cutGap?_cons (Or.inr hhead), ih]
          rfl

/-- The first gap is the one between two rows of numbers. -/
theorem cutGap?_gap (ns : List Nat) (cs : List Char) :
    cutGap? (groupChars ns ++ ':' :: ':' :: cs) = some (groupChars ns, cs) := by
  induction ns with
  | nil => rfl
  | cons n ns ih =>
      cases ns with
      | nil =>
          rw [groupChars, cutGap?_append (colon_not_mem_toDigits n)]
          simp [cutGap?]
      | cons m ns =>
          rw [groupChars_cons_cons, List.append_assoc, List.cons_append,
            cutGap?_append (colon_not_mem_toDigits n),
            cutGap?_cons (Or.inr (head?_groupChars m ns _)), ih]
          rfl

/-- The run that is left out is a run of zeros. -/
theorem longestZeros_run (place : Nat) (ns : List Nat) : (longestZeros place ns).2 = 0 ∨
    ∃ front back, ns = front ++ List.replicate (longestZeros place ns).2 0 ++ back ∧
      (longestZeros place ns).1 = place + front.length := by
  induction ns generalizing place with
  | nil => exact Or.inl rfl
  | cons n ns ih =>
      rw [longestZeros]
      split
      · refine Or.inr ⟨[], (n :: ns).dropWhile (· == 0), ?_, rfl⟩
        have hzero : ∀ m ∈ (n :: ns).takeWhile (· == 0), m = 0 := fun m hm =>
          eq_of_beq (List.mem_takeWhile_imp (p := (· == 0)) hm)
        have hzeros : (n :: ns).takeWhile (· == 0) =
            List.replicate ((n :: ns).takeWhile (· == 0)).length 0 :=
          List.eq_replicate_iff.mpr ⟨rfl, hzero⟩
        rw [List.nil_append, ← hzeros, List.takeWhile_append_dropWhile]
      · rcases ih (place + 1) with hnone | ⟨front, back, hns, hstart⟩
        · exact Or.inl hnone
        · refine Or.inr ⟨n :: front, back, ?_, ?_⟩
          · rw [List.cons_append, List.cons_append, ← hns]
          · rw [hstart, List.length_cons]
            omega

/-- The text of an address is its numbers, or its numbers before and after a run of zeros. -/
theorem toList_ipv6Text (ns : List Nat) : (ipv6Text ns).toList = groupChars ns ∨
    ∃ front count back, 2 ≤ count ∧ ns = front ++ List.replicate count 0 ++ back ∧
      (ipv6Text ns).toList = groupChars front ++ ':' :: ':' :: groupChars back := by
  have hrun := longestZeros_run 0 ns
  rw [ipv6Text]
  generalize longestZeros 0 ns = run at hrun
  obtain ⟨start, count⟩ := run
  dsimp only at hrun ⊢
  split
  · exact Or.inl (toList_groupsText ns)
  · rename_i hcount
    rcases hrun with hnone | ⟨front, back, rfl, rfl⟩
    · omega
    · refine Or.inr ⟨front, count, back, by omega, rfl, ?_⟩
      have hfront : (front ++ List.replicate count 0 ++ back).take front.length = front := by
        rw [List.append_assoc, List.take_left]
      have hback : (front ++ List.replicate count 0 ++ back).drop (front.length + count) = back :=
        List.drop_left' (by simp)
      rw [Nat.zero_add, hfront, hback, String.toList_append, String.toList_append,
        toList_groupsText, toList_groupsText]
      simp

theorem mem_ipv6Text {ns : List Nat} {c : Char} (h : c ∈ (ipv6Text ns).toList) :
    (hexValue? c).isSome ∨ c = ':' := by
  rcases toList_ipv6Text ns with htext | ⟨front, _, back, _, _, htext⟩
  · exact mem_groupChars c (htext ▸ h)
  · rw [htext, List.mem_append, List.mem_cons, List.mem_cons] at h
    rcases h with h | rfl | rfl | h
    · exact mem_groupChars c h
    · exact Or.inr rfl
    · exact Or.inr rfl
    · exact mem_groupChars c h

/-- An address is read from what it is written as. -/
theorem readIpv6?_ipv6Text {ns : List Nat} (hlen : ns.length = 8) (h : Groups ns) :
    readIpv6? (ipv6Text ns).toList = some ns := by
  rcases toList_ipv6Text ns with htext | ⟨front, count, back, hcount, hns, htext⟩
  · rw [htext, readIpv6?, cutGap?_groupChars]
    simp only [readSide?_groupChars h, Option.filter_some, hlen, beq_self_eq_true, if_true]
  · have hfront : Groups front := fun n hn => h n (by rw [hns]; simp [hn])
    have hback : Groups back := fun n hn => h n (by rw [hns]; simp [hn])
    have hpoint : ¬ (groupChars front).contains '.' = true := by
      rw [List.contains_iff_mem]
      intro hmem
      rcases mem_groupChars _ hmem with hhex | heq
      · exact absurd hhex (by decide)
      · cases heq
    rw [htext, readIpv6?, cutGap?_gap]
    simp only [if_neg hpoint, readSide?_groupChars hfront, readSide?_groupChars hback,
      Option.bind_eq_bind, Option.bind_some]
    have hzeros : 8 - (front.length + back.length) = count := by
      rw [hns, List.length_append, List.length_append, List.length_replicate] at hlen
      omega
    rw [if_neg (by omega), hzeros, hns]
    rfl

end Waymark.Address
