import Mathlib.Data.List.Basic
import Waymark.Uuid

/-!
# Identifiers read back

A UUID is read back from what it is written as (`read?_text`), and a text in
the written form, small letters and hyphens, is what the UUID read from it is
written as (`text_of_read?`). The other forms that are read are written
otherwise.
-/

namespace Waymark

namespace Uuid

/-- A small hexadecimal digit or a hyphen: the characters of the written form. -/
def isWritten (c : Char) : Bool :=
  ('0' ≤ c && c ≤ '9') || ('a' ≤ c && c ≤ 'f') || c == '-'

theorem length_plain (u : Uuid) : u.plain.length = 32 := by
  rw [plain, List.length_map, u.length_eq]

theorem length_hyphenate {cs : List Char} (h : cs.length = 32) : (hyphenate cs).length = 36 := by
  simp [hyphenate, h]

def unhyphenate (cs : List Char) : List Char :=
  cs.take 8 ++ (cs.drop 9).take 4 ++ (cs.drop 14).take 4 ++ (cs.drop 19).take 4 ++ cs.drop 24

theorem hyphenate_groups {a b c d : List Char} (ha : a.length = 8) (hb : b.length = 4)
    (hc : c.length = 4) (hd : d.length = 4) (e : List Char) :
    hyphenate (a ++ (b ++ (c ++ (d ++ e)))) =
      a ++ '-' :: (b ++ '-' :: (c ++ '-' :: (d ++ '-' :: e))) := by
  simp [hyphenate, List.drop_append, List.drop_eq_nil_of_le, ha, hb, hc, hd]

theorem unhyphenate_groups {a b c d : List Char} (ha : a.length = 8) (hb : b.length = 4)
    (hc : c.length = 4) (hd : d.length = 4) (e : List Char) :
    unhyphenate (a ++ '-' :: (b ++ '-' :: (c ++ '-' :: (d ++ '-' :: e)))) =
      a ++ (b ++ (c ++ (d ++ e))) := by
  simp [unhyphenate, List.drop_append, List.drop_eq_nil_of_le, ha, hb, hc, hd]

theorem unhyphenate_hyphenate {cs : List Char} (h : cs.length = 32) :
    unhyphenate (hyphenate cs) = cs := by
  have hgroups : cs = cs.take 8 ++ ((cs.drop 8).take 4 ++ ((cs.drop 12).take 4 ++
      ((cs.drop 16).take 4 ++ cs.drop 20))) := by
    have hcut (n m : Nat) : cs.drop n = (cs.drop n).take m ++ cs.drop (n + m) := by
      rw [← List.drop_drop, List.take_append_drop]
    rw [← hcut 16 4, ← hcut 12 4, ← hcut 8 4, List.take_append_drop]
  have hlen (n m : Nat) (hle : n + m ≤ 32) : ((cs.drop n).take m).length = m := by
    rw [List.length_take, List.length_drop, h]
    omega
  have hfirst : (cs.take 8).length = 8 := hlen 0 8 (by omega)
  rw [hgroups, hyphenate_groups hfirst (hlen 8 4 (by omega)) (hlen 12 4 (by omega))
    (hlen 16 4 (by omega)), unhyphenate_groups hfirst (hlen 8 4 (by omega)) (hlen 12 4 (by omega))
    (hlen 16 4 (by omega))]

theorem digit?_hexDigit (d : Fin 16) : digit? (Text.hexDigit d.val) = some d := by
  revert d
  decide

theorem mapM_digit?_plain (u : Uuid) : u.plain.mapM digit? = some u.digits := by
  rw [plain]
  induction u.digits with
  | nil => rfl
  | cons d ds ih =>
      rw [List.map_cons, List.mapM_cons, digit?_hexDigit, ih]
      rfl

theorem ofPlain?_plain (u : Uuid) : ofPlain? u.plain = some u := by
  simp [ofPlain?, mapM_digit?_plain, u.length_eq]

/-- A UUID is read from what it is written as. -/
theorem read?_text (u : Uuid) : read? u.text = some u := by
  have hlen : u.chars.length = 36 := length_hyphenate u.length_plain
  have hback : unhyphenate u.chars = u.plain := unhyphenate_hyphenate u.length_plain
  rw [read?, text, String.toList_ofList]
  simp only [hlen]
  rw [if_neg (by decide), if_pos trivial, ofHyphenated?]
  change (if hyphenate (unhyphenate u.chars) = u.chars then _ else _) = _
  rw [hback]
  refine (if_pos rfl).trans ?_
  change ofPlain? (unhyphenate u.chars) = _
  rw [hback, ofPlain?_plain]

theorem hexDigit_of_digit? {c : Char} (hc : isWritten c = true) {d : Fin 16}
    (h : digit? c = some d) : Text.hexDigit d.val = c := by
  obtain ⟨n, hn, h⟩ := Option.bind_eq_some_iff.mp h
  split at h
  case isFalse => cases h
  cases h
  simp only [isWritten, Bool.or_eq_true, Bool.and_eq_true, decide_eq_true_eq, beq_iff_eq] at hc
  rcases hc with (hdigit | hletter) | rfl
  · have hle : 48 ≤ c.toNat ∧ c.toNat ≤ 57 := hdigit
    rw [Text.hexValue?, if_pos (by simpa [Text.isDigit] using hdigit)] at hn
    cases hn
    have hten : c.toNat - '0'.toNat < 10 := by
      change c.toNat - 48 < 10
      omega
    have hsum : '0'.toNat + (c.toNat - '0'.toNat) = c.toNat := by
      change 48 + (c.toNat - 48) = c.toNat
      omega
    simp only [Text.hexDigit, hten, if_true, hsum, Char.ofNat_toNat]
  · have hle : 97 ≤ c.toNat ∧ c.toNat ≤ 102 := hletter
    have hno : Text.isDigit c = false := by
      simp only [Text.isDigit, Bool.and_eq_false_iff, decide_eq_false_iff_not]
      refine Or.inr fun hbad => ?_
      have : c.toNat ≤ 57 := hbad
      omega
    rw [Text.hexValue?, hno, if_neg (by simp), if_pos (by simpa using hletter)] at hn
    cases hn
    have hten : ¬ c.toNat - 'a'.toNat + 10 < 10 := by omega
    have hsum : 'a'.toNat + (c.toNat - 'a'.toNat + 10) - 10 = c.toNat := by
      change 97 + (c.toNat - 97 + 10) - 10 = c.toNat
      omega
    simp only [Text.hexDigit, hten, if_false, hsum, Char.ofNat_toNat]
  · cases hn

theorem plain_of_mapM : ∀ {cs : List Char} {ds : List (Fin 16)},
    (∀ c ∈ cs, isWritten c = true) → cs.mapM digit? = some ds →
      ds.map (fun d => Text.hexDigit d.val) = cs
  | [], ds, _, h => by
      cases h
      rfl
  | c :: cs, ds, hw, h => by
      rw [List.mapM_cons] at h
      obtain ⟨d, hd, h⟩ := Option.bind_eq_some_iff.mp h
      obtain ⟨ds', hds', h⟩ := Option.bind_eq_some_iff.mp h
      cases h
      rw [List.map_cons, hexDigit_of_digit? (hw c (List.mem_cons_self ..)) hd,
        plain_of_mapM (fun k hk => hw k (List.mem_cons_of_mem _ hk)) hds']

theorem mem_of_mem_unhyphenate {c : Char} {cs : List Char} (h : c ∈ unhyphenate cs) : c ∈ cs := by
  simp only [unhyphenate, List.mem_append] at h
  rcases h with (((h | h) | h) | h) | h
  · exact List.mem_of_mem_take h
  · exact List.mem_of_mem_drop (List.mem_of_mem_take h)
  · exact List.mem_of_mem_drop (List.mem_of_mem_take h)
  · exact List.mem_of_mem_drop (List.mem_of_mem_take h)
  · exact List.mem_of_mem_drop h

/-- A text in the written form is what the UUID that is read from it is written as. -/
theorem text_of_read? {cs : List Char} (hlen : cs.length = 36)
    (hw : ∀ c ∈ cs, isWritten c = true) {u : Uuid} (h : read? (String.ofList cs) = some u) :
    u.text = String.ofList cs := by
  rw [read?, String.toList_ofList] at h
  simp only [hlen] at h
  rw [if_neg (by decide), if_pos trivial, ofHyphenated?] at h
  change (if hyphenate (unhyphenate cs) = cs then ofPlain? (unhyphenate cs) else none) = some u at h
  split at h
  case isFalse => cases h
  rename_i hform
  obtain ⟨ds, hds, h⟩ := Option.bind_eq_some_iff.mp h
  split at h
  case isFalse => cases h
  cases h
  have hplain := plain_of_mapM (fun c hc => hw c (mem_of_mem_unhyphenate hc)) hds
  rw [text, chars, plain]
  simp only [hplain, hform]

end Uuid

end Waymark
