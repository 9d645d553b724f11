import Mathlib.Data.List.Basic
import Mathlib.Data.List.TakeDrop
import Mathlib.Data.List.TakeWhile
import Mathlib.Tactic.Ring
import Waymark.Text.Ascii
import Waymark.Url.Punycode

/-!
# Punycode read back

Encoding goes through the codes of a text in ascending order and, for each code,
through the text. What it counts is the way from the last character that was
written to the next one, in places where a character could be put. Decoding
walks the same way: when it has read what has been written so far, it knows the
characters of smaller codes, and those of the present code in the part of the
text that has been passed (`known`).

`InStep` says so of a state of the encoder. It is kept by every character that
is passed (`InStep.passChar`) and from code to code (`InStep.passCode`), and in
the end every character is known: a text that can be decoded at all after it was
encoded is the text it was (`decode?_encode`).
-/

namespace Waymark.Punycode

/-! ## Digits -/

theorem digit_read {d : Nat} (h : d < 36) : digitValue? (digit d) = some d ∧
    (Text.isLower (digit d) || Text.isDigit (digit d)) = true := by
  have hall : ∀ d < 36, digitValue? (digit d) = some d ∧
      (Text.isLower (digit d) || Text.isDigit (digit d)) = true := by decide
  exact hall d h

theorem threshold_range (bias k : Nat) : 1 ≤ threshold bias k ∧ threshold bias k ≤ 26 := by
  unfold threshold
  omega

theorem mem_number {fuel bias k n : Nat} {c : Char} (h : c ∈ number fuel bias k n) :
    ∃ d < 36, c = digit d := by
  induction fuel generalizing k n with
  | zero => cases h
  | succ fuel ih =>
      obtain ⟨hlow, hhigh⟩ := threshold_range bias k
      rw [number] at h
      split at h
      · exact ⟨n, by omega, List.mem_singleton.mp h⟩
      · have hmod := Nat.mod_lt (n - threshold bias k) (y := 36 - threshold bias k) (by omega)
        rcases List.mem_cons.mp h with rfl | h
        · exact ⟨_, by omega, rfl⟩
        · exact ih h

theorem number_ne_nil (fuel bias k n : Nat) : number (fuel + 1) bias k n ≠ [] := by
  rw [number]
  split <;> simp

theorem readNumber?_cons {bias k weight acc d : Nat} (hd : d < 36) (cs : List Char) :
    readNumber? bias k weight acc (digit d :: cs) =
      if 0x100000000 ≤ acc + d * weight then none
      else if d < threshold bias k then some (acc + d * weight, cs)
      else readNumber? bias (k + 36) (weight * (36 - threshold bias k)) (acc + d * weight) cs := by
  rw [readNumber?, (digit_read hd).1]
  simp only [Option.bind_eq_bind, Option.bind_some]
  split <;> rfl

theorem readNumber?_number {fuel bias k weight acc n : Nat} (hfuel : n < fuel) {rest : List Char}
    {r : Nat × List Char}
    (h : readNumber? bias k weight acc (number fuel bias k n ++ rest) = some r) :
    r = (acc + n * weight, rest) := by
  induction fuel generalizing k weight acc n with
  | zero => omega
  | succ fuel ih =>
      obtain ⟨hlow, hhigh⟩ := threshold_range bias k
      rw [number] at h
      split at h
      · rename_i hlast
        rw [List.singleton_append, readNumber?_cons (by omega), if_pos hlast] at h
        split at h
        · cases h
        · exact (Option.some.inj h).symm
      · rename_i hmore
        generalize ht : threshold bias k = t at *
        have hpos : 0 < 36 - t := by omega
        have hmod := Nat.mod_lt (n - t) hpos
        have hdiv : (n - t) / (36 - t) < fuel :=
          Nat.lt_of_le_of_lt (Nat.div_le_self _ _) (by omega)
        have hnext : ¬ t + (n - t) % (36 - t) < t := by omega
        rw [List.cons_append, readNumber?_cons (by omega), ht, if_neg hnext] at h
        split at h
        · cases h
        · rw [ih hdiv h, Prod.mk.injEq]
          refine ⟨?_, rfl⟩
          have hsum : t + (n - t) % (36 - t) + (36 - t) * ((n - t) / (36 - t)) = n := by
            have hdm := Nat.mod_add_div (n - t) (36 - t)
            omega
          calc acc + (t + (n - t) % (36 - t)) * weight + (n - t) / (36 - t) * (weight * (36 - t))
              = acc + (t + (n - t) % (36 - t) + (36 - t) * ((n - t) / (36 - t))) * weight := by
                ring
            _ = acc + n * weight := by rw [hsum]

/-! ## What is inserted -/

/-- What is left to be read begins with a number, which says where a character is inserted. -/
theorem insertAll?_of_ne_nil {fuel code place bias : Nat} {out cs text : List Char} (hne : cs ≠ [])
    (h : insertAll? fuel code place bias out cs = some text) :
    ∃ fuel' delta rest, fuel = fuel' + 1 ∧ readNumber? bias 36 1 0 cs = some (delta, rest) ∧
      (code + (place + delta) / (out.length + 1)).isValidChar ∧
      insertAll? fuel' (code + (place + delta) / (out.length + 1))
        ((place + delta) % (out.length + 1) + 1) (adapt delta (out.length + 1) (place == 0))
        (out.take ((place + delta) % (out.length + 1)) ++
          Char.ofNat (code + (place + delta) / (out.length + 1)) ::
            out.drop ((place + delta) % (out.length + 1))) rest = some text := by
  match fuel, cs with
  | 0, _ => cases h
  | fuel + 1, c :: cs =>
      rw [insertAll?] at h
      · obtain ⟨⟨delta, rest⟩, hread, h⟩ := Option.bind_eq_some_iff.mp h
        dsimp only at h
        split at h
        · cases h
        · rename_i hvalid
          simp only [Bool.not_eq_true', Bool.not_eq_false, Bool.or_eq_true, Bool.and_eq_true,
            decide_eq_true_eq] at hvalid
          refine ⟨fuel, delta, rest, rfl, hread, ?_, h⟩
          exact hvalid.imp_right fun hv => ⟨Nat.lt_of_lt_of_le (by decide) hv.1, hv.2⟩
      · exact hne

theorem not_isBasic_ofNat {n : Nat} (hvalid : n.isValidChar) (hn : 0x80 ≤ n) :
    isBasic (Char.ofNat n) = false := by
  have hcode : (Char.ofNat n).toNat = n := by
    rw [Char.ofNat, dif_pos hvalid]
    rfl
  rw [isBasic, hcode]
  exact decide_eq_false (Nat.not_lt.mpr hn)

/-- Only characters beyond ASCII are inserted, at least one if there is anything to read. -/
theorem insertAll?_inserts {fuel code place bias : Nat} {out cs text : List Char}
    (hcode : 0x80 ≤ code) (h : insertAll? fuel code place bias out cs = some text) :
    (∀ c ∈ text, c ∈ out ∨ isBasic c = false) ∧ (∀ c ∈ out, c ∈ text) ∧
      (cs ≠ [] → ∃ c ∈ text, isBasic c = false) := by
  induction fuel generalizing code place bias out cs with
  | zero => cases h
  | succ fuel ih =>
      by_cases hne : cs = []
      · subst hne
        obtain rfl := Option.some.inj h
        exact ⟨fun c hc => Or.inl hc, fun c hc => hc, fun h => absurd rfl h⟩
      · obtain ⟨_, delta, rest, heq, _, hvalid, h⟩ := insertAll?_of_ne_nil hne h
        obtain rfl := Nat.succ.inj heq
        obtain ⟨honly, hkeeps, -⟩ := ih (Nat.le_trans hcode (Nat.le_add_right ..)) h
        have hbeyond := not_isBasic_ofNat hvalid (Nat.le_trans hcode (Nat.le_add_right ..))
        refine ⟨fun c hc => ?_, fun c hc => hkeeps c ?_, fun _ =>
          ⟨_, hkeeps _ (List.mem_append_right _ (List.mem_cons_self ..)), hbeyond⟩⟩
        · rcases honly c hc with hc | hc
          · rcases List.mem_append.mp hc with hc | hc
            · exact Or.inl (List.mem_of_mem_take hc)
            · rcases List.mem_cons.mp hc with rfl | hc
              · exact Or.inr hbeyond
              · exact Or.inl (List.mem_of_mem_drop hc)
          · exact Or.inr hc
        · rw [← List.take_append_drop ((place + delta) % (out.length + 1)) out] at hc
          rcases List.mem_append.mp hc with hc | hc
          · exact List.mem_append_left _ hc
          · exact List.mem_append_right _ (List.mem_cons_of_mem _ hc)

/-- Decoding keeps to the characters of the encoded text, and inserts some beyond ASCII unless
the text ends with its hyphen. -/
theorem decode?_inserts {cs text : List Char} (h : decode? cs = some text) :
    (∀ c ∈ text, c ∈ cs ∨ isBasic c = false) ∧
      ((∃ c ∈ cs.getLast?, c ≠ '-') → ∃ c ∈ text, isBasic c = false) := by
  have hcut : ∃ basics rest, insertAll? (rest.length + 1) 0x80 0 72 basics rest = some text ∧
      (∀ c ∈ basics, c ∈ cs) ∧ ((∃ c ∈ cs.getLast?, c ≠ '-') → rest ≠ []) := by
    have hwhole : (∃ c ∈ cs.getLast?, c ≠ '-') → cs ≠ [] := by
      rintro ⟨c, hc, _⟩ rfl
      cases hc
    rw [decode?, List.span_eq_takeWhile_dropWhile] at h
    have hsplit := List.takeWhile_append_dropWhile (p := (· != '-')) (l := cs.reverse)
    split at h
    rename_i basics rest hmatch
    split at h
    · refine ⟨basics, rest, h, ?_⟩
      split at hmatch
      · cases hmatch
        exact ⟨by simp, hwhole⟩
      · cases hmatch
        exact ⟨by simp, hwhole⟩
      · rename_i tail x front _ hspan
        cases hmatch
        rw [Prod.mk.injEq] at hspan
        rw [hspan.1, hspan.2] at hsplit
        refine ⟨fun c hc => ?_, ?_⟩
        · rw [← List.mem_reverse, ← hsplit]
          exact List.mem_append_right _ (List.mem_cons_of_mem _ (List.mem_reverse.mp hc))
        · rintro ⟨c, hc, hne⟩ hnil
          rw [List.getLast?_eq_head?_reverse] at hc
          obtain ⟨more, hmore⟩ := List.head?_eq_some_iff.mp hc
          rw [hmore, List.takeWhile_cons_of_pos (p := (· != '-')) (bne_iff_ne.mpr hne),
            List.reverse_eq_nil_iff.mp hnil] at hspan
          exact absurd hspan.1 (by simp)
    · cases h
  obtain ⟨basics, rest, h, hbasics, hrest⟩ := hcut
  obtain ⟨honly, _, hsome⟩ := insertAll?_inserts (Nat.le_refl _) h
  exact ⟨fun c hc => (honly c hc).imp_left (hbasics c), fun hlast => hsome (hrest hlast)⟩

/-! ## What is known -/

/-- The characters of a text that are known while the characters of a code are looked for and a
part of the text has been passed. -/
def known (code : Nat) (passed left : List Char) : List Char :=
  passed.filter (·.toNat ≤ code) ++ left.filter (·.toNat < code)

def knownBefore (code : Nat) (passed : List Char) : Nat :=
  (passed.filter (·.toNat ≤ code)).length

theorem knownBefore_le (code : Nat) (passed left : List Char) :
    knownBefore code passed ≤ (known code passed left).length := by
  rw [known, List.length_append, knownBefore]
  omega

section Passing

variable {code : Nat} {c : Char}

theorem knownBefore_of_le (h : c.toNat ≤ code) (passed : List Char) :
    knownBefore code (passed ++ [c]) = knownBefore code passed + 1 := by
  simp [knownBefore, List.filter_append, h]

theorem knownBefore_of_lt (h : code < c.toNat) (passed : List Char) :
    knownBefore code (passed ++ [c]) = knownBefore code passed := by
  have hnot : ¬ c.toNat ≤ code := Nat.not_le.mpr h
  simp [knownBefore, List.filter_append, hnot]

theorem known_of_ne (h : c.toNat ≠ code) (passed left : List Char) :
    known code (passed ++ [c]) left = known code passed (c :: left) := by
  rcases Nat.lt_or_gt_of_ne h with hlt | hgt
  · have hle : c.toNat ≤ code := Nat.le_of_lt hlt
    simp [known, List.filter_append, hlt, hle]
  · have hnot : ¬ c.toNat ≤ code := Nat.not_le.mpr hgt
    have hnot' : ¬ c.toNat < code := Nat.not_lt.mpr (Nat.le_of_lt hgt)
    simp [known, List.filter_append, hnot, hnot']

/-- A character of the code that is looked for becomes known at the place that has been
reached. -/
theorem known_of_eq (h : c.toNat = code) (passed left : List Char) :
    known code (passed ++ [c]) left =
      (known code passed (c :: left)).take (knownBefore code passed) ++
        c :: (known code passed (c :: left)).drop (knownBefore code passed) := by
  have hle : c.toNat ≤ code := Nat.le_of_eq h
  have hnot : ¬ c.toNat < code := Nat.not_lt.mpr (Nat.le_of_eq h.symm)
  simp [known, knownBefore, List.filter_append, hle, hnot]

end Passing

/-! ## Encoder and decoder in step -/

/-- The encoder is passing a text for the characters of a code, and a decoder that has read what
is written so far knows the characters it should. The two count the way to the next character
from the same place. -/
structure InStep (basics : List Char) (s : State) (code : Nat) (passed left : List Char) :
    Prop where
  digits : ∀ c ∈ s.out, ∃ d < 36, c = digit d
  known_eq : s.known = (known code passed left).length
  known_ge : basics.length ≤ s.known
  resumes : ∃ code' place, code' ≤ code ∧
    place + s.delta = (code - code') * (s.known + 1) + knownBefore code passed ∧
    (place == 0) = (s.known == basics.length) ∧
    ∀ fuel rest text, insertAll? fuel 0x80 0 72 basics (s.out ++ rest) = some text →
      ∃ fuel', insertAll? fuel' code' place s.bias (known code passed left) rest = some text

/-- A character of the code is written as the way to it, which a decoder reads and comes to the
place where it inserts the character. -/
theorem InStep.writeChar {basics : List Char} {s : State} {code : Nat} {passed left : List Char}
    {c : Char} (h : InStep basics s code passed (c :: left)) (heq : c.toNat = code) :
    InStep basics (Punycode.passChar basics.length code s c) code (passed ++ [c]) left := by
  obtain ⟨hdigits, hknown, hge, code', place, hle, hplace, hfirst, hrun⟩ := h
  have hbefore := knownBefore_le code passed (c :: left)
  rw [← hknown] at hbefore
  have hdiv : (place + s.delta) / (s.known + 1) = code - code' := by
    rw [hplace, Nat.mul_comm, Nat.mul_add_div (Nat.succ_pos _),
      Nat.div_eq_of_lt (Nat.lt_succ_of_le hbefore), Nat.add_zero]
  have hmod : (place + s.delta) % (s.known + 1) = knownBefore code passed := by
    rw [hplace, Nat.mul_comm, Nat.mul_add_mod, Nat.mod_eq_of_lt (Nat.lt_succ_of_le hbefore)]
  rw [Punycode.passChar, if_neg (by omega), if_pos heq]
  refine ⟨?_, ?_, Nat.le_succ_of_le hge, code, knownBefore code passed + 1, Nat.le_refl _, ?_,
    ?_, fun fuel rest text hall => ?_⟩
  · intro d hd
    exact (List.mem_append.mp hd).elim (hdigits d) mem_number
  · change s.known + 1 = _
    rw [known_of_eq heq, List.length_append, List.length_cons, List.length_take,
      List.length_drop, ← hknown]
    omega
  · rw [knownBefore_of_le (Nat.le_of_eq heq), Nat.sub_self, Nat.zero_mul, Nat.zero_add,
      Nat.add_zero]
  · have hlarge : s.known + 1 ≠ basics.length := by omega
    simp [hlarge]
  · rw [List.append_assoc] at hall
    obtain ⟨fuel', hall⟩ := hrun fuel _ text hall
    have hne : number (s.delta + 1) s.bias 36 s.delta ++ rest ≠ [] :=
      List.append_ne_nil_of_left_ne_nil (number_ne_nil _ _ _ _) rest
    obtain ⟨fuel'', delta, rest', _, hread, _, hdecoded⟩ := insertAll?_of_ne_nil hne hall
    have hnumber := readNumber?_number (Nat.lt_succ_self _) hread
    rw [Nat.zero_add, Nat.mul_one, Prod.mk.injEq] at hnumber
    obtain ⟨rfl, rfl⟩ := hnumber
    have hchar : Char.ofNat code = c := by rw [← heq, Char.ofNat_toNat]
    rw [← hknown, hdiv, hmod, hfirst, Nat.add_sub_cancel' hle, hchar] at hdecoded
    rw [known_of_eq heq]
    exact ⟨fuel'', hdecoded⟩

theorem InStep.passChar {basics : List Char} {s : State} {code : Nat} {passed left : List Char}
    {c : Char} (h : InStep basics s code passed (c :: left)) :
    InStep basics (Punycode.passChar basics.length code s c) code (passed ++ [c]) left := by
  have ⟨hdigits, hknown, hge, code', place, hle, hplace, hfirst, hrun⟩ := h
  rcases Nat.lt_trichotomy c.toNat code with hlt | heq | hgt
  · have hne : c.toNat ≠ code := Nat.ne_of_lt hlt
    rw [Punycode.passChar, if_pos hlt]
    refine ⟨hdigits, by rw [known_of_ne hne, ← hknown], hge, code', place, hle, ?_, hfirst, ?_⟩
    · rw [knownBefore_of_le (Nat.le_of_lt hlt)]
      dsimp only
      omega
    · rwa [known_of_ne hne]
  · exact h.writeChar heq
  · have hne : c.toNat ≠ code := Nat.ne_of_gt hgt
    rw [Punycode.passChar, if_neg (by omega), if_neg hne]
    exact ⟨hdigits, by rw [known_of_ne hne, hknown], hge, code', place, hle,
      by rw [knownBefore_of_lt hgt, hplace], hfirst, by rwa [known_of_ne hne]⟩

theorem InStep.passAll {basics : List Char} {code : Nat} {left : List Char} :
    ∀ {s : State} {passed : List Char}, InStep basics s code passed left →
      InStep basics (left.foldl (Punycode.passChar basics.length code) s) code (passed ++ left)
        [] := by
  induction left with
  | nil =>
      intro s passed h
      rwa [List.append_nil]
  | cons c left ih =>
      intro s passed h
      have hstep := ih h.passChar
      rwa [List.append_assoc, List.singleton_append] at hstep

/-- Between the codes: all smaller codes are known. -/
theorem InStep.skip {basics cs : List Char} {s : State} {previous code : Nat}
    (h : InStep basics s previous [] cs) (hle : previous ≤ code)
    (hskip : ∀ c ∈ cs, c.toNat < code → c.toNat < previous) :
    InStep basics { s with delta := s.delta + (code - previous) * (s.known + 1) } code [] cs := by
  have hsame : known code [] cs = known previous [] cs := by
    simp only [known, List.filter_nil, List.nil_append]
    refine List.filter_congr fun c hc => decide_eq_decide.mpr ⟨hskip c hc, fun hlt => ?_⟩
    exact Nat.lt_of_lt_of_le hlt hle
  obtain ⟨hdigits, hknown, hge, code', place, hle', hplace, hfirst, hrun⟩ := h
  refine ⟨hdigits, by rw [hsame, hknown], hge, code', place, Nat.le_trans hle' hle, ?_, hfirst,
    by rwa [hsame]⟩
  have hway : code - code' = (previous - code') + (code - previous) := by omega
  change place + (s.delta + (code - previous) * (s.known + 1)) = _ + 0
  rw [hway, Nat.add_mul, ← Nat.add_assoc, hplace]
  rfl

/-- At the end of the text its characters of the code are known. -/
theorem InStep.next {basics cs : List Char} {s : State} {code : Nat}
    (h : InStep basics s code cs []) :
    InStep basics { s with delta := s.delta + 1 } (code + 1) [] cs := by
  have hsame : known (code + 1) [] cs = known code cs [] := by
    simp only [known, Nat.lt_succ_iff, List.filter_nil, List.nil_append, List.append_nil]
  obtain ⟨hdigits, hknown, hge, code', place, hle, hplace, hfirst, hrun⟩ := h
  refine ⟨hdigits, by rw [hsame, hknown], hge, code', place, Nat.le_succ_of_le hle, ?_, hfirst,
    by rwa [hsame]⟩
  have hall : knownBefore code cs = s.known := by
    rw [hknown, known, List.filter_nil, List.append_nil]
    rfl
  have hway : code + 1 - code' = (code - code') + 1 := by omega
  change place + (s.delta + 1) = (code + 1 - code') * (s.known + 1) + 0
  rw [hway, Nat.add_mul, ← Nat.add_assoc, hplace, hall]
  omega

theorem InStep.passCode {basics cs : List Char} {s : State} {previous code : Nat}
    (h : InStep basics s previous [] cs) (hle : previous ≤ code)
    (hskip : ∀ c ∈ cs, c.toNat < code → c.toNat < previous) :
    InStep basics (Punycode.passCode cs basics.length (s, previous) code).1 (code + 1) [] cs :=
  (h.skip hle hskip).passAll.next

/-- After all codes every character is known. -/
theorem InStep.passCodes {basics cs : List Char} {codes : List Nat}
    (hsorted : codes.Pairwise (· < ·)) :
    ∀ {s : State} {previous : Nat}, InStep basics s previous [] cs →
      (∀ code ∈ codes, previous ≤ code) →
      (∀ c ∈ cs, c.toNat < previous ∨ c.toNat ∈ codes) →
      ∃ last, InStep basics (codes.foldl (Punycode.passCode cs basics.length) (s, previous)).1
        last [] cs ∧ ∀ c ∈ cs, c.toNat < last := by
  induction codes with
  | nil =>
      intro s previous h _ hall
      exact ⟨previous, h, fun c hc => (hall c hc).resolve_right (List.not_mem_nil)⟩
  | cons code codes ih =>
      intro s previous h hle hall
      obtain ⟨hleast, hsorted⟩ := List.pairwise_cons.mp hsorted
      have hskip : ∀ c ∈ cs, c.toNat < code → c.toNat < previous := by
        intro c hc hlt
        refine (hall c hc).resolve_right fun hmem => ?_
        rcases List.mem_cons.mp hmem with heq | hmem
        · omega
        · have hgt := hleast _ hmem
          omega
      refine ih hsorted (h.passCode (hle code (List.mem_cons_self ..)) hskip) hleast fun c hc => ?_
      rcases hall c hc with hlt | hmem
      · exact Or.inl (Nat.lt_succ_of_lt (Nat.lt_of_lt_of_le hlt (hle code (List.mem_cons_self ..))))
      · rcases List.mem_cons.mp hmem with heq | hmem
        · exact Or.inl (heq ▸ Nat.lt_succ_self _)
        · exact Or.inr hmem

/-! ## The whole text -/

def codesOf (cs : List Char) : List Nat :=
  (((cs.filter (!isBasic ·)).map Char.toNat).mergeSort).eraseDups

theorem pairwise_eraseDups {l : List Nat} (h : l.Pairwise (· ≤ ·)) :
    l.eraseDups.Pairwise (· < ·) := by
  match l with
  | [] => exact .nil
  | n :: l =>
      obtain ⟨hleast, hsorted⟩ := List.pairwise_cons.mp h
      rw [List.eraseDups_cons]
      refine .cons (fun m hm => ?_) (pairwise_eraseDups (hsorted.sublist List.filter_sublist))
      obtain ⟨hmem, hne⟩ := List.mem_filter.mp (List.mem_eraseDups.mp hm)
      have hle := hleast m hmem
      simp only [Bool.not_eq_true', beq_eq_false_iff_ne] at hne
      omega
  termination_by l.length
  decreasing_by
    simpa using Nat.lt_succ_of_le (List.length_filter_le _ l)

theorem codesOf_pairwise (cs : List Char) : (codesOf cs).Pairwise (· < ·) := by
  refine pairwise_eraseDups ?_
  have hsorted : (((cs.filter (!isBasic ·)).map Char.toNat).mergeSort).Pairwise
      fun a b => decide (a ≤ b) = true :=
    List.pairwise_mergeSort (by simpa using fun _ _ _ => Nat.le_trans)
      (by simpa using Nat.le_total) _
  simpa using hsorted

theorem mem_codesOf {cs : List Char} {code : Nat} :
    code ∈ codesOf cs ↔ ∃ c ∈ cs, isBasic c = false ∧ c.toNat = code := by
  rw [codesOf, List.mem_eraseDups, List.mem_mergeSort, List.mem_map]
  simp only [List.mem_filter, Bool.not_eq_true', and_assoc]

def final (cs : List Char) : State :=
  ((codesOf cs).foldl (passCode cs (cs.filter isBasic).length)
    (⟨0, 72, (cs.filter isBasic).length, []⟩, 0x80)).1

theorem encode_eq (cs : List Char) : encode cs = cs.filter isBasic ++
    (if (cs.filter isBasic).isEmpty then [] else ['-']) ++ (final cs).out := rfl

theorem inStep_start (cs : List Char) : InStep (cs.filter isBasic)
    ⟨0, 72, (cs.filter isBasic).length, []⟩ 0x80 [] cs where
  digits := by simp
  known_eq := rfl
  known_ge := Nat.le_refl _
  resumes := ⟨0x80, 0, Nat.le_refl _, by simp [knownBefore], by simp, fun fuel _ _ h => ⟨fuel, h⟩⟩

theorem inStep_final (cs : List Char) : ∃ last,
    InStep (cs.filter isBasic) (final cs) last [] cs ∧ ∀ c ∈ cs, c.toNat < last := by
  refine InStep.passCodes (codesOf_pairwise cs) (inStep_start cs) ?_ fun c hc => ?_
  · intro code hcode
    obtain ⟨c, _, hbasic, rfl⟩ := mem_codesOf.mp hcode
    exact Nat.not_lt.mp (of_decide_eq_false hbasic)
  · cases hbasic : isBasic c with
    | true => exact Or.inl (of_decide_eq_true hbasic)
    | false => exact Or.inr (mem_codesOf.mpr ⟨c, hc, hbasic, rfl⟩)

/-- The characters of an encoded text. -/
theorem mem_encode {cs : List Char} {c : Char} (h : c ∈ encode cs) :
    (c ∈ cs ∧ isBasic c = true) ∨ c = '-' ∨ ∃ d < 36, c = digit d := by
  obtain ⟨last, hfinal, _⟩ := inStep_final cs
  rw [encode_eq, List.mem_append, List.mem_append] at h
  rcases h with (h | h) | h
  · exact Or.inl (List.mem_filter.mp h)
  · split at h
    · cases h
    · exact Or.inr (Or.inl (List.mem_singleton.mp h))
  · exact Or.inr (Or.inr (hfinal.digits c h))

/-- Decoding cuts an encoded text where encoding has put the hyphen. -/
theorem decode?_encode_eq (cs : List Char) : decode? (encode cs) =
    insertAll? ((final cs).out.length + 1) 0x80 0 72 (cs.filter isBasic) (final cs).out := by
  obtain ⟨last, hfinal, _⟩ := inStep_final cs
  have hplain : ∀ c ∈ (final cs).out.reverse, (c != '-') = true := by
    intro c hc
    obtain ⟨d, hd, rfl⟩ := hfinal.digits c (List.mem_reverse.mp hc)
    have hnot : ∀ d < 36, (digit d != '-') = true := by decide
    exact hnot d hd
  have hbasics : (cs.filter isBasic).all isBasic = true :=
    List.all_eq_true.mpr fun c hc => (List.mem_filter.mp hc).2
  rw [encode_eq, decode?]
  cases hrev : (cs.filter isBasic).reverse with
  | nil =>
      have hnil : cs.filter isBasic = [] := List.reverse_eq_nil_iff.mp hrev
      have hspan : (final cs).out.reverse.span (· != '-') = ((final cs).out.reverse, []) := by
        rw [List.span_eq_takeWhile_dropWhile, List.takeWhile_eq_self_iff.mpr hplain,
          List.dropWhile_eq_nil_iff.mpr hplain]
      simp only [hnil, List.isEmpty_nil, if_true, List.nil_append, hspan]
      rfl
  | cons b front =>
      have hne : (cs.filter isBasic).isEmpty = false := by
        rw [← List.isEmpty_reverse, hrev]
        rfl
      have hspan : (cs.filter isBasic ++ ['-'] ++ (final cs).out).reverse.span (· != '-') =
          ((final cs).out.reverse, '-' :: b :: front) := by
        rw [List.reverse_append, List.reverse_append, hrev, List.span_eq_takeWhile_dropWhile,
          List.takeWhile_append_of_pos hplain, List.dropWhile_append_of_pos hplain]
        simp
      have hfront : (b :: front).reverse = cs.filter isBasic := by rw [← hrev, List.reverse_reverse]
      simp only [hne, Bool.false_eq_true, if_false, hspan, hfront, List.reverse_reverse, hbasics,
        if_true]

/-- A text that is decoded after it was encoded is the text it was. -/
theorem decode?_encode {cs text : List Char} (h : decode? (encode cs) = some text) : text = cs := by
  obtain ⟨last, hfinal, hall⟩ := inStep_final cs
  obtain ⟨code, place, _, _, _, hrun⟩ := hfinal.resumes
  rw [decode?_encode_eq] at h
  obtain ⟨fuel, h⟩ := hrun _ [] text (by rwa [List.append_nil])
  have hknown : known last [] cs = cs := by
    rw [known, List.filter_nil, List.nil_append, List.filter_eq_self]
    simpa using hall
  rw [hknown] at h
  cases fuel with
  | zero => cases h
  | succ fuel => exact (Option.some.inj h).symm

end Waymark.Punycode
