import Mathlib.Data.List.TakeWhile
import Waymark.Text.Cut
import Waymark.Text.Utf8

/-!
# Where texts are cut

The end of a text that is trimmed, the pieces between the occurrences of a
character, and the place that a number of bytes says.
-/

namespace Waymark.Text

/-! ## Runs that something stops -/

section Stop

variable {α : Type}

theorem takeWhile_append_stop {p : α → Bool} {b : List α} (hb : ∀ x ∈ b.head?, p x = false)
    (a : List α) : (a ++ b).takeWhile p = a.takeWhile p := by
  induction a with
  | nil => cases b <;> simp_all
  | cons x a ih => simp only [List.cons_append, List.takeWhile_cons, ih]

theorem dropWhile_append_stop {p : α → Bool} {b : List α} (hb : ∀ x ∈ b.head?, p x = false)
    (a : List α) : (a ++ b).dropWhile p = a.dropWhile p ++ b := by
  induction a with
  | nil => cases b <;> simp_all
  | cons x a ih =>
      simp only [List.cons_append, List.dropWhile_cons, ih]
      split <;> simp

end Stop

/-! ## Trimming the end -/

theorem trimEnd_prefix (p : Char → Bool) (cs : List Char) : trimEnd p cs <+: cs := by
  rw [trimEnd, ← List.reverse_suffix, List.reverse_reverse]
  exact List.dropWhile_suffix p

theorem getLast?_trimEnd {p : Char → Bool} {cs : List Char} {c : Char}
    (h : (trimEnd p cs).getLast? = some c) : p c = false := by
  rw [trimEnd, List.getLast?_reverse] at h
  have hnot := List.head?_dropWhile_not p cs.reverse
  rw [h] at hnot
  simpa using hnot

theorem trimEnd_append_of_forall {p : Char → Bool} {cs ds : List Char}
    (hds : ∀ d ∈ ds, p d = true) : trimEnd p (cs ++ ds) = trimEnd p cs := by
  have hfirst : ds.reverse.dropWhile p = [] :=
    List.dropWhile_eq_nil_iff.mpr fun d hd => hds d (List.mem_reverse.mp hd)
  rw [trimEnd, List.reverse_append, List.dropWhile_append, hfirst]
  rfl

theorem trimEnd_append {p : Char → Bool} {cs ds : List Char}
    (hcs : ∀ c ∈ cs.getLast?, p c = false) (hds : ∀ d ∈ ds, p d = true) :
    trimEnd p (cs ++ ds) = cs := by
  have hlast : cs.reverse.dropWhile p = cs.reverse := by
    cases hrev : cs.reverse with
    | nil => rfl
    | cons c rest =>
        have hc : cs.getLast? = some c := by rw [List.getLast?_eq_head?_reverse, hrev]; rfl
        rw [List.dropWhile_cons_of_neg (by simp [hcs c hc])]
  rw [trimEnd_append_of_forall hds, trimEnd, hlast, List.reverse_reverse]

theorem exists_trimmed (p : Char → Bool) (cs : List Char) :
    ∃ ds, cs = trimEnd p cs ++ ds ∧ ∀ d ∈ ds, p d = true := by
  refine ⟨(cs.reverse.takeWhile p).reverse, ?_, fun d hd => ?_⟩
  · rw [trimEnd, ← List.reverse_append, List.takeWhile_append_dropWhile, List.reverse_reverse]
  · exact List.mem_takeWhile_imp (List.mem_reverse.mp hd)

section Pieces

variable {c : Char}

theorem pieces_cons_self (c : Char) (cs : List Char) : pieces c (c :: cs) = [] :: pieces c cs := by
  rw [pieces]
  cases h : pieces c cs with
  | nil => exact absurd h (pieces_ne_nil c cs)
  | cons p ps => exact if_pos rfl

theorem pieces_cons_of_ne {d : Char} (hd : d ≠ c) (cs : List Char) :
    ∃ p ps, pieces c cs = p :: ps ∧ pieces c (d :: cs) = (d :: p) :: ps := by
  rw [pieces]
  cases h : pieces c cs with
  | nil => exact absurd h (pieces_ne_nil c cs)
  | cons p ps => exact ⟨p, ps, rfl, if_neg hd⟩

/-- At an occurrence of the character the pieces can be taken apart. -/
theorem pieces_append_cons (c : Char) (a b : List Char) :
    pieces c (a ++ c :: b) = pieces c a ++ pieces c b := by
  induction a with
  | nil => exact pieces_cons_self c b
  | cons d a ih =>
      rw [List.cons_append]
      by_cases hd : d = c
      · rw [hd, pieces_cons_self, pieces_cons_self, ih, List.cons_append]
      · obtain ⟨p, ps, hsmall, hsmall'⟩ := pieces_cons_of_ne hd a
        obtain ⟨q, qs, hlarge, hlarge'⟩ := pieces_cons_of_ne hd (a ++ c :: b)
        rw [ih, hsmall, List.cons_append, List.cons.injEq] at hlarge
        rw [hlarge', hsmall', ← hlarge.1, ← hlarge.2, List.cons_append]

theorem pieces_of_not_mem {cs : List Char} (h : c ∉ cs) : pieces c cs = [cs] := by
  induction cs with
  | nil => rfl
  | cons d cs ih =>
      rw [List.mem_cons, not_or] at h
      obtain ⟨p, ps, hcs, hd⟩ := pieces_cons_of_ne (Ne.symm h.1) cs
      rw [ih h.2] at hcs
      cases hcs
      exact hd

theorem mem_pieces {cs p : List Char} (h : p ∈ pieces c cs) : ∀ d ∈ p, d ∈ cs ∧ d ≠ c := by
  induction cs generalizing p with
  | nil =>
      obtain rfl := List.mem_singleton.mp h
      simp
  | cons e cs ih =>
      intro d hd
      by_cases he : e = c
      · rw [he, pieces_cons_self, List.mem_cons] at h
        rcases h with rfl | h
        · cases hd
        · exact ⟨List.mem_cons_of_mem _ (ih h d hd).1, (ih h d hd).2⟩
      · obtain ⟨q, qs, hcs, hcons⟩ := pieces_cons_of_ne he cs
        rw [hcons, List.mem_cons] at h
        rw [hcs] at ih
        rcases h with rfl | h
        · rcases List.mem_cons.mp hd with rfl | hd
          · exact ⟨List.mem_cons_self .., he⟩
          · have hq := ih (List.mem_cons_self ..) d hd
            exact ⟨List.mem_cons_of_mem _ hq.1, hq.2⟩
        · have hq := ih (List.mem_cons_of_mem _ h) d hd
          exact ⟨List.mem_cons_of_mem _ hq.1, hq.2⟩

/-- The pieces, each behind the character. -/
def led (c : Char) (ps : List (List Char)) : List Char := ps.flatMap (c :: ·)

theorem led_cons (c : Char) (p : List Char) (ps : List (List Char)) :
    led c (p :: ps) = (c :: p) ++ led c ps := rfl

theorem mem_led {ps : List (List Char)} {d : Char} (h : d ∈ led c ps) :
    d = c ∨ ∃ p ∈ ps, d ∈ p := by
  obtain ⟨p, hp, hd⟩ := List.mem_flatMap.mp h
  exact (List.mem_cons.mp hd).imp_right fun hd => ⟨p, hp, hd⟩

theorem led_pieces (c : Char) (cs : List Char) : led c (pieces c cs) = c :: cs := by
  induction cs with
  | nil => rfl
  | cons d cs ih =>
      by_cases hd : d = c
      · rw [hd, pieces_cons_self, led_cons, ih, List.singleton_append]
      · obtain ⟨p, ps, hcs, hcons⟩ := pieces_cons_of_ne hd cs
        rw [hcs, led_cons, List.cons_append, List.cons.injEq] at ih
        rw [hcons, led_cons, List.cons_append, List.cons_append, ih.2]

theorem pieces_led {ps : List (List Char)} (h : ∀ p ∈ ps, c ∉ p) :
    pieces c (led c ps) = [] :: ps := by
  induction ps with
  | nil => rfl
  | cons p ps ih =>
      have hps := ih fun q hq => h q (List.mem_cons_of_mem _ hq)
      have hp := pieces_of_not_mem (h p (List.mem_cons_self ..))
      rw [led_cons, List.cons_append, pieces_cons_self]
      cases ps with
      | nil => rw [led, List.flatMap_nil, List.append_nil, hp]
      | cons q ps =>
          rw [led_cons, List.cons_append, pieces_cons_self] at hps
          rw [led_cons, List.cons_append, pieces_append_cons, hp, (List.cons.inj hps).2]
          rfl

theorem cons_joined {sep : String} (hsep : sep.toList = [c]) {ps : List (List Char)}
    (hne : ps ≠ []) : c :: (joined sep (ps.map String.ofList)).toList = led c ps := by
  induction ps with
  | nil => exact absurd rfl hne
  | cons p ps ih =>
      cases ps with
      | nil => simp [joined, led]
      | cons q ps =>
          have ih := ih (List.cons_ne_nil q ps)
          rw [led_cons, ← ih]
          simp [joined, hsep]

end Pieces

/-! ## Cutting by bytes -/

theorem utf8Length_append (a b : List Char) :
    utf8Length (a ++ b) = utf8Length a + utf8Length b := by
  induction a with
  | nil => simp [utf8Length]
  | cons c a ih =>
      rw [List.cons_append, utf8Length, utf8Length, ih]
      omega

/-- Behind as many bytes as a text has the text ends. -/
theorem cutBytes?_utf8Length (a b : List Char) :
    cutBytes? (utf8Length a) (a ++ b) = some (a, b) := by
  induction a with
  | nil => cases b <;> rfl
  | cons c a ih =>
      have hpos := c.utf8Size_pos
      obtain ⟨n, hn⟩ : ∃ n, utf8Length (c :: a) = n + 1 :=
        ⟨c.utf8Size + utf8Length a - 1, by rw [utf8Length]; omega⟩
      have hrest : n + 1 - c.utf8Size = utf8Length a := by
        rw [← hn, utf8Length]
        omega
      have hroom : ¬ n + 1 < c.utf8Size := by
        rw [← hn, utf8Length]
        omega
      rw [hn, List.cons_append, cutBytes?, if_neg hroom, hrest, ih]
      rfl

end Waymark.Text
