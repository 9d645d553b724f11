import Waymark.Json.Reader
import Waymark.Json.Printer
import Waymark.Proofs.Number.Shortest
import Waymark.Proofs.Text.Integer

/-!
# Reading what was written

A value is read from its text as it is, whatever characters its strings have,
if it has no fractions, whole numbers of 64 bits and at most 127 arrays and
objects inside one another (`Exact`). Strings are read escape by escape
(`readChars?_escapedChar`), numbers up to what may follow a value (`Stops`).

The reader takes fuel, so the round trip of arrays and objects is stated for
all values whose text is short enough for it: `ReadsValues`, `ReadsItems` and
`ReadsMembers` say what one more step of fuel gives, each from the others, and
`reads_all` is the induction on the fuel.
-/

namespace Waymark

namespace Json

/-! ## Strings -/

theorem hexWide_control {n : Nat} (h : n < 0x20) :
    ∃ a b, Text.hexWide 4 n = ['0', '0', a, b] ∧ unit? '0' '0' a b = some n := by
  have hall : ∀ n < 0x20, Text.hexWide 4 n =
        ['0', '0', Text.hexDigit (n / 16), Text.hexDigit (n % 16)] ∧
      unit? '0' '0' (Text.hexDigit (n / 16)) (Text.hexDigit (n % 16)) = some n := by
    decide +kernel
  exact ⟨_, _, hall n h⟩

/-- An escape that is no surrogate stands for its character, whatever comes behind it. -/
theorem readChars?_unicode {a b c d : Char} {u : Nat} (hu : unit? a b c d = some u)
    (hhigh : isHighSurrogate u = false) (hlow : isLowSurrogate u = false) (cs : List Char) :
    readChars? ('\\' :: 'u' :: a :: b :: c :: d :: cs) =
      (readChars? cs).map fun (s, rest) => (Char.ofNat u :: s, rest) := by
  by_cases hpair : ∃ e f g h rest, cs = '\\' :: 'u' :: e :: f :: g :: h :: rest
  · obtain ⟨e, f, g, h, rest, rfl⟩ := hpair
    rw [readChars?.eq_3, hu]
    simp only [Option.bind_eq_bind, Option.bind_some, hhigh, hlow, Bool.false_eq_true, if_false]
    cases readChars? ('\\' :: 'u' :: e :: f :: g :: h :: rest) <;> rfl
  · rw [readChars?.eq_4 _ _ _ _ _ fun e f g h rest heq => hpair ⟨e, f, g, h, rest, heq⟩, hu]
    simp only [Option.bind_eq_bind, Option.bind_some, hhigh, hlow, Bool.or_self,
      Bool.false_eq_true, if_false]
    cases readChars? cs <;> rfl

theorem readChars?_letter {l c : Char} (hl : escapeLetter? l = some c) (cs : List Char) :
    readChars? ('\\' :: l :: cs) = (readChars? cs).map fun (s, rest) => (c :: s, rest) := by
  have hu : l ≠ 'u' := by
    rintro rfl
    cases hl
  rw [readChars?.eq_5 _ _ (fun _ _ _ _ _ _ _ _ _ heq => absurd heq hu)
    (fun _ _ _ _ _ heq => absurd heq hu), hl]
  cases readChars? cs <;> rfl

theorem readChars?_plain {c : Char} (hquote : c ≠ '"') (hescape : c ≠ '\\')
    (hcontrol : ¬ c.toNat < 0x20) (cs : List Char) :
    readChars? (c :: cs) = (readChars? cs).map fun (s, rest) => (c :: s, rest) := by
  rw [readChars?.eq_6 _ _ hquote (fun _ _ _ _ _ _ _ _ _ heq => absurd heq hescape)
    (fun _ _ _ _ _ heq => absurd heq hescape) (fun _ _ heq => absurd heq hescape),
    if_neg (not_or.mpr ⟨hescape, hcontrol⟩)]
  cases readChars? cs <;> rfl

theorem readChars?_escapedChar (c : Char) (cs : List Char) :
    readChars? (escapedChar c ++ cs) =
      (readChars? cs).map fun (s, rest) => (c :: s, rest) := by
  unfold escapedChar
  split_ifs with h1 h2 h3 h4 h5 h6 h7 hcontrol
  · subst h1
    exact readChars?_letter rfl cs
  · subst h2
    exact readChars?_letter rfl cs
  · subst h3
    exact readChars?_letter rfl cs
  · subst h4
    exact readChars?_letter rfl cs
  · subst h5
    exact readChars?_letter rfl cs
  · subst h6
    exact readChars?_letter rfl cs
  · subst h7
    exact readChars?_letter rfl cs
  · obtain ⟨a, b, hwide, hunit⟩ := hexWide_control hcontrol
    have hhigh : isHighSurrogate c.toNat = false := by
      rw [isHighSurrogate, decide_eq_false (by omega), Bool.false_and]
    have hlow : isLowSurrogate c.toNat = false := by
      rw [isLowSurrogate, decide_eq_false (by omega), Bool.false_and]
    have hread := readChars?_unicode hunit hhigh hlow cs
    rw [Char.ofNat_toNat] at hread
    rw [hwide]
    exact hread
  · exact readChars?_plain h1 h2 hcontrol cs

theorem readChars?_flatMap (cs rest : List Char) :
    readChars? (cs.flatMap escapedChar ++ '"' :: rest) = some (cs, rest) := by
  induction cs with
  | nil => rw [List.flatMap_nil, List.nil_append, readChars?]
  | cons c cs ih =>
      rw [List.flatMap_cons, List.append_assoc, readChars?_escapedChar, ih, Option.map_some]

theorem renderString_append (s : String) (rest : List Char) :
    renderString s ++ rest = '"' :: (s.toList.flatMap escapedChar ++ '"' :: rest) := by
  simp [renderString]

/-! ## Whole numbers -/

/-- What follows a value in a text: nothing, a comma or a closing bracket. -/
def Stops (rest : List Char) : Prop := ∀ c ∈ rest.head?, c = ',' ∨ c = ']' ∨ c = '\x7d'

theorem stops_nil : Stops [] := nofun

theorem stops_cons {c : Char} (h : c = ',' ∨ c = ']' ∨ c = '\x7d') (rest : List Char) :
    Stops (c :: rest) := by
  rintro d ⟨⟩
  exact h

theorem head?_toDigits {n : Nat} (h : 0 < n) : (Nat.toDigits 10 n).head? ≠ some '0' := by
  induction n using Nat.strongRecOn with
  | ind n ih =>
      by_cases hsmall : n < 10
      · have hall : ∀ n < 10, 0 < n → (Nat.toDigits 10 n).head? ≠ some '0' := by decide
        exact hall n hsmall h
      · have hrest := ih (n / 10) (by omega) (by omega)
        have hsome : Nat.toDigits 10 (n / 10) ≠ [] := Nat.toDigits_ne_nil
        obtain ⟨d, ds, hds⟩ := List.exists_cons_of_ne_nil hsome
        rw [Nat.toDigits_of_base_le (by omega) (by omega), hds]
        rw [hds] at hrest
        exact hrest

theorem isWholePart_toDigits (n : Nat) : isWholePart (Nat.toDigits 10 n) = true := by
  by_cases hsmall : n < 10
  · rw [Nat.toDigits_of_lt_base hsmall]
    rfl
  · have hhead := head?_toDigits (n := n) (by omega)
    cases hds : Nat.toDigits 10 n with
    | nil => exact absurd hds Nat.toDigits_ne_nil
    | cons d ds =>
        rw [hds, List.head?_cons] at hhead
        cases ds with
        | nil => rfl
        | cons e es =>
            have hd : d ≠ '0' := fun heq => hhead (congrArg some heq)
            simp [isWholePart, hd]

theorem spanDigits_append {ds rest : List Char} (hds : ∀ c ∈ ds, Text.isDigit c = true)
    (hrest : Stops rest) : Decimal.spanDigits (ds ++ rest) = (ds, rest) := by
  have hstop : ∀ c ∈ rest.head?, Text.isDigit c = false := by
    intro c hc
    rcases hrest c hc with rfl | rfl | rfl <;> rfl
  rw [Decimal.spanDigits, Text.takeWhile_append_stop hstop, Text.dropWhile_append_stop hstop,
    List.takeWhile_eq_self_iff.mpr hds, List.dropWhile_eq_nil_iff.mpr hds, List.nil_append]

theorem readFraction?_stop {rest : List Char} (h : Stops rest) :
    readFraction? rest = some ([], rest) := by
  cases rest with
  | nil => rfl
  | cons c rest => rcases h c rfl with rfl | rfl | rfl <;> rfl

theorem readPower?_stop {rest : List Char} (h : Stops rest) :
    readPower? rest = some (none, rest) := by
  cases rest with
  | nil => rfl
  | cons c rest => rcases h c rfl with rfl | rfl | rfl <;> rfl

theorem readNumber?_digits {n : Nat} {rest : List Char} (hrest : Stops rest) {value : Json}
    (negative : Bool) (hvalue : numberValue? negative (Nat.toDigits 10 n) [] none = some value) :
    readNumber? ((if negative then ['-'] else []) ++ Nat.toDigits 10 n ++ rest) =
      some (value, rest) := by
  have hspan : Decimal.spanDigits (Nat.toDigits 10 n ++ rest) = (Nat.toDigits 10 n, rest) :=
    spanDigits_append Text.isDigit_toDigits hrest
  have hsign : ∀ more, Nat.toDigits 10 n ++ rest ≠ '-' :: more := by
    intro more heq
    obtain ⟨d, ds, hds⟩ := List.exists_cons_of_ne_nil (Nat.toDigits_ne_nil (b := 10) (n := n))
    have hd : Text.isDigit d = true := Text.isDigit_toDigits d (hds ▸ List.mem_cons_self ..)
    rw [hds, List.cons_append] at heq
    obtain rfl := (List.cons.inj heq).1
    exact absurd hd (by decide)
  cases negative with
  | true =>
      rw [if_pos rfl, List.singleton_append, List.cons_append, readNumber?]
      simp [hspan, isWholePart_toDigits, readFraction?_stop hrest, readPower?_stop hrest, hvalue]
  | false =>
      rw [if_neg Bool.false_ne_true, List.nil_append, readNumber?]
      · simp [hspan, isWholePart_toDigits, readFraction?_stop hrest, readPower?_stop hrest, hvalue]
      · exact hsign

theorem readNumber?_renderInt {n : Int} (hlow : Text.int64Min ≤ n)
    (hhigh : n ≤ Text.word64Max) {rest : List Char} (hrest : Stops rest) :
    readNumber? (renderInt n ++ rest) = some (.int n, rest) := by
  have hdigits := Decimal.digitsValue_toDigits n.natAbs
  rw [renderInt]
  by_cases hneg : n < 0
  · have habs : -(n.natAbs : Int) = n := by omega
    have hpos : 0 < n.natAbs := by omega
    generalize n.natAbs = size at hdigits habs hpos ⊢
    have hvalue : numberValue? true (Nat.toDigits 10 size) [] none = some (.int n) := by
      simp [numberValue?, hdigits, habs, hpos, hlow]
    rw [if_pos hneg]
    exact readNumber?_digits hrest true hvalue
  · have habs : (n.natAbs : Int) = n := by omega
    have hle : n.natAbs ≤ Text.word64Max := by omega
    generalize n.natAbs = size at hdigits habs hle ⊢
    have hvalue : numberValue? false (Nat.toDigits 10 size) [] none = some (.int n) := by
      rw [numberValue?, hdigits]
      simp [hle, habs]
    rw [if_neg hneg]
    exact readNumber?_digits hrest false hvalue

/-! ## Values -/

/-- A value without fractions, with whole numbers within 64 bits and at most `depth` arrays and
objects inside one another. -/
inductive Exact : Nat → Json → Prop
  | null {depth : Nat} : Exact depth .null
  | bool {depth : Nat} (b : Bool) : Exact depth (.bool b)
  | int {depth : Nat} {n : Int} (hlow : Text.int64Min ≤ n) (hhigh : n ≤ Text.word64Max) :
      Exact depth (.int n)
  | str {depth : Nat} (s : String) : Exact depth (.str s)
  | arr {depth : Nat} {js : List Json} (h : ∀ j ∈ js, Exact depth j) : Exact (depth + 1) (.arr js)
  | obj {depth : Nat} {ms : List (String × Json)} (h : ∀ m ∈ ms, Exact depth m.2) :
      Exact (depth + 1) (.obj ms)

def StartsNumber (c : Char) : Prop := c = '-' ∨ Text.isDigit c = true

theorem StartsNumber.ne {c d : Char} (h : StartsNumber c) (hd : Text.isDigit d = false)
    (hsign : d ≠ '-') : c ≠ d := by
  rintro rfl
  exact h.elim hsign fun hc => Bool.false_ne_true (hd.symm.trans hc)

theorem renderInt_head (n : Int) : ∃ c cs, renderInt n = c :: cs ∧ StartsNumber c := by
  rw [renderInt]
  by_cases hneg : n < 0
  · rw [if_pos hneg]
    exact ⟨_, _, rfl, Or.inl rfl⟩
  · obtain ⟨d, ds, hds⟩ := List.exists_cons_of_ne_nil
      (Nat.toDigits_ne_nil (b := 10) (n := n.natAbs))
    rw [if_neg hneg, hds]
    exact ⟨d, ds, rfl, Or.inr (Text.isDigit_toDigits d (hds ▸ List.mem_cons_self ..))⟩

theorem Exact.head {depth : Nat} {j : Json} (h : Exact depth j) :
    ∃ c cs, render j = c :: cs ∧ isSpace c = false ∧ c ≠ ']' := by
  cases h with
  | null => exact ⟨_, _, rfl, rfl, by decide⟩
  | bool b => cases b <;> exact ⟨_, _, rfl, rfl, by decide⟩
  | @int _ n _ _ =>
      obtain ⟨c, cs, hrender, hc⟩ := renderInt_head n
      refine ⟨c, cs, by rw [render, hrender], ?_, hc.ne rfl (by decide)⟩
      simp [isSpace, hc.ne (d := ' ') rfl (by decide), hc.ne (d := '\t') rfl (by decide),
        hc.ne (d := '\n') rfl (by decide), hc.ne (d := '\r') rfl (by decide)]
  | str s => exact ⟨_, _, by rw [render, renderString, List.cons_append], rfl, by decide⟩
  | @arr _ js _ => cases js <;> rw [render] <;> exact ⟨'[', _, rfl, rfl, by decide⟩
  | @obj _ ms _ => cases ms <;> rw [render] <;> exact ⟨'\x7b', _, rfl, rfl, by decide⟩

theorem Exact.length_pos {depth : Nat} {j : Json} (h : Exact depth j) :
    0 < (render j).length := by
  obtain ⟨c, cs, hhead, _⟩ := h.head
  rw [hhead]
  exact Nat.succ_pos _

theorem skipSpace_cons {c : Char} (h : isSpace c = false) (cs : List Char) :
    skipSpace (c :: cs) = c :: cs := by
  rw [skipSpace, List.dropWhile_cons_of_neg (by simp [h])]

theorem readValue?_number {c : Char} (h : StartsNumber c) (fuel depth : Nat)
    (cs : List Char) : readValue? (fuel + 1) depth (c :: cs) = readNumber? (c :: cs) := by
  rw [readValue?]
  all_goals
    intro rest heq
    exact absurd (List.cons.inj heq).1 (h.ne rfl (by decide))

theorem readValue?_items {c : Char} (hspace : isSpace c = false) (hclose : c ≠ ']')
    (fuel depth : Nat) (cs : List Char) : readValue? (fuel + 1) (depth + 1) ('[' :: c :: cs) =
      (readItems? fuel depth (c :: cs)).map fun (js, rest) => (.arr js, rest) := by
  rw [readValue?, if_neg (Nat.succ_ne_zero _), skipSpace_cons hspace]
  split
  · rename_i heq
    exact absurd (List.cons.inj heq).1 hclose
  · rfl

theorem readValue?_members (fuel depth : Nat) (cs : List Char) :
    readValue? (fuel + 1) (depth + 1) ('\x7b' :: '"' :: cs) =
      (readMembers? fuel depth ('"' :: cs)).map fun (ms, rest) => (.obj ms, rest) := by
  rw [readValue?, if_neg (Nat.succ_ne_zero _), skipSpace_cons rfl]
  rfl

theorem render_arr_append (j : Json) (js : List Json) (rest : List Char) :
    render (.arr (j :: js)) ++ rest = '[' :: (render j ++ (renderItems js ++ rest)) := by
  simp [render]

theorem renderItems_append (j : Json) (js : List Json) (rest : List Char) :
    renderItems (j :: js) ++ rest = ',' :: (render j ++ (renderItems js ++ rest)) := by
  simp [renderItems]

def memberThen (name : String) (j : Json) (rest : List Char) : List Char :=
  '"' :: (name.toList.flatMap escapedChar ++ '"' :: ':' :: (render j ++ rest))

theorem render_obj_append (name : String) (j : Json) (ms : List (String × Json))
    (rest : List Char) : render (.obj ((name, j) :: ms)) ++ rest =
      '\x7b' :: memberThen name j (renderMembers ms ++ rest) := by
  simp [render, renderString, memberThen]

theorem renderMembers_append (name : String) (j : Json) (ms : List (String × Json))
    (rest : List Char) : renderMembers ((name, j) :: ms) ++ rest =
      ',' :: memberThen name j (renderMembers ms ++ rest) := by
  simp [renderMembers, renderString, memberThen]

theorem stops_renderItems (js : List Json) (rest : List Char) : Stops (renderItems js ++ rest) := by
  cases js with
  | nil => exact stops_cons (by simp) _
  | cons j js => exact renderItems_append j js rest ▸ stops_cons (by simp) _

theorem stops_renderMembers (ms : List (String × Json)) (rest : List Char) :
    Stops (renderMembers ms ++ rest) := by
  cases ms with
  | nil => exact stops_cons (by simp) _
  | cons m ms => exact renderMembers_append m.1 m.2 ms rest ▸ stops_cons (by simp) _

/-! ## Round trips -/

/-- What the reader makes of the texts of values, of items and of members, with given fuel. -/
def ReadsValues (fuel : Nat) : Prop :=
  ∀ {depth : Nat} {j : Json}, Exact depth j → 2 * (render j).length ≤ fuel + 1 →
    ∀ {rest : List Char}, Stops rest → readValue? fuel depth (render j ++ rest) = some (j, rest)

def ReadsItems (fuel : Nat) : Prop :=
  ∀ {depth : Nat} {j : Json} {js : List Json}, (∀ k ∈ j :: js, Exact depth k) →
    2 * ((render j).length + (renderItems js).length) ≤ fuel → ∀ rest : List Char,
      readItems? fuel depth (render j ++ (renderItems js ++ rest)) = some (j :: js, rest)

def ReadsMembers (fuel : Nat) : Prop :=
  ∀ {depth : Nat} {name : String} {j : Json} {ms : List (String × Json)},
    (∀ m ∈ (name, j) :: ms, Exact depth m.2) →
      2 * ((render j).length + (renderMembers ms).length) ≤ fuel → ∀ rest : List Char,
        readMembers? fuel depth (memberThen name j (renderMembers ms ++ rest)) =
          some ((name, j) :: ms, rest)

variable {fuel : Nat}

/-- A value takes one step, and an array or an object the steps of what is inside. -/
theorem ReadsValues.succ (hitems : ReadsItems fuel) (hmembers : ReadsMembers fuel) :
    ReadsValues (fuel + 1) := by
  intro depth j h hfuel rest hrest
  cases h with
  | null => rfl
  | bool b => cases b <;> rfl
  | @int _ n hlow hhigh =>
      obtain ⟨c, cs, hrender, hc⟩ := renderInt_head n
      have hread := readNumber?_renderInt hlow hhigh hrest
      rw [hrender, List.cons_append] at hread
      rw [render, hrender, List.cons_append, readValue?_number hc, hread]
  | str s =>
      rw [render, renderString_append, readValue?, readChars?_flatMap, Option.map_some]
      dsimp only
      rw [String.ofList_toList]
  | @arr depth js hall =>
      cases js with
      | nil => rfl
      | cons j js =>
          obtain ⟨c, cs, hhead, hspace, hclose⟩ := (hall j (List.mem_cons_self ..)).head
          have hread := hitems hall (by simp [render] at hfuel; omega) rest
          rw [hhead, List.cons_append] at hread
          rw [render_arr_append, hhead, List.cons_append, readValue?_items hspace hclose, hread]
          rfl
  | @obj depth ms hall =>
      cases ms with
      | nil => rfl
      | cons m ms =>
          have hread := hmembers hall (by simp [render] at hfuel; omega) rest
          rw [memberThen] at hread
          rw [render_obj_append, memberThen, readValue?_members, hread]
          rfl

theorem ReadsItems.succ (hvalues : ReadsValues fuel) (hitems : ReadsItems fuel) :
    ReadsItems (fuel + 1) := by
  intro depth j js hall hfuel rest
  obtain ⟨hj, hjs⟩ := List.forall_mem_cons.mp hall
  obtain ⟨c, cs, hhead, hspace, _⟩ := hj.head
  have hlen := hj.length_pos
  have hskip : skipSpace (render j ++ (renderItems js ++ rest)) =
      render j ++ (renderItems js ++ rest) := by
    rw [hhead, List.cons_append, skipSpace_cons hspace]
  rw [readItems?, hskip, hvalues hj (by omega) (stops_renderItems js rest)]
  cases js with
  | nil => rfl
  | cons k ks =>
      have hread := hitems hjs (by simp [renderItems] at hfuel; omega) rest
      rw [renderItems_append]
      simp only [Option.bind_eq_bind, Option.bind_some, skipSpace_cons (c := ',') rfl, hread]
      rfl

theorem ReadsMembers.succ (hvalues : ReadsValues fuel) (hmembers : ReadsMembers fuel) :
    ReadsMembers (fuel + 1) := by
  intro depth name j ms hall hfuel rest
  have hj : Exact depth j := hall _ (List.mem_cons_self ..)
  have hms : ∀ m ∈ ms, Exact depth m.2 := fun m hm => hall m (List.mem_cons_of_mem _ hm)
  obtain ⟨c, cs, hhead, hspace, _⟩ := hj.head
  have hlen := hj.length_pos
  have hskip : skipSpace (render j ++ (renderMembers ms ++ rest)) =
      render j ++ (renderMembers ms ++ rest) := by
    rw [hhead, List.cons_append, skipSpace_cons hspace]
  rw [readMembers?, memberThen, skipSpace_cons rfl]
  simp only [readChars?_flatMap, Option.bind_eq_bind, Option.bind_some,
    skipSpace_cons (c := ':') rfl, hskip, hvalues hj (by omega) (stops_renderMembers ms rest),
    String.ofList_toList]
  cases ms with
  | nil => rfl
  | cons m ms =>
      obtain ⟨next, k⟩ := m
      have hread := hmembers hms (by simp [renderMembers] at hfuel; omega) rest
      rw [renderMembers_append]
      simp only [skipSpace_cons (c := ',') rfl, hread, Option.bind_some]
      rfl

theorem reads_all (fuel : Nat) : ReadsValues fuel ∧ ReadsItems fuel ∧ ReadsMembers fuel := by
  induction fuel with
  | zero =>
      refine ⟨fun h hfuel => ?_, fun h hfuel => ?_, fun h hfuel => ?_⟩
      · have := h.length_pos
        omega
      · have := (h _ (List.mem_cons_self ..)).length_pos
        omega
      · have hpos := (h _ (List.mem_cons_self ..)).length_pos
        dsimp only at hpos
        omega
  | succ fuel ih =>
      obtain ⟨hvalues, hitems, hmembers⟩ := ih
      exact ⟨ReadsValues.succ hitems hmembers, ReadsItems.succ hvalues hitems,
        ReadsMembers.succ hvalues hmembers⟩

theorem read?_text {j : Json} (h : Exact 127 j) : read? (text j) = some j := by
  obtain ⟨c, cs, hhead, hspace, _⟩ := h.head
  have hskip : skipSpace (render j) = render j := by rw [hhead, skipSpace_cons hspace]
  have hread := (reads_all (2 * (render j).length + 2)).1 h (by omega) stops_nil
  rw [List.append_nil] at hread
  rw [read?, text, String.toList_ofList, hskip, hread]
  rfl

end Json

end Waymark
