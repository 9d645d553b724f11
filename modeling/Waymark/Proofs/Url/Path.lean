import Mathlib.Algebra.GroupWithZero.Nat
import Waymark.Proofs.Text.Cut
import Waymark.Proofs.Text.Percent
import Waymark.Url.Path

/-!
# What a path decodes to

The path of a URL with a special scheme is read segment by segment. To compare
it with the text it was read from, both are decoded: encoding a segment makes
no difference then (`Text.Percent.decode_encode`), and a path is decoded segment
by segment (`decode_led_cons`).

What makes a difference are segments of dots. They decode to something, and
resolving them only takes segments away, so the path either keeps every segment
or decodes to fewer bytes (`resolved_cases`). Counting bytes then settles when a
text is found again behind a path that is in order already
(`decode_pathOf_eq_iff`).
-/

namespace Waymark.Url

open Text

/-! ## Segments behind slashes -/

theorem toList_joinSegments {S : List (List Char)} (h : S ≠ []) :
    ("/" ++ joinSegments S).toList = led '/' S := by
  rw [String.toList_append]
  exact cons_joined rfl h

theorem keepPath_keepsEscapes : Percent.KeepsEscapes keepPath where
  percent := by decide
  hex _ hc := Percent.forall_hex (by decide) hc

theorem encode_led (S : List (List Char)) :
    led '/' (S.map (Percent.encode keepPath)) = Percent.encode keepPath (led '/' S) := by
  induction S with
  | nil => rfl
  | cons s S ih =>
      have hslash : Percent.encode keepPath ('/' :: s) = '/' :: Percent.encode keepPath s := rfl
      rw [List.map_cons, led_cons, led_cons, Percent.encode_append, ih, hslash]

/-! ## Decoding by segments -/

theorem utf8_slash_cons (cs : List Char) : utf8 ('/' :: cs) = 0x2F :: utf8 cs := by
  have hslash : '/'.toNat < 0x80 := by decide
  rw [utf8_cons, utf8EncodeChar_of_ascii hslash]
  rfl

/-- At a slash, texts are decoded by parts. -/
theorem decode_append_slash (a b : List Char) : Percent.decode (utf8 (a ++ '/' :: b)) =
    Percent.decode (utf8 a) ++ Percent.decode (utf8 ('/' :: b)) := by
  have hstop : ∀ x ∈ (utf8 ('/' :: b)).head?, Percent.isHex x = false := by
    rw [utf8_slash_cons]
    rintro x ⟨⟩
    decide
  rw [utf8_append, Percent.decode_append hstop]

theorem decode_append_led (a : List Char) (S : List (List Char)) :
    Percent.decode (utf8 (a ++ led '/' S)) =
      Percent.decode (utf8 a) ++ Percent.decode (utf8 (led '/' S)) := by
  cases S with
  | nil => simp [led, utf8, Percent.decode]
  | cons s S => exact decode_append_slash a _

theorem decode_led_cons (s : List Char) (S : List (List Char)) :
    Percent.decode (utf8 (led '/' (s :: S))) =
      0x2F :: (Percent.decode (utf8 s) ++ Percent.decode (utf8 (led '/' S))) := by
  rw [led_cons, decode_append_led, utf8_slash_cons,
    Percent.decode_cons_of_ne (by decide), List.cons_append]

/-- The bytes that segments behind slashes are decoded to. -/
def weight (S : List (List Char)) : Nat :=
  (S.map fun s => (Percent.decode (utf8 s)).length + 1).sum

theorem weight_cons (s : List Char) (S : List (List Char)) :
    weight (s :: S) = (Percent.decode (utf8 s)).length + 1 + weight S := rfl

theorem weight_append (S T : List (List Char)) : weight (S ++ T) = weight S + weight T := by
  rw [weight, List.map_append, List.sum_append, weight, weight]

theorem weight_reverse (S : List (List Char)) : weight S.reverse = weight S := by
  rw [weight, List.map_reverse, List.sum_reverse, weight]

theorem length_decode_led (S : List (List Char)) :
    (Percent.decode (utf8 (led '/' S))).length = weight S := by
  induction S with
  | nil => rfl
  | cons s S ih =>
      rw [decode_led_cons, weight_cons, List.length_cons, List.length_append, ih]
      omega

/-- Segments that decoding leaves alone together, it leaves alone one by one. -/
theorem decode_segment {S : List (List Char)}
    (h : Percent.decode (utf8 (led '/' S)) = utf8 (led '/' S)) :
    ∀ s ∈ S, Percent.decode (utf8 s) = utf8 s := by
  induction S with
  | nil => simp
  | cons s S ih =>
      rw [decode_led_cons, led_cons, List.cons_append, utf8_slash_cons, List.cons.injEq,
        utf8_append] at h
      have hs := Percent.length_decode_le (utf8 s)
      have hS := Percent.length_decode_le (utf8 (led '/' S))
      have hlen := congrArg List.length h.2
      rw [List.length_append, List.length_append] at hlen
      obtain ⟨hfirst, hrest⟩ := List.append_inj h.2 (by omega)
      intro t ht
      rcases List.mem_cons.mp ht with rfl | ht
      · exact hfirst
      · exact ih hrest t ht

/-! ## Dots -/

/-- A segment that is taken away, or takes away the one before it. -/
def IsDots (s : List Char) : Prop := plainDots s = ['.'] ∨ plainDots s = ['.', '.']

instance (s : List Char) : Decidable (IsDots s) := inferInstanceAs (Decidable (_ ∨ _))

theorem plainDots_eq_dot_cons {s ds : List Char} (h : plainDots s = '.' :: ds) :
    ∃ dot rest, s = dot ++ rest ∧ plainDots rest = ds ∧
      dot ∈ [".".toList, "%2e".toList, "%2E".toList] := by
  fun_cases plainDots s with
  | case1 e rest he =>
      rw [plainDots, if_pos he] at h
      refine ⟨['%', '2', e], rest, rfl, (List.cons.inj h).2, ?_⟩
      rcases he with rfl | rfl <;> decide
  | case2 e rest he =>
      rw [plainDots, if_neg he] at h
      cases h
  | case3 c rest hc =>
      rw [plainDots] at h
      · obtain ⟨rfl, hds⟩ := List.cons.inj h
        exact ⟨['.'], rest, rfl, hds, by decide⟩
      · exact hc
  | case4 =>
      cases h

theorem plainDots_eq_nil {s : List Char} (h : plainDots s = []) : s = [] := by
  fun_cases plainDots s with
  | case1 e rest he => rw [plainDots, if_pos he] at h; cases h
  | case2 e rest he => rw [plainDots, if_neg he] at h; cases h
  | case3 c rest hc =>
      rw [plainDots] at h
      · cases h
      · exact hc
  | case4 => rfl

/-- A segment of dots is decoded to them, however they are written. -/
theorem decode_of_plainDots {s : List Char} {n : Nat} (h : plainDots s = List.replicate n '.') :
    Percent.decode (utf8 s) = List.replicate n 0x2E := by
  induction n generalizing s with
  | zero =>
      obtain rfl := plainDots_eq_nil h
      rfl
  | succ n ih =>
      obtain ⟨dot, rest, rfl, hrest, hdot⟩ := plainDots_eq_dot_cons h
      rw [utf8_append]
      simp only [List.mem_cons, List.not_mem_nil, or_false] at hdot
      rcases hdot with rfl | rfl | rfl
      · change Percent.decode (0x2E :: utf8 rest) = _
        rw [Percent.decode_cons_of_ne (by decide), ih hrest, List.replicate_succ]
      · change Percent.decode (0x25 :: 0x32 :: 0x65 :: utf8 rest) = _
        rw [Percent.decode_escaped (v := 0x2E) (by decide), ih hrest, List.replicate_succ]
      · change Percent.decode (0x25 :: 0x32 :: 0x45 :: utf8 rest) = _
        rw [Percent.decode_escaped (v := 0x2E) (by decide), ih hrest, List.replicate_succ]

theorem IsDots.decode {s : List Char} (h : IsDots s) :
    Percent.decode (utf8 s) = utf8 ['.'] ∨ Percent.decode (utf8 s) = utf8 ['.', '.'] :=
  h.imp (decode_of_plainDots (n := 1)) (decode_of_plainDots (n := 2))

theorem IsDots.length_pos {s : List Char} (h : IsDots s) :
    0 < (Percent.decode (utf8 s)).length := by
  rcases h.decode with hdot | hdots
  · rw [hdot]
    decide
  · rw [hdots]
    decide

/-! ## Resolving -/

theorem weight_shorten_le (done : List (List Char)) : weight (shorten done) ≤ weight done := by
  cases done with
  | nil => exact Nat.le_refl _
  | cons s done =>
      rw [shorten]
      split
      · exact Nat.le_refl _
      · rw [weight_cons]
        omega

/-- A segment is added, or it is dots and nothing gets longer. -/
theorem addSegment_cases (done : List (List Char)) (s : List Char) :
    ¬ IsDots s ∧ addSegment done s = s :: done ∨
      IsDots s ∧ weight (addSegment done s) ≤ weight done := by
  unfold addSegment
  split
  · rename_i hdots
    exact Or.inr ⟨Or.inr hdots, weight_shorten_le done⟩
  · rename_i hdot
    exact Or.inr ⟨Or.inl hdot, Nat.le_refl _⟩
  · rename_i hdots hdot
    exact Or.inl ⟨not_or.mpr ⟨hdot, hdots⟩, rfl⟩

theorem addLast_cases (done : List (List Char)) (s : List Char) :
    ¬ IsDots s ∧ addLast done s = s :: done ∨
      IsDots s ∧ weight (addLast done s) ≤ weight done + 1 := by
  unfold addLast
  split
  · rename_i hdots
    have hle := weight_shorten_le done
    refine Or.inr ⟨Or.inr hdots, ?_⟩
    change 1 + weight (shorten done) ≤ _
    omega
  · rename_i hdot
    refine Or.inr ⟨Or.inl hdot, ?_⟩
    change 1 + weight done ≤ _
    omega
  · rename_i hdots hdot
    exact Or.inl ⟨not_or.mpr ⟨hdot, hdots⟩, rfl⟩

theorem foldl_addSegment_cases (S done : List (List Char)) :
    (∀ s ∈ S, ¬ IsDots s) ∧ S.foldl addSegment done = S.reverse ++ done ∨
      (∃ s ∈ S, IsDots s) ∧ weight (S.foldl addSegment done) < weight done + weight S := by
  induction S generalizing done with
  | nil => exact Or.inl ⟨by simp, rfl⟩
  | cons s S ih =>
      rw [List.foldl_cons, weight_cons]
      rcases addSegment_cases done s with ⟨hs, hadd⟩ | ⟨hs, hle⟩
      · rw [hadd]
        rcases ih (s :: done) with ⟨hS, heq⟩ | ⟨⟨t, ht, hdots⟩, hlt⟩
        · exact Or.inl ⟨List.forall_mem_cons.mpr ⟨hs, hS⟩, by rw [heq]; simp⟩
        · rw [weight_cons] at hlt
          exact Or.inr ⟨⟨t, List.mem_cons_of_mem _ ht, hdots⟩, by omega⟩
      · refine Or.inr ⟨⟨s, List.mem_cons_self .., hs⟩, ?_⟩
        rcases ih (addSegment done s) with ⟨_, heq⟩ | ⟨_, hlt⟩
        · rw [heq, weight_append, weight_reverse]
          omega
        · omega

/-- Segments without dots are kept, and others decode to fewer bytes. -/
theorem resolved_cases {S : List (List Char)} (hne : S ≠ []) :
    (∀ s ∈ S, ¬ IsDots s) ∧ resolved S = S ∨
      (∃ s ∈ S, IsDots s) ∧ weight (resolved S) < weight S := by
  obtain ⟨front, last, rfl⟩ := (List.eq_nil_or_concat' S).resolve_left hne
  rw [resolved, List.dropLast_concat, List.getLast?_concat, Option.getD_some, weight_reverse,
    weight_append, weight_cons]
  rcases foldl_addSegment_cases front [] with ⟨hfront, heq⟩ | ⟨⟨t, ht, hdots⟩, hlt⟩
  · rcases addLast_cases (front.foldl addSegment []) last with ⟨hlast, hadd⟩ | ⟨hlast, hle⟩
    · refine Or.inl ⟨?_, by rw [hadd, heq]; simp⟩
      intro s hs
      rcases List.mem_append.mp hs with hs | hs
      · exact hfront s hs
      · exact List.mem_singleton.mp hs ▸ hlast
    · refine Or.inr ⟨⟨last, by simp, hlast⟩, ?_⟩
      have hpos := hlast.length_pos
      rw [heq, List.append_nil, weight_reverse] at hle
      rw [heq, List.append_nil]
      omega
  · refine Or.inr ⟨⟨t, List.mem_append_left _ ht, hdots⟩, ?_⟩
    have hnil : weight [] = 0 := rfl
    rcases addLast_cases (front.foldl addSegment []) last with ⟨_, hadd⟩ | ⟨_, hle⟩
    · rw [hadd, weight_cons]
      omega
    · omega

theorem resolved_ne_nil (S : List (List Char)) : resolved S ≠ [] := by
  rw [resolved, Ne, List.reverse_eq_nil_iff, addLast]
  split <;> simp

theorem mem_shorten {done : List (List Char)} {s : List Char} (h : s ∈ shorten done) :
    s ∈ done := by
  cases done with
  | nil => exact h
  | cons t done =>
      rw [shorten] at h
      split at h
      · exact h
      · exact List.mem_cons_of_mem _ h

theorem mem_addSegment {done : List (List Char)} {s t : List Char}
    (h : s ∈ addSegment done t) : s ∈ done ∨ s = t ∧ ¬ IsDots t := by
  unfold addSegment at h
  split at h
  · exact Or.inl (mem_shorten h)
  · exact Or.inl h
  · rename_i hdots hdot
    exact (List.mem_cons.mp h).symm.imp_right fun heq => ⟨heq, not_or.mpr ⟨hdot, hdots⟩⟩

theorem mem_addLast {done : List (List Char)} {s t : List Char} (h : s ∈ addLast done t) :
    s = [] ∨ s ∈ done ∨ s = t ∧ ¬ IsDots t := by
  unfold addLast at h
  split at h
  · exact (List.mem_cons.mp h).imp_right fun hmem => Or.inl (mem_shorten hmem)
  · exact (List.mem_cons.mp h).imp_right Or.inl
  · rename_i hdots hdot
    exact Or.inr ((List.mem_cons.mp h).symm.imp_right fun heq => ⟨heq, not_or.mpr ⟨hdot, hdots⟩⟩)

theorem mem_foldl_addSegment {S done : List (List Char)} {s : List Char}
    (h : s ∈ S.foldl addSegment done) : s ∈ done ∨ s ∈ S ∧ ¬ IsDots s := by
  induction S generalizing done with
  | nil => exact Or.inl h
  | cons t S ih =>
      rcases ih h with hdone | ⟨hS, hs⟩
      · rcases mem_addSegment hdone with hdone | ⟨rfl, hs⟩
        · exact Or.inl hdone
        · exact Or.inr ⟨List.mem_cons_self .., hs⟩
      · exact Or.inr ⟨List.mem_cons_of_mem _ hS, hs⟩

theorem mem_resolved {S : List (List Char)} (hne : S ≠ []) {s : List Char}
    (h : s ∈ resolved S) : s = [] ∨ s ∈ S ∧ ¬ IsDots s := by
  obtain ⟨front, last, rfl⟩ := (List.eq_nil_or_concat' S).resolve_left hne
  rw [resolved, List.dropLast_concat, List.getLast?_concat, Option.getD_some,
    List.mem_reverse] at h
  rcases mem_addLast h with rfl | hmem | ⟨rfl, hs⟩
  · exact Or.inl rfl
  · rcases mem_foldl_addSegment hmem with hnone | ⟨hmem, hs⟩
    · cases hnone
    · exact Or.inr ⟨List.mem_append_left _ hmem, hs⟩
  · exact Or.inr ⟨by simp, hs⟩

/-! ## Paths in order -/

/-- A text that reading a path leaves as it is. -/
structure Settled (cs : List Char) : Prop where
  kept : ∀ c ∈ cs, c.toNat < 0x80 ∧ keepPath c = true ∧ c ≠ '\\'
  dotless : ∀ s ∈ pieces '/' cs, ¬ IsDots s

/-- The text with the slashes that a special scheme takes for such. -/
def forwardSlashes (cs : List Char) : List Char :=
  cs.map fun c => if isSlash true c then '/' else c

theorem forwardSlashes_eq_self {cs : List Char} (h : '\\' ∉ cs) : forwardSlashes cs = cs := by
  have hsame : ∀ c ∈ cs, (if isSlash true c then '/' else c) = id c := by
    intro c hc
    have hback : c ≠ '\\' := fun heq => h (heq ▸ hc)
    by_cases hslash : c = '/'
    · rw [hslash]
      rfl
    · rw [if_neg (by simp [isSlash, hslash, hback])]
      rfl
  rw [forwardSlashes, List.map_congr_left hsame, List.map_id]

theorem not_mem_forwardSlashes (cs : List Char) : '\\' ∉ forwardSlashes cs := by
  intro h
  obtain ⟨c, _, hc⟩ := List.mem_map.mp h
  split at hc
  · cases hc
  · rename_i hslash
    subst hc
    exact hslash rfl

theorem forwardSlashes_append (a b : List Char) :
    forwardSlashes (a ++ b) = forwardSlashes a ++ forwardSlashes b := List.map_append

theorem length_utf8_forwardSlashes (cs : List Char) :
    (utf8 (forwardSlashes cs)).length = (utf8 cs).length := by
  induction cs with
  | nil => rfl
  | cons c cs ih =>
      have hc : (String.utf8EncodeChar (if isSlash true c then '/' else c)).length =
          (String.utf8EncodeChar c).length := by
        split
        · rename_i hslash
          simp only [isSlash, Bool.true_and, Bool.or_eq_true, beq_iff_eq] at hslash
          rcases hslash with rfl | rfl <;> decide
        · rfl
      rw [forwardSlashes, List.map_cons, utf8_cons, utf8_cons, List.length_append,
        List.length_append, hc, ← forwardSlashes, ih]

theorem pathOf_eq (cs : List Char) : (pathOf true cs).toList =
    led '/' (resolved ((pieces '/' (forwardSlashes cs)).map (Percent.encode keepPath))) :=
  toList_joinSegments (resolved_ne_nil _)

/-- A character of an encoded segment is kept when the segment is read again, and it is no
slash. -/
theorem kept_of_mem_encode {s : List Char} (hslash : ∀ c ∈ s, c ≠ '/' ∧ c ≠ '\\') {c : Char}
    (h : c ∈ Percent.encode keepPath s) :
    (c.toNat < 0x80 ∧ keepPath c = true ∧ c ≠ '\\') ∧ c ≠ '/' := by
  rcases Percent.mem_encode h with ⟨hmem, hascii, hkeep⟩ | rfl | hhex
  · exact ⟨⟨hascii, hkeep, (hslash c hmem).2⟩, (hslash c hmem).1⟩
  · decide
  · have hkept := Percent.forall_hex
      (p := fun c => (c.toNat < 0x80 && keepPath c && c != '\\') && c != '/') (by decide) hhex
    simpa [and_assoc] using hkept

/-- What is read as a path is in order. -/
theorem settled_pathOf (cs : List Char) : Settled (pathOf true cs).toList := by
  have hne : (pieces '/' (forwardSlashes cs)).map (Percent.encode keepPath) ≠ [] :=
    mt List.map_eq_nil_iff.mp (pieces_ne_nil _ _)
  have hchar : ∀ s ∈ resolved ((pieces '/' (forwardSlashes cs)).map (Percent.encode keepPath)),
      ∀ c ∈ s, (c.toNat < 0x80 ∧ keepPath c = true ∧ c ≠ '\\') ∧ c ≠ '/' := by
    intro s hs c hc
    rcases mem_resolved hne hs with rfl | ⟨hmem, _⟩
    · cases hc
    · obtain ⟨u, hu, rfl⟩ := List.mem_map.mp hmem
      refine kept_of_mem_encode (fun d hd => ?_) hc
      obtain ⟨hd, hslash⟩ := mem_pieces hu d hd
      exact ⟨hslash, fun heq => not_mem_forwardSlashes cs (heq ▸ hd)⟩
  rw [pathOf_eq]
  constructor
  · intro c hc
    obtain ⟨s, hs, hc⟩ := List.mem_flatMap.mp hc
    rcases List.mem_cons.mp hc with rfl | hc
    · decide
    · exact (hchar s hs c hc).1
  · rw [pieces_led fun s hs hslash => (hchar s hs '/' hslash).2 rfl]
    intro s hs
    rcases List.mem_cons.mp hs with rfl | hs
    · decide
    · rcases mem_resolved hne hs with rfl | ⟨_, hdots⟩
      · decide
      · exact hdots

theorem Settled.encode_eq_self {p : List Char} (hp : Settled p) {s : List Char}
    (hs : s ∈ pieces '/' p) : Percent.encode keepPath s = s :=
  Percent.encode_eq_self fun c hc =>
    let hkept := hp.kept c (mem_pieces hs c hc).1
    ⟨hkept.1, hkept.2.1⟩

/-- A text in order stays so when slashes at its end are left out. -/
theorem Settled.dropTrailing {s : String} (h : Settled s.toList) :
    Settled (dropTrailing '/' s).toList := by
  rw [Text.dropTrailing, String.toList_ofList]
  obtain ⟨tail, htail, hslashes⟩ := exists_trimmed (· == '/') s.toList
  generalize trimEnd (· == '/') s.toList = front at htail
  rw [htail] at h
  refine ⟨fun c hc => h.kept c (List.mem_append_left _ hc), fun p hp => h.dotless p ?_⟩
  cases tail with
  | nil => rwa [List.append_nil]
  | cons c tail =>
      obtain rfl : c = '/' := eq_of_beq (hslashes c (List.mem_cons_self ..))
      rw [pieces_append_cons]
      exact List.mem_append_left _ hp

/-- Whether there are dots among the segments of a path in order and a text behind it is up to
the text. -/
theorem Settled.dotless_behind {p : List Char} (hp : Settled p) {S T : List (List Char)}
    (h : [] :: S = pieces '/' p ++ T) :
    (∀ s ∈ S.map (Percent.encode keepPath), ¬ IsDots s) ↔
      ∀ s ∈ T, ¬ IsDots (Percent.encode keepPath s) := by
  constructor
  · intro hS s hs
    have hmem : s ∈ [] :: S := h ▸ List.mem_append_right _ hs
    rcases List.mem_cons.mp hmem with rfl | hmem
    · decide
    · exact hS _ (List.mem_map_of_mem hmem)
  · intro hT s hs
    obtain ⟨u, hu, rfl⟩ := List.mem_map.mp hs
    have hmem : u ∈ pieces '/' p ++ T := h ▸ List.mem_cons_of_mem _ hu
    rcases List.mem_append.mp hmem with hmem | hmem
    · rw [hp.encode_eq_self hmem]
      exact hp.dotless u hmem
    · exact hT u hmem

/-- Reading a text behind a path in order gives the text back, but for its encoding, exactly if
the text has no dot segments and no backslashes and stands for itself. -/
theorem decode_pathOf_eq_iff {p t w : List Char} (hp : Settled p)
    (hw : '/' :: w = p ++ '/' :: t) {x : List UInt8} (hx : (utf8 ('/' :: t)).length ≤ x.length) :
    Percent.decode (utf8 (pathOf true w).toList) = Percent.decode (utf8 p) ++ x ↔
      (∀ s ∈ pieces '/' (forwardSlashes t), ¬ IsDots (Percent.encode keepPath s)) ∧
        x = utf8 ('/' :: forwardSlashes t) ∧ Percent.decode x = x := by
  have hforward : '/' :: forwardSlashes w = p ++ '/' :: forwardSlashes t := by
    have hsame : forwardSlashes p = p :=
      forwardSlashes_eq_self fun hmem => (hp.kept _ hmem).2.2 rfl
    have happ := congrArg forwardSlashes hw
    rwa [forwardSlashes_append, hsame] at happ
  have hpieces : [] :: pieces '/' (forwardSlashes w) =
      pieces '/' p ++ pieces '/' (forwardSlashes t) := by
    rw [← pieces_cons_self, hforward, pieces_append_cons]
  rw [pathOf_eq, ← hp.dotless_behind hpieces]
  have hne : (pieces '/' (forwardSlashes w)).map (Percent.encode keepPath) ≠ [] :=
    mt List.map_eq_nil_iff.mp (pieces_ne_nil _ _)
  have hdecode :
      Percent.decode (utf8 (led '/' ((pieces '/' (forwardSlashes w)).map
        (Percent.encode keepPath)))) =
        Percent.decode (utf8 p) ++ Percent.decode (utf8 ('/' :: forwardSlashes t)) := by
    rw [encode_led, Percent.decode_encode keepPath_keepsEscapes, led_pieces, hforward,
      decode_append_slash]
  have hlength : (utf8 ('/' :: forwardSlashes t)).length ≤ x.length :=
    Nat.le_trans (Nat.le_of_eq (length_utf8_forwardSlashes ('/' :: t))) hx
  rcases resolved_cases hne with ⟨hnone, heq⟩ | ⟨⟨s, hs, hdots⟩, hlt⟩
  · rw [heq, hdecode, List.append_cancel_left_eq]
    constructor
    · rintro rfl
      have hself := Percent.decode_eq_self hlength
      exact ⟨hnone, hself, by rw [hself, hself]⟩
    · rintro ⟨-, rfl, hself⟩
      exact hself
  · -- a dot segment costs bytes that nothing makes up for
    refine iff_of_false (fun heq => ?_) fun h => h.1 s hs hdots
    have hshort := congrArg List.length heq
    have hle := Percent.length_decode_le (utf8 ('/' :: forwardSlashes t))
    have hwhole := congrArg List.length hdecode
    rw [length_decode_led, List.length_append] at hshort hwhole
    omega

end Waymark.Url
