import Mathlib.Data.List.Flatten
import Waymark.Proofs.Tree.Rooted
import Waymark.Proofs.Url.Host
import Waymark.Proofs.Url.Path

/-!
# What absolute URLs address

An absolute URL is read from a text that is put together: a scheme, an authority
and the path of the base with a reversed path behind it. Reading it gives each
of the parts back as long as nothing in one of them means something to the
reader (`UrlPath.absolute_addresses`).

The scheme always comes back, and so does the authority if nothing in the host
ends one (`Within`). A path comes back exactly if it is plain (`PlainPath`): it
has no marks that end a path or are left out or taken for slashes, no segments
of dots, and nothing in it is the encoding of something else. Reversed paths are
not encoded, so not every one of them is plain.
-/

namespace Waymark

open Text

namespace Text

theorem trimEnd_append_cons {p : Char → Bool} {c : Char} (hc : p c = false) (a b : List Char) :
    trimEnd p (a ++ c :: b) = a ++ c :: trimEnd p b := by
  have hstop : ∀ x ∈ (c :: a.reverse).head?, p x = false := by
    rintro x ⟨⟩
    exact hc
  have hreverse : (a ++ c :: b).reverse = b.reverse ++ c :: a.reverse := by simp
  rw [trimEnd, hreverse, dropWhile_append_stop hstop, trimEnd]
  simp

end Text

namespace Url

/-! ## What is read of a text -/

/-- A character that is not left out of a URL. -/
def isVisible (c : Char) : Bool := c != '\t' && c != '\n' && c != '\r'

/-- What is read of a text at the end of a URL. -/
def visible (cs : List Char) : List Char := (trimEnd (·.toNat ≤ 0x20) cs).filter isVisible

/-- A class of characters without tabs and line ends is of visible ones. -/
theorem isVisible_of {p : Char → Bool} (h : ['\t', '\n', '\r'].any p = false) {c : Char}
    (hc : p c = true) : isVisible c = true := by
  rw [isVisible, Bool.and_eq_true, Bool.and_eq_true, bne_iff_ne, bne_iff_ne, bne_iff_ne]
  rw [List.any_eq_false] at h
  refine ⟨⟨?_, ?_⟩, ?_⟩ <;> rintro rfl <;> exact h _ (by simp) hc

theorem visible_append_slash (a b : List Char) :
    visible (a ++ '/' :: b) = a.filter isVisible ++ '/' :: visible b := by
  rw [visible, trimEnd_append_cons (by decide), List.filter_append, visible]
  rfl

theorem visible_sublist (cs : List Char) : (visible cs).Sublist cs :=
  List.filter_sublist.trans (Text.trimEnd_prefix _ cs).sublist

/-- A text is read in full if nothing in it is left out and no blank ends it. -/
theorem visible_eq_self_iff {cs : List Char} :
    visible cs = cs ↔ (∀ c ∈ cs, isVisible c = true) ∧ ∀ c ∈ cs.getLast?, 0x20 < c.toNat := by
  constructor
  · intro h
    have htrim : trimEnd (·.toNat ≤ 0x20) cs = cs := by
      refine (Text.trimEnd_prefix _ cs).eq_of_length_le ?_
      conv_lhs => rw [← h]
      exact List.length_filter_le ..
    rw [visible, htrim, List.filter_eq_self] at h
    refine ⟨h, fun c hc => ?_⟩
    rw [← htrim] at hc
    have hnot := getLast?_trimEnd hc
    rw [decide_eq_false_iff_not] at hnot
    omega
  · rintro ⟨hvisible, hlast⟩
    have htrim : trimEnd (·.toNat ≤ 0x20) cs = cs := by
      have hnone : ∀ d ∈ ([] : List Char), decide (d.toNat ≤ 0x20) = true := by simp
      have happend := trimEnd_append
        (fun c hc => decide_eq_false (Nat.not_le.mpr (hlast c hc))) hnone
      rwa [List.append_nil] at happend
    rw [visible, htrim, List.filter_eq_self]
    exact hvisible

theorem significant_append {front tail : String} {w : List Char} {c : Char} {cs : List Char}
    (hfront : front.toList = c :: cs) (hc : 0x20 < c.toNat) (htail : tail.toList = '/' :: w) :
    significant (front ++ tail) = front.toList.filter isVisible ++ '/' :: visible w := by
  have hlead : ¬ (fun c : Char => decide (c.toNat ≤ 0x20)) c = true := by simpa using hc
  have hdrop : (front ++ tail).toList.dropWhile (·.toNat ≤ 0x20) = front.toList ++ '/' :: w := by
    rw [String.toList_append, htail, hfront, List.cons_append]
    exact List.dropWhile_cons_of_neg hlead
  change (trimEnd (·.toNat ≤ 0x20) ((front ++ tail).toList.dropWhile (·.toNat ≤ 0x20))).filter
    isVisible = _
  rw [hdrop]
  exact visible_append_slash ..

/-! ## Schemes -/

def webSchemes : List String := ["http", "https", "ws", "wss"]

section Web

variable {scheme : String} (h : scheme ∈ webSchemes)
include h

theorem isSpecial_of_web : isSpecial scheme = true ∧ scheme ≠ "file" := by
  have hall : ∀ scheme ∈ webSchemes, isSpecial scheme = true ∧ scheme ≠ "file" := by decide
  exact hall scheme h

theorem chars_of_web : (∀ c ∈ scheme.toList, isSchemeChar c = true ∧ isVisible c = true) ∧
    lower scheme = scheme ∧ ∃ c cs, scheme.toList = c :: cs ∧ isLetter c = true ∧
      0x20 < c.toNat := by
  have hall : ∀ scheme ∈ webSchemes,
      scheme.toList.all (fun c => isSchemeChar c && isVisible c) = true ∧ lower scheme = scheme ∧
        scheme.toList.head?.any (fun c => isLetter c && 0x20 < c.toNat) = true := by
    decide +kernel
  obtain ⟨hchars, hlower, hhead⟩ := hall scheme h
  obtain ⟨c, hc, hletter⟩ := (Option.any_eq_true _ _).mp hhead
  obtain ⟨cs, hcs⟩ := List.head?_eq_some_iff.mp hc
  exact ⟨by simpa using hchars, hlower, c, cs, hcs, by simpa using hletter⟩

theorem cutScheme?_web (rest : List Char) :
    cutScheme? (scheme.toList ++ ':' :: rest) = some (scheme, rest) := by
  obtain ⟨hchars, hlower, c, cs, hcs, hletter, _⟩ := chars_of_web h
  have hstop : ∀ c ∈ (':' :: rest).head?, isSchemeChar c = false := by
    rintro c ⟨⟩
    decide
  have htake : (scheme.toList ++ ':' :: rest).takeWhile isSchemeChar = scheme.toList := by
    rw [takeWhile_append_stop hstop]
    exact List.takeWhile_eq_self_iff.mpr fun c hc => (hchars c hc).1
  have hdrop : (scheme.toList ++ ':' :: rest).dropWhile isSchemeChar = ':' :: rest := by
    rw [dropWhile_append_stop hstop, List.dropWhile_eq_nil_iff.mpr fun c hc => (hchars c hc).1]
    rfl
  have hshape : scheme.toList ++ ':' :: rest = c :: (cs ++ ':' :: rest) := by rw [hcs]; rfl
  rw [hshape] at htake hdrop ⊢
  rw [cutScheme?, hletter, hdrop, htake, String.ofList_toList, hlower]
  rfl

end Web

/-! ## Reading behind an authority -/

/-- A text that stands for one authority, with nothing that ends it. -/
structure Within (netloc : List Char) : Prop where
  filled : netloc.filter isVisible ≠ []
  unended : ∀ c ∈ netloc, endsAuthority true c = false

theorem Within.filter_unended {netloc : List Char} (h : Within netloc) :
    ∀ c ∈ netloc.filter isVisible, endsAuthority true c = false :=
  fun c hc => h.unended c (List.mem_of_mem_filter hc)

/-- The slashes in front of an authority are left out, and no more. -/
theorem Within.dropWhile_slashes {netloc : List Char} (h : Within netloc) (rest : List Char) :
    ('/' :: '/' :: (netloc.filter isVisible ++ rest)).dropWhile (isSlash true) =
      netloc.filter isVisible ++ rest := by
  obtain ⟨c, cs, hcs⟩ := List.exists_cons_of_ne_nil h.filled
  have hc := h.filter_unended c (by rw [hcs]; exact List.mem_cons_self ..)
  rw [endsAuthority, Bool.or_eq_false_iff, Bool.or_eq_false_iff] at hc
  have hnot : ¬ isSlash true c = true := by rw [hc.1.1]; exact Bool.false_ne_true
  rw [hcs]
  exact List.dropWhile_cons_of_neg hnot

def hosted (scheme : String) (a : Authority) (rest : List Char) : Url :=
  ⟨scheme, some a, authorityPath (isSpecial scheme) (spanPath rest).1,
    (tail scheme (spanPath rest).2).1, (tail scheme (spanPath rest).2).2⟩

theorem readHosted_eq (scheme : String) (cs : List Char) : readHosted scheme cs =
    (readAuthority scheme cs).map fun x => hosted scheme x.1 x.2 := by
  rw [readHosted]
  cases readAuthority scheme cs <;> rfl

/-- What is read of a scheme, an authority and a text behind a slash. -/
theorem significant_web {scheme : String} (hweb : scheme ∈ webSchemes) {netloc behind : String}
    {w : List Char} (hbehind : behind.toList = '/' :: w) :
    significant (scheme ++ "://" ++ (netloc ++ behind)) = scheme.toList ++
      ':' :: '/' :: '/' :: (netloc.toList.filter isVisible ++ '/' :: visible w) := by
  obtain ⟨hchars, _, c, cs, hcs, _, hc⟩ := chars_of_web hweb
  have hvisible : scheme.toList.filter isVisible = scheme.toList :=
    List.filter_eq_self.mpr fun c hc => (hchars c hc).2
  have hmarks : "://".toList.filter isVisible = [':', '/', '/'] := by decide
  have hfront : (scheme ++ "://" ++ netloc).toList =
      c :: (cs ++ "://".toList ++ netloc.toList) := by
    rw [String.toList_append, String.toList_append, hcs]
    rfl
  rw [← String.append_assoc, significant_append hfront hc hbehind, String.toList_append,
    String.toList_append, List.filter_append, List.filter_append, hvisible, hmarks,
    List.append_assoc, List.append_assoc]
  rfl

/-- Reading a text that was put together is reading its authority. -/
theorem read_web {scheme : String} (hweb : scheme ∈ webSchemes) {netloc behind : String}
    (hnetloc : Within netloc.toList) {w : List Char} (hbehind : behind.toList = '/' :: w) :
    read (scheme ++ "://" ++ (netloc ++ behind)) =
      (readAuthority scheme (netloc.toList.filter isVisible ++ '/' :: visible w)).map
        fun x => hosted scheme x.1 ('/' :: visible w) := by
  obtain ⟨hspecial, hfile⟩ := isSpecial_of_web hweb
  rw [read, significant_web hweb hbehind, cutScheme?_web hweb]
  dsimp only
  rw [if_neg hfile, if_pos hspecial, hnetloc.dropWhile_slashes, readHosted_eq]
  cases hread : readAuthority scheme (netloc.toList.filter isVisible ++ '/' :: visible w) with
  | error e => rfl
  | ok x =>
      obtain ⟨a, rest⟩ := x
      obtain rfl := readAuthority_slash hspecial hnetloc.filter_unended hread
      rfl

theorem read_root {scheme : String} (hweb : scheme ∈ webSchemes) {netloc : String}
    (hnetloc : Within netloc.toList) {t rest : List Char} {a : Authority}
    (hread : readAuthority scheme (netloc.toList.filter isVisible ++ '/' :: t) = .ok (a, rest)) :
    read (scheme ++ "://" ++ (netloc ++ "/")) = .ok ⟨scheme, some a, "/", none, none⟩ := by
  obtain ⟨hspecial, _⟩ := isSpecial_of_web hweb
  have hroot : hosted scheme a ['/'] = ⟨scheme, some a, "/", none, none⟩ := by
    have hpath : authorityPath true ['/'] = "/" := by decide
    rw [← hpath, ← hspecial]
    rfl
  have hsame := readAuthority_behind_slash scheme (netloc.toList.filter isVisible) t
  rw [hread] at hsame
  rw [read_web hweb hnetloc (rfl : "/".toList = '/' :: []), ← hroot]
  obtain ⟨⟨again, _⟩, hagain, rfl⟩ := Except.map_eq_ok_iff.mp hsame.symm
  exact Except.map_eq_ok_iff.mpr ⟨_, hagain, rfl⟩

/-- A mark that ends a path. -/
def IsMark (c : Char) : Prop := c = '?' ∨ c = '#'

theorem spanPath_slash (w : List Char) : spanPath ('/' :: w) =
    ('/' :: w.takeWhile (fun c => c != '?' && c != '#'),
      w.dropWhile (fun c => c != '?' && c != '#')) := by
  rw [spanPath, List.span_eq_takeWhile_dropWhile]
  rfl

/-- Without marks, all that is behind the authority is the path. -/
theorem hosted_of_unmarked {scheme : String} (hspecial : isSpecial scheme = true) (a : Authority)
    {w : List Char} (h : ∀ c ∈ w, ¬ IsMark c) :
    hosted scheme a ('/' :: w) = ⟨scheme, some a, pathOf true w, none, none⟩ := by
  have hpass : ∀ c ∈ w, (c != '?' && c != '#') = true := by simpa [IsMark] using h
  have hspan : spanPath ('/' :: w) = ('/' :: w, []) := by
    rw [spanPath_slash, List.takeWhile_eq_self_iff.mpr hpass,
      List.dropWhile_eq_nil_iff.mpr hpass]
  rw [hosted, hspan, hspecial]
  rfl

theorem unmarked_of_hosted {scheme : String} {a : Authority} {w : List Char}
    (hquery : (hosted scheme a ('/' :: w)).query = none)
    (hfragment : (hosted scheme a ('/' :: w)).fragment = none) : ∀ c ∈ w, ¬ IsMark c := by
  rw [hosted, spanPath_slash] at hquery hfragment
  cases hrest : w.dropWhile (fun c => c != '?' && c != '#') with
  | nil => simpa [IsMark] using List.dropWhile_eq_nil_iff.mp hrest
  | cons c rest =>
      have hmark := List.head?_dropWhile_not (fun c => c != '?' && c != '#') w
      rw [hrest] at hquery hfragment hmark
      have hcases : c = '?' ∨ c = '#' := or_iff_not_imp_left.mpr (by simpa using hmark)
      rcases hcases with rfl | rfl
      · cases hquery
      · cases hfragment

/-! ## Bases -/

theorem scheme_of_readHosted {scheme : String} {cs : List Char} {url : Url}
    (h : readHosted scheme cs = .ok url) : url.scheme = scheme := by
  rw [readHosted_eq] at h
  obtain ⟨x, _, rfl⟩ := Except.map_eq_ok_iff.mp h
  rfl

theorem scheme_of_readFile {cs : List Char} {url : Url} (h : readFile cs = .ok url) :
    url.scheme = "file" := by
  simp only [readFile] at h
  split at h
  · split at h
    · obtain ⟨host, _, h⟩ := Except.bind_eq_ok_iff.mp h
      cases h
      rfl
    · cases h
      rfl
  · cases h
    rfl

theorem hosted_of_read {s : String} {base : Url} (hread : read s = .ok base)
    (hweb : base.scheme ∈ webSchemes) : ∃ cs, readHosted base.scheme cs = .ok base := by
  obtain ⟨hspecial, hfile⟩ := isSpecial_of_web hweb
  unfold read at hread
  cases hscheme : cutScheme? (significant s) with
  | none =>
      rw [hscheme] at hread
      cases hread
  | some found =>
      obtain ⟨scheme, rest⟩ := found
      rw [hscheme] at hread
      dsimp only at hread
      split at hread
      · exact absurd (scheme_of_readFile hread) hfile
      · split at hread
        · exact ⟨_, by rw [scheme_of_readHosted hread, hread]⟩
        · rename_i hplain
          have hscheme : base.scheme = scheme := by
            split at hread
            · exact scheme_of_readHosted hread
            · cases hread
              rfl
          exact absurd (hscheme ▸ hspecial) hplain

/-- What a base on the web is made of. -/
structure OnWeb (base : Url) (a : Authority) : Prop where
  authority : base.authority = some a
  host : ReadHost a.host
  port : ∀ p, a.port = some p → p ≤ 65535 ∧ usualPort? base.scheme ≠ some p
  slashed : startsWithSlash base.path = true
  settled : Settled base.path.toList

theorem onWeb_of_read {s : String} {base : Url} (hread : read s = .ok base)
    (hweb : base.scheme ∈ webSchemes) : ∃ a, OnWeb base a := by
  obtain ⟨hspecial, _⟩ := isSpecial_of_web hweb
  obtain ⟨cs, hcs⟩ := hosted_of_read hread hweb
  rw [readHosted_eq] at hcs
  obtain ⟨⟨a, rest⟩, hauthority, heq⟩ := Except.map_eq_ok_iff.mp hcs
  obtain ⟨-, -, ⟨source, hhost⟩, hport⟩ := readAuthority_rest hspecial hauthority
  have hpath : ∃ w, base.path = pathOf true w := by
    rw [← heq, hosted, hspecial]
    cases (spanPath rest).1 with
    | nil =>
        have hroot : "/" = pathOf true [] := by decide
        exact ⟨[], hroot⟩
    | cons c w => exact ⟨_, rfl⟩
  obtain ⟨w, hw⟩ := hpath
  exact ⟨a, by rw [← heq]; rfl, readHost_form hhost, hport, hw ▸ startsWithSlash_pathOf true w,
    hw ▸ settled_pathOf w⟩

theorem ReadHost.filter_netloc {a : Authority} (h : ReadHost a.host) :
    a.netloc.toList.filter isVisible = a.netloc.toList :=
  List.filter_eq_self.mpr fun c hc => isVisible_of (by decide) (h.netloc_chars c hc)

theorem ReadHost.within {a : Authority} (h : ReadHost a.host) : Within a.netloc.toList where
  filled := by
    rw [h.filter_netloc, Authority.netloc, String.toList_append]
    exact List.append_ne_nil_of_left_ne_nil h.ne_nil _
  unended c hc := endsAuthority_of_isHostChar (h.netloc_chars c hc)

theorem ReadHost.again_of_lower {host again : String} (h : ReadHost host)
    (hlower : lower host = host) (hread : readHost host.toList = .ok again) : again = host := by
  have hmap := congrArg String.toList hlower
  rw [lower, String.toList_ofList] at hmap
  exact h.again (List.map_inj_left.mp (hmap.trans (List.map_id _).symm)) hread

/-- An authority is read again if its host is. -/
theorem ReadHost.authority_again {scheme : String} (hspecial : isSpecial scheme = true)
    {a : Authority} (h : ReadHost a.host)
    (hport : ∀ p, a.port = some p → p ≤ 65535 ∧ usualPort? scheme ≠ some p)
    (hagain : ∀ host, readHost a.host.toList = .ok host → host = a.host) {w rest : List Char}
    {again : Authority}
    (hread : Url.readAuthority scheme (a.netloc.toList.filter isVisible ++ '/' :: w) =
      .ok (again, rest)) : again = ⟨"", a.host, a.port⟩ := by
  rw [h.filter_netloc, h.readAuthority hspecial hport] at hread
  obtain ⟨host, hhost, heq⟩ := Except.map_eq_ok_iff.mp hread
  rw [← (Prod.mk.inj heq).1, hagain host hhost]

/-! ## Plain paths -/

/-- A path that is read as it is: no mark ends it, nothing in it is left out or taken for a
slash, none of its segments are dots, and nothing in it is the encoding of something else. -/
structure PlainPath (cs : List Char) : Prop where
  unmarked : ∀ c ∈ cs, ¬ IsMark c
  visible : ∀ c ∈ cs, isVisible c = true
  ended : ∀ c ∈ cs.getLast?, 0x20 < c.toNat
  forward : '\\' ∉ cs
  dotless : ∀ s ∈ pieces '/' cs, s ≠ ['.'] ∧ s ≠ ['.', '.']
  literal : Percent.decode (utf8 cs) = utf8 cs

def isPlainPath (cs : List Char) : Bool :=
  cs.all (fun c => c != '?' && c != '#') && cs.all isVisible &&
    cs.getLast?.all (0x20 < ·.toNat) && !cs.contains '\\' &&
    (pieces '/' cs).all (fun s => s != ['.'] && s != ['.', '.']) &&
    Percent.decode (utf8 cs) == utf8 cs

theorem isPlainPath_iff {cs : List Char} : isPlainPath cs = true ↔ PlainPath cs := by
  simp only [isPlainPath, Bool.and_eq_true, List.all_eq_true, Option.all_eq_true, bne_iff_ne,
    beq_iff_eq, decide_eq_true_eq, Bool.not_eq_true', ← Bool.not_eq_true, List.contains_iff_mem]
  constructor
  · rintro ⟨⟨⟨⟨⟨hmark, hvisible⟩, hlast⟩, hforward⟩, hdots⟩, hliteral⟩
    exact ⟨fun c hc => not_or.mpr (hmark c hc), hvisible, hlast, hforward, hdots, hliteral⟩
  · rintro ⟨hmark, hvisible, hlast, hforward, hdots, hliteral⟩
    exact ⟨⟨⟨⟨⟨fun c hc => not_or.mp (hmark c hc), hvisible⟩, hlast⟩, hforward⟩, hdots⟩, hliteral⟩

/-- Segments that decoding leaves alone are dots only if they are written so. -/
theorem dotless_iff {t : List Char} (h : Percent.decode (utf8 ('/' :: t)) = utf8 ('/' :: t)) :
    (∀ s ∈ pieces '/' t, ¬ IsDots (Percent.encode keepPath s)) ↔
      ∀ s ∈ pieces '/' t, s ≠ ['.'] ∧ s ≠ ['.', '.'] := by
  constructor
  · intro hdots s hs
    constructor
    · rintro rfl
      exact hdots _ hs (by decide)
    · rintro rfl
      exact hdots _ hs (by decide)
  · intro hne s hs hdots
    rw [← led_pieces '/' t] at h
    have hliteral := decode_segment h s hs
    have hdecode := hdots.decode
    rw [Percent.decode_encode keepPath_keepsEscapes, hliteral] at hdecode
    exact hdecode.elim (fun heq => (hne s hs).1 (utf8_injective heq))
      fun heq => (hne s hs).2 (utf8_injective heq)

theorem utf8_visible_length_le (t : List Char) :
    (utf8 ('/' :: visible t)).length ≤ (utf8 ('/' :: t)).length :=
  (((visible_sublist t).cons_cons '/').flatMap _).length_le

/-- A text that is found again behind a slash is read in full, and its slashes are such. -/
theorem eq_forwardSlashes_visible_iff {t : List Char} :
    t = forwardSlashes (visible t) ↔ visible t = t ∧ '\\' ∉ t := by
  constructor
  · intro h
    have hlen : (visible t).length = t.length := by
      conv_rhs => rw [h, forwardSlashes, List.length_map]
    have hvisible := (visible_sublist t).eq_of_length hlen
    refine ⟨hvisible, ?_⟩
    rw [h]
    exact not_mem_forwardSlashes _
  · rintro ⟨hvisible, hback⟩
    rw [hvisible, forwardSlashes_eq_self hback]

/-- The slash at the front of a path does not make it less plain. -/
theorem plainPath_slash_iff {t : List Char} : PlainPath ('/' :: t) ↔
    (∀ c ∈ t, ¬ IsMark c) ∧ (visible t = t ∧ '\\' ∉ t) ∧
      (∀ s ∈ pieces '/' t, s ≠ ['.'] ∧ s ≠ ['.', '.']) ∧
      Percent.decode (utf8 ('/' :: t)) = utf8 ('/' :: t) := by
  have hended : (∀ c ∈ ('/' :: t).getLast?, 0x20 < c.toNat) ↔ ∀ c ∈ t.getLast?, 0x20 < c.toNat := by
    rw [List.getLast?_cons]
    cases t.getLast? with
    | none => simp
    | some c => rfl
  rw [visible_eq_self_iff, ← hended]
  constructor
  · rintro ⟨hmark, hvisible, hlast, hforward, hdots, hliteral⟩
    rw [pieces_cons_self, List.forall_mem_cons] at hdots
    rw [List.mem_cons, not_or] at hforward
    exact ⟨(List.forall_mem_cons.mp hmark).2,
      ⟨⟨(List.forall_mem_cons.mp hvisible).2, hlast⟩, hforward.2⟩, hdots.2, hliteral⟩
  · rintro ⟨hmark, ⟨⟨hvisible, hlast⟩, hforward⟩, hdots, hliteral⟩
    refine ⟨List.forall_mem_cons.mpr ⟨by simp [IsMark], hmark⟩,
      List.forall_mem_cons.mpr ⟨rfl, hvisible⟩, hlast, by simpa using hforward, ?_, hliteral⟩
    rw [pieces_cons_self, List.forall_mem_cons]
    exact ⟨by simp, hdots⟩

/-- Behind a path in order, a path is found again in full exactly if it is plain. -/
theorem plainPath_iff {p t w : List Char} (hp : Settled p)
    (hw : '/' :: w = p ++ '/' :: visible t) :
    (∀ c ∈ w, ¬ IsMark c) ∧ Percent.decode (utf8 (pathOf true w).toList) =
        Percent.decode (utf8 p) ++ utf8 ('/' :: t) ↔ PlainPath ('/' :: t) := by
  have hmarks : (∀ c ∈ w, ¬ IsMark c) ↔ ∀ c ∈ visible t, ¬ IsMark c := by
    have hpath : ∀ c ∈ p, ¬ IsMark c := by
      rintro c hc (rfl | rfl) <;> exact absurd (hp.kept _ hc).2.1 (by decide)
    have hslash : ¬ IsMark '/' := by simp [IsMark]
    have hall : (∀ c ∈ '/' :: w, ¬ IsMark c) ↔ ∀ c ∈ p ++ '/' :: visible t, ¬ IsMark c := by
      rw [hw]
    rw [List.forall_mem_cons, List.forall_mem_append, List.forall_mem_cons] at hall
    exact ⟨fun h => (hall.mp ⟨hslash, h⟩).2.2, fun h => (hall.mpr ⟨hpath, hslash, h⟩).2⟩
  have hfound : utf8 ('/' :: t) = utf8 ('/' :: forwardSlashes (visible t)) ↔
      visible t = t ∧ '\\' ∉ t := by
    rw [← eq_forwardSlashes_visible_iff]
    exact ⟨fun h => (List.cons.inj (utf8_injective h)).2, fun h => by rw [← h]⟩
  rw [hmarks, decode_pathOf_eq_iff hp hw (utf8_visible_length_le t), hfound,
    plainPath_slash_iff]
  constructor
  · rintro ⟨hmark, hdots, hwhole, hliteral⟩
    rw [hwhole.1] at hmark hdots
    rw [forwardSlashes_eq_self hwhole.2, dotless_iff hliteral] at hdots
    exact ⟨hmark, hwhole, hdots, hliteral⟩
  · rintro ⟨hmark, hwhole, hdots, hliteral⟩
    rw [hwhole.1, forwardSlashes_eq_self hwhole.2, dotless_iff hliteral]
    exact ⟨hmark, hdots, ⟨rfl, hwhole.2⟩, hliteral⟩

theorem hosted_plain_iff {scheme : String} (hspecial : isSpecial scheme = true) (a : Authority)
    {p t w : List Char} (hp : Settled p) (hw : '/' :: w = p ++ '/' :: visible t) :
    ((hosted scheme a ('/' :: w)).query = none ∧ (hosted scheme a ('/' :: w)).fragment = none ∧
      Percent.decode (utf8 (hosted scheme a ('/' :: w)).path.toList) =
        Percent.decode (utf8 p) ++ utf8 ('/' :: t)) ↔ PlainPath ('/' :: t) := by
  rw [← plainPath_iff hp hw]
  constructor
  · rintro ⟨hquery, hfragment, hpath⟩
    have hmark := unmarked_of_hosted hquery hfragment
    rw [hosted_of_unmarked hspecial a hmark] at hpath
    exact ⟨hmark, hpath⟩
  · rintro ⟨hmark, hpath⟩
    rw [hosted_of_unmarked hspecial a hmark]
    exact ⟨rfl, rfl, hpath⟩

theorem Settled.filter_isVisible {p : List Char} (h : Settled p) : p.filter isVisible = p :=
  List.filter_eq_self.mpr fun c hc => isVisible_of (by decide) (h.kept c hc).2.1

end Url

/-! ## Absolute URLs -/

namespace UrlPath

open Url

variable {u : UrlPath} {base : Url}

/-- The scheme of an absolute URL is one of the web, with the usual port and the security of that
of the base. -/
theorem scheme_of_web (u : UrlPath) (hweb : base.scheme ∈ webSchemes) :
    u.scheme base ∈ webSchemes ∧ usualPort? (u.scheme base) = usualPort? base.scheme ∧
      (u.scheme base == "https" || u.scheme base == "wss") = base.isSecure := by
  have hall : ∀ scheme ∈ webSchemes, ∀ p ∈ [none, some Protocol.http, some Protocol.socket],
      let secure := scheme == "https" || scheme == "wss"
      let given := (p.map fun p => p.scheme secure).getD scheme
      given ∈ webSchemes ∧ usualPort? given = usualPort? scheme ∧
        (given == "https" || given == "wss") = secure := by decide
  refine hall base.scheme hweb u.protocol ?_
  cases u.protocol with
  | none => simp
  | some p => cases p <;> simp

/-- What stands behind the authority is the path of the base and then the reversed path. -/
theorem toList_behind {t : List Char} (hpath : u.path.toList = '/' :: t) :
    (u.behind base).toList = (dropTrailing '/' base.path).toList ++ '/' :: t := by
  rw [behind, String.toList_append, hpath]

theorem visible_behind {a : Authority} (hbase : OnWeb base a) {t w : List Char}
    (hpath : u.path.toList = '/' :: t) (hw : (u.behind base).toList = '/' :: w) :
    '/' :: visible w = (dropTrailing '/' base.path).toList ++ '/' :: visible t := by
  have hsettled := hbase.settled.dropTrailing
  have hslash : visible ('/' :: w) = '/' :: visible w := visible_append_slash [] w
  rw [← hslash, ← hw, toList_behind hpath, visible_append_slash, hsettled.filter_isVisible]

end UrlPath

open Url in
/-- An absolute URL has the scheme for the protocol, as secure as that of the base, and the
authority that is read from the host, or from the host and the port of the base. Hosts in small
letters come back as they are. Its path decodes to those of the base and of the reversed path, and
it has no query and no fragment, exactly if the reversed path is plain. -/
theorem UrlPath.absolute_addresses {u : UrlPath} {s : String} {base url : Url}
    (hrooted : startsWithSlash u.path = true) (hbase : Url.read s = .ok base)
    (hweb : base.scheme ∈ webSchemes) (hhost : ∀ host, u.host = some host → Within host.toList)
    (h : u.absolute s = .ok url) :
    (url.scheme = u.scheme base ∧ url.isSecure = base.isSecure) ∧
    Url.read (u.scheme base ++ "://" ++ (u.netloc base ++ "/")) =
      .ok ⟨url.scheme, url.authority, "/", none, none⟩ ∧
    (∀ a, u.host = none → base.authority = some a → lower a.host = a.host →
      url.authority = some ⟨"", a.host, a.port⟩) ∧
    (∀ host, u.host = some host → readHost host.toList = .ok host →
      url.authority = some ⟨"", host, none⟩) ∧
    (url.query = none ∧ url.fragment = none ∧
        Percent.decode (utf8 url.path.toList) =
          Percent.decode (utf8 (dropTrailing '/' base.path).toList) ++ utf8 u.path.toList ↔
      PlainPath u.path.toList) := by
  obtain ⟨b, hb⟩ := onWeb_of_read hbase hweb
  obtain ⟨hscheme, husual, hsecure⟩ := u.scheme_of_web hweb
  obtain ⟨hspecial, _⟩ := isSpecial_of_web hscheme
  have hbnetloc : base.netloc = b.netloc := by rw [Url.netloc, hb.authority]; rfl
  have hnetloc : Within (u.netloc base).toList := by
    rw [netloc, hbnetloc]
    cases hu : u.host with
    | none => exact hb.host.within
    | some host => exact hhost host hu
  obtain ⟨t, ht⟩ := startsWithSlash_iff.mp hrooted
  obtain ⟨w, hw⟩ := startsWithSlash_iff.mp (startsWithSlash_behind hrooted (Or.inr hb.slashed))
  have hread : (readAuthority (u.scheme base)
      ((u.netloc base).toList.filter isVisible ++ '/' :: visible w)).map
        (fun x => hosted (u.scheme base) x.1 ('/' :: visible w)) = .ok url := by
    rw [← read_web hscheme hnetloc hw, ← absoluteText_eq, ← h, absolute, hbase]
    rfl
  obtain ⟨⟨a, rest⟩, hauthority, rfl⟩ := Except.map_eq_ok_iff.mp hread
  refine ⟨⟨rfl, hsecure⟩, read_root hscheme hnetloc hauthority, ?_, ?_, ?_⟩
  · intro c hnone hc hlower
    obtain rfl : b = c := Option.some.inj (hb.authority.symm.trans hc)
    rw [netloc, hnone, Option.getD_none, hbnetloc] at hauthority
    exact congrArg some (hb.host.authority_again hspecial (husual ▸ hb.port)
      (fun _ => hb.host.again_of_lower hlower) hauthority)
  · intro host hsome hself
    have hform : ReadHost (Authority.mk "" host none).host := readHost_form hself
    have hbare : (Authority.mk "" host none).netloc = host := String.append_empty
    rw [netloc, hsome, Option.getD_some, ← hbare] at hauthority
    exact congrArg some (hform.authority_again hspecial (by simp)
      (fun again hagain => Except.ok.inj (hagain.symm.trans hself)) hauthority)
  · rw [ht]
    exact hosted_plain_iff hspecial a hb.settled.dropTrailing (visible_behind hb ht hw)

namespace Site

/-- The page of a tenant, addressed by the host of the tenant and not by that of the base. -/
theorem absolute_addresses_tenant :
    let params : Params := .ofList [("tenant", .str "acme"), ("slug", .str "a b")]
    let u : UrlPath := ⟨"/posts/a b", some .http, some "acme.example.com"⟩
    let base : Url := ⟨"wss", some ⟨"", "localhost", some 8443⟩, "/app/", none, none⟩
    let url : Url := ⟨"https", some ⟨"", "acme.example.com", none⟩, "/app/posts/a%20b", none, none⟩
    hosted.urlPath? "tenant:post" params = some u ∧ startsWithSlash u.path = true ∧
      Url.read "wss://localhost:8443/app/" = .ok base ∧ base.scheme ∈ Url.webSchemes ∧
      (∀ host, u.host = some host → Url.Within host.toList) ∧
      u.absolute "wss://localhost:8443/app/" = .ok url ∧ url.isSecure = base.isSecure ∧
      url.authority = some ⟨"", "acme.example.com", none⟩ ∧ url.query = none ∧
      url.fragment = none ∧ Percent.decode (utf8 url.path.toList) =
        Percent.decode (utf8 (dropTrailing '/' base.path).toList) ++ utf8 u.path.toList := by
  intro params u base url
  have hu : hosted.urlPath? "tenant:post" params = some u := by decide +kernel
  have hrooted : startsWithSlash u.path = true := by decide
  have hbase : Url.read "wss://localhost:8443/app/" = .ok base := by decide +kernel
  have hweb : base.scheme ∈ Url.webSchemes := by decide
  have hhost : ∀ host, u.host = some host → Url.Within host.toList := by
    rintro host ⟨⟩
    have hunended : "acme.example.com".toList.all (!Url.endsAuthority true ·) = true := by decide
    exact ⟨by decide, by simpa using hunended⟩
  have habsolute : u.absolute "wss://localhost:8443/app/" = .ok url := by decide +kernel
  have hself : Url.readHost "acme.example.com".toList = .ok "acme.example.com" := by
    decide +kernel
  have hplain : Url.PlainPath u.path.toList := Url.isPlainPath_iff.mp (by decide +kernel)
  obtain ⟨⟨_, hsecure⟩, _, _, hauthority, hpath⟩ :=
    UrlPath.absolute_addresses hrooted hbase hweb hhost habsolute
  obtain ⟨hquery, hfragment, hdecode⟩ := hpath.mpr hplain
  exact ⟨hu, hrooted, hbase, hweb, hhost, habsolute, hsecure, hauthority _ rfl hself, hquery,
    hfragment, hdecode⟩

/-- A mark in a parameter ends the path of the absolute URL. -/
theorem marked_path_cut :
    let params : Params := .ofList [("id", .int 7), ("slug", .str "a?b")]
    let u : UrlPath := ⟨"/users/7/posts/a?b", some .http, none⟩
    root.urlPath? "users:post" params = some u ∧ startsWithSlash u.path = true ∧
      u.absolute "http://localhost/" = .ok
        ⟨"http", some ⟨"", "localhost", none⟩, "/users/7/posts/a", some "b", none⟩ := by
  intro params u
  have hu : root.urlPath? "users:post" params = some u := by decide +kernel
  have habsolute : u.absolute "http://localhost/" = .ok
      ⟨"http", some ⟨"", "localhost", none⟩, "/users/7/posts/a", some "b", none⟩ := by
    decide +kernel
  exact ⟨hu, by decide, habsolute⟩

end Site

end Waymark
