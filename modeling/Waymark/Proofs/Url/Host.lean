import Waymark.Proofs.Url.Address
import Waymark.Proofs.Url.Authority
import Waymark.Proofs.Url.Punycode

/-!
# Hosts read again

A host that was read is an address or a domain name in ASCII (`ReadHost`), and
none of its characters means anything else in a URL (`ReadHost.chars`). Reading
it once more gives the same host, if it is a host at all (`ReadHost.again`). For
addresses that is because they are read from what they are written as. The
labels of a name are either plain, and taken as they are, or the punycode of a
text, and decoded to that text (`Punycode.decode?_encode`). With a port behind
it, it is read as the host and that port (`ReadHost.readAuthority`).

Small letters are a hypothesis: the mapping turns capitals into small letters
among ASCII, but what characters beyond ASCII stand for is a matter of its
tables.
-/

namespace Waymark

open Text

/-! ## Texts in ASCII -/

namespace Text

theorem lenient_utf8 {cs : List Char} (h : ∀ c ∈ cs, c.toNat < 0x80) : lenient (utf8 cs) = cs := by
  induction cs with
  | nil => rfl
  | cons c cs ih =>
      obtain ⟨hc, hcs⟩ := List.forall_mem_cons.mp h
      have hbyte : (UInt8.ofNat c.toNat).toNat = c.toNat :=
        UInt8.toNat_ofNat_of_lt' (Nat.lt_trans hc (by decide))
      have hlow : UInt8.ofNat c.toNat < 0x80 := by
        rw [UInt8.lt_iff_toNat_lt, hbyte]
        exact hc
      have hstep : Lenient.step .nothing (UInt8.ofNat c.toNat) = ([c], .nothing) := by
        rw [Lenient.step, Lenient.start, if_pos hlow, hbyte, Char.ofNat_toNat]
      have hrest : Lenient.readFrom .nothing (utf8 cs) = cs := ih hcs
      change Lenient.readFrom .nothing (utf8 (c :: cs)) = c :: cs
      rw [utf8_cons, utf8EncodeChar_of_ascii hc, List.singleton_append, Lenient.readFrom, hstep]
      change c :: Lenient.readFrom .nothing (utf8 cs) = c :: cs
      rw [hrest]

theorem Percent.decode_of_not_mem {bs : List UInt8} (h : (0x25 : UInt8) ∉ bs) :
    Percent.decode bs = bs := by
  induction bs with
  | nil => rfl
  | cons b bs ih =>
      rw [List.mem_cons, not_or] at h
      rw [Percent.decode_cons_of_ne (Ne.symm h.1), ih h.2]

theorem lenient_decode {cs : List Char} (h : ∀ c ∈ cs, c.toNat < 0x80) (hpercent : '%' ∉ cs) :
    lenient (Percent.decode (utf8 cs)) = cs := by
  have hbytes : (0x25 : UInt8) ∉ utf8 cs := by
    rw [utf8_of_ascii h]
    intro hmem
    obtain ⟨c, hc, heq⟩ := List.mem_map.mp hmem
    have hcode : c.toNat = 0x25 := by
      rw [← UInt8.toNat_ofNat_of_lt' (Nat.lt_trans (h c hc) (by decide) : c.toNat < 256), heq]
      rfl
    have hchar : c = '%' := by
      rw [← Char.ofNat_toNat c, hcode]
    exact hpercent (hchar ▸ hc)
  rw [Percent.decode_of_not_mem hbytes, lenient_utf8 h]

end Text

/-! ## Labels -/

namespace Domain

def IsLabelChar (c : Char) : Prop := isForbidden c = false ∧ c ≠ '.'

/-- A label is its own text, or punycode for a text beyond ASCII. -/
theorem text?_cases {l t : List Char} (h : text? l = some t) :
    after? "xn--".toList l = none ∧ t = l ∨
      (∃ code, l = "xn--".toList ++ code ∧ Punycode.decode? code = some t) ∧
        (∀ c ∈ t, isStable c = true) ∧ ∃ c ∈ t, Punycode.isBasic c = false := by
  rw [text?] at h
  split at h
  · rename_i hnone
    exact Or.inl ⟨hnone, (Option.some.inj h).symm⟩
  · rename_i code hcode
    split at h
    · cases h
    rename_i hplain
    obtain ⟨text, htext, h⟩ := Option.bind_eq_some_iff.mp h
    split at h
    · rename_i hstable
      obtain rfl := Option.some.inj h
      rw [Bool.and_eq_true, List.all_eq_true] at hstable
      refine Or.inr ⟨⟨code, after?_eq_some hcode, htext⟩, hstable.1,
        (Punycode.decode?_inserts htext).2 ?_⟩
      simp only [Bool.or_eq_true, not_or, Bool.not_eq_true, Option.all_eq_false] at hplain
      obtain ⟨c, hc, hne⟩ := hplain.1.1
      exact ⟨c, hc, by simpa using hne⟩
    · cases h

/-- The characters of a label stay such when the label is turned into its text. -/
theorem isLabelChar_of_text? {l t : List Char} (hl : ∀ c ∈ l, IsLabelChar c)
    (h : text? l = some t) : ∀ c ∈ t, IsLabelChar c := by
  rcases text?_cases h with ⟨_, rfl⟩ | ⟨⟨code, rfl, hdecode⟩, hstable, _⟩
  · exact hl
  · intro c hc
    have hfree : isForbidden c = false := by
      have hc := hstable c hc
      rw [isStable, Bool.and_eq_true, Bool.not_eq_true'] at hc
      exact hc.2
    rcases (Punycode.decode?_inserts hdecode).1 c hc with hmem | hbeyond
    · exact hl c (List.mem_append_right _ hmem)
    · refine ⟨hfree, ?_⟩
      rintro rfl
      exact absurd hbeyond (by decide)

theorem label_chars {t : List Char} (ht : ∀ c ∈ t, IsLabelChar c) :
    ∀ c ∈ label t, c.toNat < 0x80 ∧ IsLabelChar c := by
  rw [label]
  split
  · rename_i hbasic
    exact fun c hc => ⟨of_decide_eq_true (List.all_eq_true.mp hbasic c hc), ht c hc⟩
  · intro c hc
    rcases List.mem_append.mp hc with hc | hc
    · have hlead : "xn--".toList.all fun c => c.toNat < 0x80 && !isForbidden c && c != '.' := by
        decide
      simpa [IsLabelChar, and_assoc] using List.all_eq_true.mp hlead c hc
    · rcases Punycode.mem_encode hc with ⟨hmem, hbasic⟩ | rfl | ⟨d, hd, rfl⟩
      · exact ⟨of_decide_eq_true hbasic, ht c hmem⟩
      · unfold IsLabelChar
        decide
      · have hdigit : ∀ d < 36, (Punycode.digit d).toNat < 0x80 ∧
            isForbidden (Punycode.digit d) = false ∧ Punycode.digit d ≠ '.' := by decide
        exact hdigit d hd

/-- A label that is read again is the same label. -/
theorem label_again {l t t' : List Char} (ht : text? l = some t) (h : text? (label t) = some t') :
    label t' = label t := by
  by_cases hbasic : t.all Punycode.isBasic = true
  · have hself : label t = t := if_pos hbasic
    rw [hself] at h ⊢
    have hplain : after? "xn--".toList t = none := by
      rcases text?_cases ht with ⟨hnone, rfl⟩ | ⟨_, _, c, hc, hbeyond⟩
      · exact hnone
      · rw [List.all_eq_true.mp hbasic c hc] at hbeyond
        cases hbeyond
    rw [text?, hplain] at h
    obtain rfl := Option.some.inj h
    exact hself
  · have hcode : label t = "xn--".toList ++ Punycode.encode t := if_neg hbasic
    rw [hcode] at h
    rcases text?_cases h with ⟨hnone, _⟩ | ⟨⟨code, heq, hdecode⟩, _⟩
    · have hsome : after? "xn--".toList ("xn--".toList ++ Punycode.encode t) ≠ none := by
        rw [after?, if_pos (List.isPrefixOf_iff_prefix.mpr (List.prefix_append ..))]
        simp
      exact absurd hnone hsome
    · rw [List.append_cancel_left_eq] at heq
      subst heq
      rw [Punycode.decode?_encode hdecode]

/-! ## Names -/

/-- A name in ASCII: the labels of texts that were read, between points. -/
theorem ascii?_eq_some {cs name : List Char} (h : ascii? cs = some name) :
    ∃ chars texts, cs.mapM mapChar? = some chars ∧
      (∀ c ∈ Unicode.normalize chars.flatten, isForbidden c = false) ∧
      (pieces '.' (Unicode.normalize chars.flatten)).mapM text? = some texts ∧
      '.' :: name = led '.' (texts.map label) := by
  obtain ⟨chars, hchars, h⟩ := Option.bind_eq_some_iff.mp h
  dsimp only at h
  split at h
  · cases h
  rename_i hfree
  obtain ⟨texts, htexts, h⟩ := Option.bind_eq_some_iff.mp h
  split at h
  · cases h
  obtain rfl := Option.some.inj h
  refine ⟨chars, texts, hchars, by simpa using hfree, htexts, ?_⟩
  have hne : texts.map label ≠ [] := by
    rw [Ne, List.map_eq_nil_iff]
    rintro rfl
    have hlen := (Option.forall₂_of_mapM htexts).length_eq
    exact pieces_ne_nil _ _ (List.length_eq_zero_iff.mp hlen)
  have hpoint : ".".toList = ['.'] := rfl
  rw [← cons_joined hpoint hne, List.map_map]
  rfl

/-- The labels of a name in ASCII, and the texts they were read from. -/
theorem labels_of_ascii? {cs name : List Char} (h : ascii? cs = some name) :
    (∀ l ∈ pieces '.' name, (∀ c ∈ l, c.toNat < 0x80 ∧ IsLabelChar c) ∧
      ∃ source t, text? source = some t ∧ l = label t) := by
  obtain ⟨chars, texts, _, hfree, htexts, hname⟩ := ascii?_eq_some h
  have hlabels : ∀ l ∈ texts.map label, (∀ c ∈ l, c.toNat < 0x80 ∧ IsLabelChar c) ∧
      ∃ source t, text? source = some t ∧ l = label t := by
    intro l hl
    obtain ⟨t, ht, rfl⟩ := List.mem_map.mp hl
    obtain ⟨source, hsource, hread⟩ := Option.exists_of_mem_mapM htexts t ht
    refine ⟨label_chars (isLabelChar_of_text? (fun c hc => ?_) hread), source, t, hread, rfl⟩
    obtain ⟨hmem, hpoint⟩ := mem_pieces hsource c hc
    exact ⟨hfree c hmem, hpoint⟩
  have hpieces := pieces_led fun l hl hpoint => ((hlabels l hl).1 '.' hpoint).2.2 rfl
  rw [← hname, pieces_cons_self, List.cons.injEq] at hpieces
  rw [hpieces.2]
  exact hlabels

theorem chars_of_ascii? {cs name : List Char} (h : ascii? cs = some name) :
    ∀ c ∈ name, c.toNat < 0x80 ∧ isForbidden c = false := by
  intro c hc
  have hled : c ∈ led '.' (pieces '.' name) := by
    rw [led_pieces]
    exact List.mem_cons_of_mem _ hc
  rcases mem_led hled with rfl | ⟨l, hl, hc⟩
  · decide
  · obtain ⟨hascii, hlabel⟩ := (labels_of_ascii? h l hl).1 c hc
    exact ⟨hascii, hlabel.1⟩

/-- A name in small letters whose labels stay what they are is read as it is. -/
theorem ascii?_eq_self {name name' : List Char}
    (hascii : ∀ c ∈ name, c.toNat < 0x80) (hlower : ∀ c ∈ name, c.toLower = c)
    (hlabels : ∀ l ∈ pieces '.' name, ∀ t, text? l = some t → label t = l)
    (h : ascii? name = some name') : name' = name := by
  obtain ⟨chars, texts, hchars, _, htexts, hname⟩ := ascii?_eq_some h
  have hsame : chars = name.map ([·]) := by
    have hmap : name.mapM mapChar? = some (name.map ([·])) := by
      refine Option.mapM_of_forall₂ (List.forall₂_map_right_iff.mpr (List.forall₂_same.mpr ?_))
      intro c hc
      rw [mapChar?, if_pos (hascii c hc), hlower c hc]
    rw [hmap] at hchars
    exact (Option.some.inj hchars).symm
  have hnormal : Unicode.normalize chars.flatten = name := by
    have hflat : chars.flatten = name := by
      rw [hsame, ← List.flatMap_def, List.flatMap_singleton']
    have hsmall : name.all (·.toNat < 0xC0) = true :=
      List.all_eq_true.mpr fun c hc => decide_eq_true (Nat.lt_trans (hascii c hc) (by decide))
    rw [hflat, Unicode.normalize, if_pos hsmall]
  rw [hnormal] at htexts
  have hkept : texts.map label = pieces '.' name := by
    have hall := Option.forall₂_of_mapM htexts
    clear htexts hname
    generalize pieces '.' name = ls at hall hlabels
    induction hall with
    | nil => rfl
    | cons ht _ ih =>
        obtain ⟨hl, hls⟩ := List.forall_mem_cons.mp hlabels
        rw [List.map_cons, hl _ ht, ih hls]
  rw [hkept, led_pieces] at hname
  exact (List.cons.inj hname).2

theorem text?_of_basic {l t : List Char} (hlead : l.head? ≠ some 'x') (h : text? l = some t) :
    t = l := by
  rcases text?_cases h with ⟨_, heq⟩ | ⟨⟨code, rfl, _⟩, _⟩
  · exact heq
  · exact absurd rfl hlead

end Domain

/-! ## Hosts -/

namespace Url

open Address

/-- The name that a host stands for, unless it is an address in brackets. -/
def nameOf? (cs : List Char) : Option (List Char) :=
  Domain.ascii? (lenient (Percent.decode (utf8 cs)))

/-- The host of a name: the address that it is if it ends in a number. -/
def hostOfName (name : List Char) : Except UrlError String :=
  if name.isEmpty then .error .emptyHost
  else if endsInNumber name then
    match readIpv4? name with
    | some n => .ok (ipv4Text n)
    | none => .error .ipv4
  else .ok (String.ofList name)

theorem readHost_of_bracketed {cs : List Char} {result : Except UrlError String}
    (h : bracketed? cs = some result) : readHost cs = result := by
  rw [readHost, h]

theorem readHost_of_name {cs : List Char} (h : bracketed? cs = none) :
    readHost cs = ((nameOf? cs).map hostOfName).getD (.error .domain) := by
  rw [readHost, h, nameOf?]
  dsimp only
  cases Domain.ascii? (lenient (Percent.decode (utf8 cs))) with
  | none => rfl
  | some name =>
      dsimp only [Option.map_some, Option.getD_some]
      rw [hostOfName]
      split
      · rfl
      · split
        · cases readIpv4? name <;> rfl
        · rfl

theorem hostOfName_eq_ok {name : List Char} {host : String} (h : hostOfName name = .ok host) :
    (∃ n, n < 256 ^ 4 ∧ host = ipv4Text n) ∨
      endsInNumber name = false ∧ name ≠ [] ∧ host = String.ofList name := by
  rw [hostOfName] at h
  split at h
  · cases h
  rename_i hne
  split at h
  · split at h
    · rename_i n hread
      exact Or.inl ⟨n, readIpv4?_lt hread, (Except.ok.inj h).symm⟩
    · cases h
  · rename_i hnumber
    exact Or.inr ⟨Bool.eq_false_iff.mpr hnumber, mt List.isEmpty_iff.mpr hne,
      (Except.ok.inj h).symm⟩

/-- What a host can be that was read: an address of either kind, or a name in ASCII. -/
inductive ReadHost : String → Prop
  | ipv6 {ns : List Nat} (hlen : ns.length = 8) (hns : Groups ns) :
      ReadHost ("[" ++ ipv6Text ns ++ "]")
  | ipv4 {n : Nat} (hn : n < 256 ^ 4) : ReadHost (ipv4Text n)
  | name {source name : List Char} (hname : Domain.ascii? source = some name) (hne : name ≠ [])
      (hnumber : endsInNumber name = false) : ReadHost (String.ofList name)

theorem readHost_form {cs : List Char} {host : String} (h : readHost cs = .ok host) :
    ReadHost host := by
  cases hbracket : bracketed? cs with
  | some result =>
      rw [readHost_of_bracketed hbracket] at h
      subst h
      unfold bracketed? at hbracket
      split at hbracket
      · split at hbracket
        · split at hbracket
          · rename_i ns hread
            cases hbracket
            obtain ⟨hlen, hns⟩ := readIpv6?_range hread
            exact .ipv6 hlen hns
          · cases hbracket
        · cases hbracket
      · cases hbracket
  | none =>
      rw [readHost_of_name hbracket] at h
      cases hname : nameOf? cs with
      | none =>
          rw [hname] at h
          cases h
      | some name =>
          rw [hname, Option.map_some, Option.getD_some] at h
          rcases hostOfName_eq_ok h with ⟨n, hn, rfl⟩ | ⟨hnumber, hne, rfl⟩
          · exact .ipv4 hn
          · exact .name hname hne hnumber

/-! ### The characters of hosts -/

theorem mem_ipv4Text {n : Nat} {c : Char} (h : c ∈ (ipv4Text n).toList) :
    isDigit c = true ∨ c = '.' := by
  rw [toList_ipv4Text, quad] at h
  simp only [List.mem_append, List.mem_cons] at h
  rcases h with h | rfl | h | rfl | h | rfl | h
  all_goals first | exact Or.inl (isDigit_toDigits _ h) | exact Or.inr rfl

/-- A character that is a part of a host, and the brackets and the colon around and within one. -/
def isHostChar (c : Char) : Bool := !Domain.isForbidden c || "[]:".toList.contains c

theorem isHostChar_of_hex {c : Char} (h : (hexValue? c).isSome) : isHostChar c = true :=
  Percent.forall_hex (by decide) h

theorem isHostChar_of_isDigit {c : Char} (h : isDigit c = true) : isHostChar c = true := by
  refine isHostChar_of_hex ?_
  rw [hexValue?, if_pos h]
  rfl

theorem ReadHost.chars {host : String} (h : ReadHost host) :
    ∀ c ∈ host.toList, c.toNat < 0x80 ∧ isHostChar c = true := by
  intro c hc
  cases h with
  | ipv6 hlen hns =>
      simp only [String.toList_append, List.mem_append] at hc
      rcases hc with (hc | hc) | hc
      · obtain rfl := List.mem_singleton.mp hc
        decide
      · rcases mem_ipv6Text hc with hhex | rfl
        · have hrange := Percent.toNat_of_hexValue? hhex
          exact ⟨by omega, isHostChar_of_hex hhex⟩
        · decide
      · obtain rfl := List.mem_singleton.mp hc
        decide
  | ipv4 hn =>
      rcases mem_ipv4Text hc with hdigit | rfl
      · have hrange := toNat_of_isDigit hdigit
        exact ⟨by omega, isHostChar_of_isDigit hdigit⟩
      · decide
  | name hname hne hnumber =>
      rw [String.toList_ofList] at hc
      obtain ⟨hascii, hfree⟩ := Domain.chars_of_ascii? hname c hc
      exact ⟨hascii, by rw [isHostChar, hfree]; rfl⟩

theorem ReadHost.ne_nil {host : String} (h : ReadHost host) : host.toList ≠ [] := by
  cases h with
  | ipv6 hlen hns => simp
  | ipv4 hn =>
      rw [toList_ipv4Text]
      simp [quad]
  | name hname hne hnumber => rwa [String.toList_ofList]

/-! ### Reading again -/

theorem toList_bracketed (s : String) : ("[" ++ s ++ "]").toList = '[' :: (s.toList ++ [']']) := by
  simp

theorem bracketed?_of_head {cs : List Char} (h : cs.head? ≠ some '[') : bracketed? cs = none := by
  unfold bracketed?
  split
  · exact absurd rfl h
  · rfl

/-- A text in ASCII whose labels stay what they are is read as the host that its name is. -/
theorem readHost_of_plain {name : List Char} {host : String}
    (hascii : ∀ c ∈ name, c.toNat < 0x80) (hlower : ∀ c ∈ name, c.toLower = c)
    (hpercent : '%' ∉ name) (hhead : name.head? ≠ some '[')
    (hlabels : ∀ l ∈ pieces '.' name, ∀ t, Domain.text? l = some t → Domain.label t = l)
    (h : readHost name = .ok host) : hostOfName name = .ok host := by
  rw [readHost_of_name (bracketed?_of_head hhead), nameOf?, lenient_decode hascii hpercent] at h
  cases hname : Domain.ascii? name with
  | none =>
      rw [hname] at h
      cases h
  | some name' =>
      obtain rfl := Domain.ascii?_eq_self hascii hlower hlabels hname
      rwa [hname] at h

theorem label_toDigits (n : Nat) {t : List Char}
    (h : Domain.text? (Nat.toDigits 10 n) = some t) : Domain.label t = Nat.toDigits 10 n := by
  have hlead : (Nat.toDigits 10 n).head? ≠ some 'x' := fun hx =>
    absurd (isDigit_toDigits _ (List.mem_of_head? hx)) (by decide)
  obtain rfl := Domain.text?_of_basic hlead h
  refine if_pos (List.all_eq_true.mpr fun c hc => decide_eq_true ?_)
  have hrange := toNat_of_isDigit (isDigit_toDigits c hc)
  omega

theorem label_of_ipv4Text {n : Nat} : ∀ l ∈ pieces '.' (ipv4Text n).toList, ∀ t,
    Domain.text? l = some t → Domain.label t = l := by
  rw [toList_ipv4Text, pieces_quad]
  simp only [List.forall_mem_cons]
  exact ⟨fun _ => label_toDigits _, fun _ => label_toDigits _, fun _ => label_toDigits _,
    fun _ => label_toDigits _, by simp⟩

theorem hostOfName_ipv4Text {n : Nat} (hn : n < 256 ^ 4) :
    hostOfName (ipv4Text n).toList = .ok (ipv4Text n) := by
  have hne : (ipv4Text n).toList.isEmpty = false := by
    rw [toList_ipv4Text]
    simp [quad]
  have hends : endsInNumber (ipv4Text n).toList = true := by
    rw [toList_ipv4Text, endsInNumber_quad]
  rw [hostOfName, hne, hends, readIpv4?_ipv4Text hn]
  rfl

/-- A host that was read is the same when it is read again. -/
theorem ReadHost.again {host again : String} (h : ReadHost host)
    (hlower : ∀ c ∈ host.toList, c.toLower = c) (hread : readHost host.toList = .ok again) :
    again = host := by
  have hchars := h.chars
  cases h with
  | @ipv6 ns hlen hns =>
      have hbracket : bracketed? ("[" ++ ipv6Text ns ++ "]").toList =
          some (.ok ("[" ++ ipv6Text ns ++ "]")) := by
        rw [toList_bracketed, bracketed?, if_pos List.getLast?_concat, List.dropLast_concat,
          readIpv6?_ipv6Text hlen hns]
      rw [readHost_of_bracketed hbracket] at hread
      exact (Except.ok.inj hread).symm
  | @ipv4 n hn =>
      have hpercent : '%' ∉ (ipv4Text n).toList := fun hc => absurd (hchars _ hc).2 (by decide)
      have hhead : (ipv4Text n).toList.head? ≠ some '[' := fun hc => by
        rcases mem_ipv4Text (List.mem_of_head? hc) with hdigit | heq
        · cases hdigit
        · cases heq
      have hhost := readHost_of_plain (fun c hc => (hchars c hc).1) hlower hpercent hhead
        label_of_ipv4Text hread
      rw [hostOfName_ipv4Text hn] at hhost
      exact (Except.ok.inj hhost).symm
  | @name source name hname hne hnumber =>
      rw [String.toList_ofList] at hlower hread
      have hfree := Domain.chars_of_ascii? hname
      have hpercent : '%' ∉ name := fun hc => absurd (hfree _ hc).2 (by decide)
      have hhead : name.head? ≠ some '[' := fun hc =>
        absurd (hfree _ (List.mem_of_head? hc)).2 (by decide)
      have hlabels : ∀ l ∈ pieces '.' name, ∀ t,
          Domain.text? l = some t → Domain.label t = l := by
        intro l hl t ht
        obtain ⟨_, source, t', hread, rfl⟩ := Domain.labels_of_ascii? hname l hl
        exact Domain.label_again hread ht
      have hhost := readHost_of_plain (fun c hc => (hfree c hc).1) hlower hpercent hhead hlabels
        hread
      rw [hostOfName, if_neg (mt List.isEmpty_iff.mp hne), hnumber] at hhost
      exact (Except.ok.inj hhost).symm

/-! ## The host and the port together -/

/-- Characters that a host goes on with, wherever it is. -/
def GoesOn (c : Char) : Prop := endsAuthority true c = false ∧ c ≠ '[' ∧ c ≠ ']'

theorem spanHost_goesOn {inside : Bool} {a b : List Char} (ha : ∀ c ∈ a, GoesOn c)
    (hcolon : inside = false → ':' ∉ a) :
    spanHost true inside (a ++ b) =
      (a ++ (spanHost true inside b).1, (spanHost true inside b).2) := by
  induction a with
  | nil => rfl
  | cons c a ih =>
      obtain ⟨⟨hends, hopen, hclose⟩, ha⟩ := List.forall_mem_cons.mp ha
      have hnot : ¬ (endsAuthority true c || (c == ':' && !inside)) = true := by
        rw [hends, Bool.false_or, Bool.and_eq_true, not_and, beq_iff_eq]
        rintro rfl hinside
        rw [Bool.not_eq_true'] at hinside
        exact hcolon hinside (List.mem_cons_self ..)
      have hrest := ih ha fun hinside hmem => hcolon hinside (List.mem_cons_of_mem _ hmem)
      rw [List.cons_append, spanHost, if_neg hnot, if_neg hopen, if_neg hclose, hrest]
      rfl

theorem spanHost_stop {b : List Char}
    (hb : ∀ c ∈ b.head?, endsAuthority true c = true ∨ c = ':') :
    spanHost true false b = ([], b) := by
  cases b with
  | nil => rfl
  | cons c b =>
      rw [spanHost]
      refine if_pos ?_
      rcases hb c rfl with hends | rfl
      · rw [hends, Bool.true_or]
      · rfl

theorem endsAuthority_of_isHostChar {c : Char} (h : isHostChar c = true) :
    endsAuthority true c = false := by
  rw [Bool.eq_false_iff]
  intro hends
  simp only [endsAuthority, isSlash, Bool.true_and, Bool.or_eq_true, beq_iff_eq] at hends
  rcases hends with ((rfl | rfl) | rfl) | rfl
  all_goals exact absurd h (by decide)

theorem goesOn_of_isHostChar {c : Char} (h : isHostChar c = true) (hopen : c ≠ '[')
    (hclose : c ≠ ']') : GoesOn c := ⟨endsAuthority_of_isHostChar h, hopen, hclose⟩

theorem spanHost_plain {a b : List Char} (ha : ∀ c ∈ a, isHostChar c = true ∧ c ∉ "[]:".toList)
    (hb : ∀ c ∈ b.head?, endsAuthority true c = true ∨ c = ':') :
    spanHost true false (a ++ b) = (a, b) := by
  have hgoes : ∀ c ∈ a, GoesOn c := by
    intro c hc
    obtain ⟨hchar, hmark⟩ := ha c hc
    have hmarks : "[]:".toList = ['[', ']', ':'] := rfl
    rw [hmarks, List.mem_cons, List.mem_cons, not_or, not_or] at hmark
    exact goesOn_of_isHostChar hchar hmark.1 hmark.2.1
  rw [spanHost_goesOn hgoes fun _ hmem => (ha ':' hmem).2 (by decide), spanHost_stop hb,
    List.append_nil]

/-- Within brackets, colons do not end a host. -/
theorem spanHost_bracketed {a b : List Char} (ha : ∀ c ∈ a, GoesOn c)
    (hb : ∀ c ∈ b.head?, endsAuthority true c = true ∨ c = ':') :
    spanHost true false ('[' :: (a ++ ']' :: b)) = ('[' :: (a ++ [']']), b) := by
  have hopen : spanHost true false ('[' :: (a ++ ']' :: b)) =
      ('[' :: (spanHost true true (a ++ ']' :: b)).1, (spanHost true true (a ++ ']' :: b)).2) := rfl
  have hclose : spanHost true true (']' :: b) =
      (']' :: (spanHost true false b).1, (spanHost true false b).2) := rfl
  rw [hopen, spanHost_goesOn ha (by simp), hclose, spanHost_stop hb]

/-- A host is read up to a slash or a colon behind it. -/
theorem ReadHost.span {host : String} (h : ReadHost host) {b : List Char}
    (hb : ∀ c ∈ b.head?, endsAuthority true c = true ∨ c = ':') :
    spanHost true false (host.toList ++ b) = (host.toList, b) := by
  have hchars := h.chars
  cases h with
  | @ipv6 ns hlen hns =>
      have hgoes : ∀ c ∈ (ipv6Text ns).toList, GoesOn c := by
        intro c hc
        rcases mem_ipv6Text hc with hhex | rfl
        · refine goesOn_of_isHostChar (isHostChar_of_hex hhex) ?_ ?_
          · rintro rfl
            exact absurd hhex (by decide)
          · rintro rfl
            exact absurd hhex (by decide)
        · exact goesOn_of_isHostChar (by decide) (by decide) (by decide)
      have hshape : '[' :: ((ipv6Text ns).toList ++ [']']) ++ b =
          '[' :: ((ipv6Text ns).toList ++ ']' :: b) := by simp
      rw [toList_bracketed, hshape, spanHost_bracketed hgoes hb]
  | ipv4 hn =>
      refine spanHost_plain (fun c hc => ⟨(hchars c hc).2, ?_⟩) hb
      rcases mem_ipv4Text hc with hdigit | rfl
      · intro hmark
        have hmarks : "[]:".toList.all (!isDigit ·) = true := by decide
        have hnot := List.all_eq_true.mp hmarks c hmark
        rw [hdigit] at hnot
        cases hnot
      · decide
  | name hname hne hnumber =>
      refine spanHost_plain (fun c hc => ⟨(hchars c hc).2, fun hmark => ?_⟩) hb
      have hmarks : "[]:".toList.all Domain.isForbidden = true := by decide
      have hnot := List.all_eq_true.mp hmarks c hmark
      rw [String.toList_ofList] at hc
      rw [(Domain.chars_of_ascii? hname c hc).2] at hnot
      cases hnot

theorem cutLastAt?_of_not_mem {cs : List Char} (h : '@' ∉ cs) : cutLastAt? cs = none := by
  cases hcut : cutLastAt? cs with
  | none => rfl
  | some cut =>
      obtain ⟨user, host⟩ := cut
      rw [cutLastAt?_eq_some hcut] at h
      exact absurd (List.mem_append_right _ (List.mem_cons_self ..)) h

theorem toList_portText (a : Authority) :
    a.portText.toList = (a.port.map fun p => ':' :: Nat.toDigits 10 p).getD [] := by
  rw [Authority.portText]
  cases a.port with
  | none => rfl
  | some p => simp

theorem mem_portText {a : Authority} {c : Char} (h : c ∈ a.portText.toList) :
    c = ':' ∨ isDigit c = true := by
  rw [toList_portText] at h
  cases hport : a.port with
  | none =>
      rw [hport] at h
      cases h
  | some p =>
      rw [hport] at h
      exact (List.mem_cons.mp h).imp_right (isDigit_toDigits c)

theorem ReadHost.netloc_chars {a : Authority} (h : ReadHost a.host) :
    ∀ c ∈ a.netloc.toList, isHostChar c = true := by
  intro c hc
  rw [Authority.netloc, String.toList_append, List.mem_append] at hc
  rcases hc with hc | hc
  · exact (h.chars c hc).2
  · rcases mem_portText hc with rfl | hdigit
    · decide
    · exact isHostChar_of_isDigit hdigit

theorem cutUserinfo_of_not_mem {netloc : List Char} (h : '@' ∉ netloc) (t : List Char) :
    cutUserinfo true (netloc ++ '/' :: t) = .ok ("", netloc ++ '/' :: t) := by
  have hstop : ∀ c ∈ ('/' :: t).head?, (!endsAuthority true c) = false := by
    rintro c ⟨⟩
    rfl
  have hfront : '@' ∉ netloc.takeWhile (!endsAuthority true ·) :=
    fun hmem => h ((List.takeWhile_prefix _).subset hmem)
  rw [cutUserinfo, takeWhile_append_stop hstop, cutLastAt?_of_not_mem hfront]

/-- A port is read as it was written. -/
theorem behindHost_portText {scheme host : String} (hne : host.isEmpty = false) {a : Authority}
    (hport : ∀ p, a.port = some p → p ≤ 65535 ∧ usualPort? scheme ≠ some p) (t : List Char) :
    behindHost scheme "" host (a.portText.toList ++ '/' :: t) =
      .ok (⟨"", host, a.port⟩, '/' :: t) := by
  rw [toList_portText]
  cases hp : a.port with
  | none =>
      change behindHost scheme "" host ('/' :: t) = _
      rw [behindHost_portless _ _ _ (by simp), hne]
      rfl
  | some p =>
      obtain ⟨hsmall, husual⟩ := hport p hp
      have hstop : ∀ c ∈ ('/' :: t).head?, isDigit c = false := by
        rintro c ⟨⟩
        decide
      have hdigits : (Nat.toDigits 10 p).takeWhile isDigit = Nat.toDigits 10 p :=
        List.takeWhile_eq_self_iff.mpr isDigit_toDigits
      have hrest : (Nat.toDigits 10 p).dropWhile isDigit = [] :=
        List.dropWhile_eq_nil_iff.mpr isDigit_toDigits
      have hread : readPort scheme (Nat.toDigits 10 p ++ '/' :: t) = .ok (some p, '/' :: t) := by
        rw [readPort_eq, takeWhile_append_stop hstop, dropWhile_append_stop hstop, hdigits, hrest,
          readDigitRun?_toDigits]
        have hnew : (if usualPort? scheme = some p then none else some p) = some p :=
          if_neg husual
        exact (if_pos rfl).trans ((if_neg (Nat.not_lt.mpr hsmall)).trans (by rw [hnew]; rfl))
      change behindHost scheme "" host (':' :: (Nat.toDigits 10 p ++ '/' :: t)) = _
      rw [behindHost, hne, hread]
      rfl

/-- The authority of a host that was read and a port is read as that host and that port, if the
host is one. -/
theorem ReadHost.readAuthority {scheme : String} (hspecial : isSpecial scheme = true)
    {a : Authority} (h : ReadHost a.host)
    (hport : ∀ p, a.port = some p → p ≤ 65535 ∧ usualPort? scheme ≠ some p) (t : List Char) :
    Url.readAuthority scheme (a.netloc.toList ++ '/' :: t) =
      (readHost a.host.toList).map fun host => (⟨"", host, a.port⟩, '/' :: t) := by
  have hat : '@' ∉ a.netloc.toList := fun hmem => absurd (h.netloc_chars _ hmem) (by decide)
  have hhead : ∀ c ∈ (a.portText.toList ++ '/' :: t).head?,
      endsAuthority true c = true ∨ c = ':' := by
    rw [toList_portText]
    cases a.port with
    | none =>
        rintro c ⟨⟩
        exact Or.inl rfl
    | some p =>
        rintro c ⟨⟩
        exact Or.inr rfl
  have hsplit : a.netloc.toList ++ '/' :: t =
      a.host.toList ++ (a.portText.toList ++ '/' :: t) := by
    rw [Authority.netloc, String.toList_append, List.append_assoc]
  have hne : a.host.toList.isEmpty = false :=
    Bool.eq_false_iff.mpr (mt List.isEmpty_iff.mp h.ne_nil)
  rw [readAuthority_eq, hspecial, cutUserinfo_of_not_mem hat, hsplit]
  dsimp only [Bind.bind, Except.bind]
  rw [h.span hhead, hne]
  cases hhost : readHost a.host.toList with
  | error e => rfl
  | ok host =>
      have hagain : host.isEmpty = false := by
        have hnil := (readHost_form hhost).ne_nil
        rw [Bool.eq_false_iff, Ne, String.isEmpty_iff]
        rintro rfl
        exact hnil rfl
      exact behindHost_portText hagain hport t

end Url

end Waymark
