import Mathlib.Data.List.TakeDrop
import Waymark.Proofs.Except
import Waymark.Proofs.Template.Atoms
import Waymark.Tree.Registration
import Waymark.Url.Reader

/-!
# Where an authority ends

The authority of a URL is read up to the first slash, and what is behind that
slash has no say in it: each of the steps that read it leaves the rest of the
text as it is (`LeavesTail`, `readAuthority_leavesTail`). So a text that is
put behind a slash does not change whose URL it is
(`readAuthority_behind_slash`).

A URL that has an authority also has a path that is empty or starts with a
slash (`path_of_read`), which is what keeps the path of a base apart from its
host.
-/

namespace Waymark

@[simp] theorem startsWithSlash_slash_append (s : String) : startsWithSlash ("/" ++ s) = true := by
  simp [startsWithSlash]

theorem startsWithSlash_iff {s : String} :
    startsWithSlash s = true ↔ ∃ cs, s.toList = '/' :: cs := by
  rw [startsWithSlash, beq_iff_eq, List.head?_eq_some_iff]

theorem startsWithSlash_append {s : String} (h : startsWithSlash s = true) (t : String) :
    startsWithSlash (s ++ t) = true := by
  obtain ⟨cs, hcs⟩ := startsWithSlash_iff.mp h
  refine startsWithSlash_iff.mpr ⟨cs ++ t.toList, ?_⟩
  rw [String.toList_append, hcs, List.cons_append]

namespace Url

/-! ## The authority -/

/-- A reader that comes to a slash treats what is behind the slash as the rest of the text. -/
def LeavesTail {α : Type} (read : List Char → Except UrlError (α × List Char))
    (a : List Char) : Prop :=
  (∃ e, ∀ t, read (a ++ '/' :: t) = .error e) ∨
    ∃ x b, ∀ t, read (a ++ '/' :: t) = .ok (x, b ++ '/' :: t)

theorem endsAuthority_slash (special : Bool) : endsAuthority special '/' = true := by
  cases special <;> rfl

theorem cutUserinfo_leavesTail (special : Bool) (a : List Char) :
    LeavesTail (cutUserinfo special) a := by
  have hstop (t : List Char) : ∀ c ∈ ('/' :: t).head?, (!endsAuthority special c) = false := by
    rintro c ⟨⟩
    rw [endsAuthority_slash]
    rfl
  have hnonempty (t : List Char) :
      (a.dropWhile (!endsAuthority special ·) ++ '/' :: t).isEmpty = false := by simp
  unfold LeavesTail cutUserinfo
  simp only [Text.takeWhile_append_stop (hstop _), Text.dropWhile_append_stop (hstop _),
    hnonempty]
  cases cutLastAt? (a.takeWhile (!endsAuthority special ·)) with
  | none => exact Or.inr ⟨"", a, fun _ => rfl⟩
  | some cut =>
      obtain ⟨user, host⟩ := cut
      by_cases hnone : (user.isEmpty && host.isEmpty && !false) = true
      · simp only [hnone, if_true]
        exact Or.inl ⟨.emptyHost, fun _ => rfl⟩
      · simp only [if_neg hnone, ← List.append_assoc]
        exact Or.inr ⟨userinfoText user, host ++ a.dropWhile (!endsAuthority special ·),
          fun _ => rfl⟩

theorem exists_spanHost (special inside : Bool) (a : List Char) :
    ∃ host b, ∀ t, spanHost special inside (a ++ '/' :: t) = (host, b ++ '/' :: t) := by
  induction a generalizing inside with
  | nil => exact ⟨[], [], fun t => by simp [spanHost, endsAuthority_slash]⟩
  | cons c a ih =>
      by_cases hends : (endsAuthority special c || (c == ':' && !inside)) = true
      · exact ⟨[], c :: a, fun t => by rw [List.cons_append, spanHost, if_pos hends]⟩
      · obtain ⟨host, b, hb⟩ := ih (if c = '[' then true else if c = ']' then false else inside)
        refine ⟨c :: host, b, fun t => ?_⟩
        rw [List.cons_append, spanHost, if_neg hends]
        simp only [hb]

theorem readPort_leavesTail (scheme : String) (a : List Char) :
    LeavesTail (readPort scheme) a := by
  have hstop (t : List Char) : ∀ c ∈ ('/' :: t).head?, Text.isDigit c = false := by
    rintro c ⟨⟩
    decide
  -- the port is ended by what follows the digits, at the latest by the slash
  have hended (t : List Char) : (a.dropWhile Text.isDigit ++ '/' :: t).head? =
      some ((a.dropWhile Text.isDigit).head?.getD '/') := by
    cases a.dropWhile Text.isDigit <;> rfl
  unfold LeavesTail readPort
  simp only [Text.takeWhile_append_stop (hstop _), Text.dropWhile_append_stop (hstop _),
    hended]
  cases endsAuthority true ((a.dropWhile Text.isDigit).head?.getD '/') with
  | false =>
      refine Or.inl ⟨.port, fun t => ?_⟩
      split <;> simp
  | true =>
      cases Text.readDigitRun? 10 (a.takeWhile Text.isDigit) with
      | none => exact Or.inr ⟨none, _, fun _ => rfl⟩
      | some n =>
          by_cases hlarge : n > 65535
          · exact Or.inl ⟨.port, fun t => by simp [hlarge]⟩
          · exact Or.inr ⟨_, _, fun t => by simp only [hlarge]; rfl⟩

/-- The authority of a host that has been read: a port may follow. -/
def behindHost (scheme userinfo host : String) (rest : List Char) :
    Except UrlError (Authority × List Char) := do
  match rest with
  | ':' :: digits =>
    if host.isEmpty then throw .emptyHost
    let (port, rest) ← readPort scheme digits
    return (⟨userinfo, host, port⟩, rest)
  | _ =>
    if host.isEmpty && !userinfo.isEmpty then throw .emptyHost
    return (⟨userinfo, host, none⟩, rest)

theorem behindHost_portless (scheme userinfo host : String) {rest : List Char}
    (h : rest.head? ≠ some ':') : behindHost scheme userinfo host rest =
      if host.isEmpty && !userinfo.isEmpty then .error .emptyHost
      else .ok (⟨userinfo, host, none⟩, rest) := by
  unfold behindHost
  split
  · exact absurd rfl h
  · cases host.isEmpty && !userinfo.isEmpty <;> rfl

theorem behindHost_leavesTail (scheme userinfo host : String) (a : List Char) :
    LeavesTail (behindHost scheme userinfo host) a := by
  unfold LeavesTail
  by_cases hcolon : a.head? = some ':'
  · obtain ⟨digits, rfl⟩ := List.head?_eq_some_iff.mp hcolon
    simp only [List.cons_append, behindHost]
    cases host.isEmpty with
    | true => exact Or.inl ⟨.emptyHost, fun _ => rfl⟩
    | false =>
        rcases readPort_leavesTail scheme digits with ⟨e, he⟩ | ⟨port, b, hb⟩
        · exact Or.inl ⟨e, fun t => by rw [he]; rfl⟩
        · exact Or.inr ⟨⟨userinfo, host, port⟩, b, fun t => by rw [hb]; rfl⟩
  · have hportless (t : List Char) : (a ++ '/' :: t).head? ≠ some ':' := by
      cases a with
      | nil => simp
      | cons c cs => exact hcolon
    simp only [behindHost_portless scheme userinfo host (hportless _)]
    cases host.isEmpty && !userinfo.isEmpty with
    | true => exact Or.inl ⟨.emptyHost, fun _ => rfl⟩
    | false => exact Or.inr ⟨_, a, fun _ => rfl⟩

theorem readAuthority_eq (scheme : String) (cs : List Char) : readAuthority scheme cs =
    cutUserinfo (isSpecial scheme) cs >>= fun cut =>
      let span := spanHost (isSpecial scheme) false cut.2
      if isSpecial scheme && span.1.isEmpty then .error .emptyHost
      else (if isSpecial scheme then readHost span.1 else readOpaqueHost span.1) >>= fun host =>
        behindHost scheme cut.1 host span.2 := by
  change (cutUserinfo (isSpecial scheme) cs >>= fun cut => _) = _
  generalize cutUserinfo (isSpecial scheme) cs = cut
  cases cut with
  | error e => rfl
  | ok cut =>
      change (if _ then _ else _) = (if _ then _ else _)
      split
      · rfl
      · cases isSpecial scheme <;> rfl

theorem readAuthority_leavesTail (scheme : String) (a : List Char) :
    LeavesTail (readAuthority scheme) a := by
  unfold LeavesTail
  simp only [readAuthority_eq]
  rcases cutUserinfo_leavesTail (isSpecial scheme) a with ⟨e, he⟩ | ⟨userinfo, b, hb⟩
  · exact Or.inl ⟨e, fun t => by rw [he]; rfl⟩
  obtain ⟨host, rest, hspan⟩ := exists_spanHost (isSpecial scheme) false b
  have hbind {α β : Type} (x : α) (f : α → Except UrlError β) : (Except.ok x >>= f) = f x := rfl
  simp only [hb, hbind, hspan]
  by_cases hempty : (isSpecial scheme && host.isEmpty) = true
  · exact Or.inl ⟨.emptyHost, fun t => if_pos hempty⟩
  simp only [if_neg hempty]
  cases if isSpecial scheme then readHost host else readOpaqueHost host with
  | error e => exact Or.inl ⟨e, fun _ => rfl⟩
  | ok name => exact behindHost_leavesTail scheme userinfo name rest

/-- What stands behind a slash does not change the authority. -/
theorem readAuthority_behind_slash (scheme : String) (a t : List Char) :
    (readAuthority scheme (a ++ '/' :: t)).map Prod.fst =
      (readAuthority scheme (a ++ ['/'])).map Prod.fst := by
  rcases readAuthority_leavesTail scheme a with ⟨e, he⟩ | ⟨authority, b, hb⟩
  · rw [he, he]
  · rw [hb, hb]
    rfl

/-! ## What is left of the text -/

theorem cutLastAt?_eq_some {cs user host : List Char} (h : cutLastAt? cs = some (user, host)) :
    cs = user ++ '@' :: host := by
  unfold cutLastAt? at h
  rw [List.span_eq_takeWhile_dropWhile] at h
  have hsplit := List.takeWhile_append_dropWhile (p := (· != '@')) (l := cs.reverse)
  split at h
  · cases h
  · rename_i tail c front hspan
    rw [Prod.mk.injEq] at hspan
    cases h
    have hc : c = '@' := by
      have hstop := List.head?_dropWhile_not (· != '@') cs.reverse
      rw [hspan.2] at hstop
      simpa using hstop
    rw [← List.reverse_inj, ← hsplit, hspan.1, hspan.2, hc]
    simp

theorem cutUserinfo_suffix {special : Bool} {cs rest : List Char} {userinfo : String}
    (h : cutUserinfo special cs = .ok (userinfo, rest)) : rest <:+ cs := by
  unfold cutUserinfo at h
  dsimp only at h
  split at h
  · cases h
    exact List.suffix_refl _
  · rename_i user host hcut
    split at h
    · cases h
    · cases h
      have hsplit := List.takeWhile_append_dropWhile (p := (!endsAuthority special ·)) (l := cs)
      rw [cutLastAt?_eq_some hcut] at hsplit
      generalize cs.dropWhile (!endsAuthority special ·) = behind at hsplit
      exact ⟨user ++ ['@'], by rw [← hsplit]; simp⟩

/-- The host ends where the authority does, or at a colon. -/
theorem spanHost_append (special inside : Bool) (cs : List Char) :
    (spanHost special inside cs).1 ++ (spanHost special inside cs).2 = cs ∧
      ∀ c ∈ (spanHost special inside cs).2.head?, endsAuthority special c = true ∨ c = ':' := by
  induction cs generalizing inside with
  | nil => exact ⟨rfl, by simp [spanHost]⟩
  | cons c cs ih =>
      by_cases hends : (endsAuthority special c || (c == ':' && !inside)) = true
      · rw [spanHost, if_pos hends]
        refine ⟨rfl, ?_⟩
        rintro d ⟨⟩
        rw [Bool.or_eq_true, Bool.and_eq_true, beq_iff_eq] at hends
        exact hends.imp_right And.left
      · obtain ⟨happ, hhead⟩ := ih (if c = '[' then true else if c = ']' then false else inside)
        rw [spanHost, if_neg hends]
        exact ⟨congrArg (c :: ·) happ, hhead⟩

def endsPort (rest : List Char) : Bool :=
  match rest.head? with
  | some c => endsAuthority true c
  | none => true

theorem readPort_eq (scheme : String) (cs : List Char) : readPort scheme cs =
    if endsPort (cs.dropWhile Text.isDigit) = true then
      match Text.readDigitRun? 10 (cs.takeWhile Text.isDigit) with
      | some n => if n > 65535 then .error .port
          else .ok (if usualPort? scheme = some n then none else some n,
            cs.dropWhile Text.isDigit)
      | none => .ok (none, cs.dropWhile Text.isDigit)
    else .error .port := by
  have hread : readPort scheme cs = match Text.readDigitRun? 10 (cs.takeWhile Text.isDigit) with
      | some n => if n > 65535 || !endsPort (cs.dropWhile Text.isDigit) then .error .port
          else .ok (if usualPort? scheme = some n then none else some n,
            cs.dropWhile Text.isDigit)
      | none => if endsPort (cs.dropWhile Text.isDigit) then .ok (none, cs.dropWhile Text.isDigit)
          else .error .port := rfl
  rw [hread]
  cases endsPort (cs.dropWhile Text.isDigit) <;>
    cases Text.readDigitRun? 10 (cs.takeWhile Text.isDigit) <;> simp

theorem readPort_rest {scheme : String} {cs rest : List Char} {port : Option Nat}
    (h : readPort scheme cs = .ok (port, rest)) :
    rest <:+ cs ∧ (∀ c ∈ rest.head?, endsAuthority true c = true) ∧
      ∀ p, port = some p → p ≤ 65535 ∧ usualPort? scheme ≠ some p := by
  have hsuffix : cs.dropWhile Text.isDigit <:+ cs := List.dropWhile_suffix _
  rw [readPort_eq] at h
  split at h
  · rename_i hended
    have hends : ∀ c ∈ (cs.dropWhile Text.isDigit).head?, endsAuthority true c = true := by
      intro c hc
      rwa [endsPort, hc] at hended
    split at h
    · split at h
      · cases h
      · rename_i n _ hrange
        obtain ⟨hport, rfl⟩ := Prod.mk.injEq .. |>.mp (Except.ok.inj h)
        refine ⟨hsuffix, hends, fun p hp => ?_⟩
        rw [← hport] at hp
        split at hp
        · cases hp
        · rename_i husual
          obtain rfl := Option.some.inj hp
          exact ⟨Nat.not_lt.mp hrange, husual⟩
    · cases h
      exact ⟨hsuffix, hends, by simp⟩
  · cases h

/-- What is left behind the authority starts where it ends, and the authority has the host and
the port that were read. -/
theorem readAuthority_rest {scheme : String} (hspecial : isSpecial scheme = true) {cs : List Char}
    {a : Authority} {rest : List Char} (h : readAuthority scheme cs = .ok (a, rest)) :
    rest <:+ cs ∧ (∀ c ∈ rest.head?, endsAuthority true c = true) ∧
      (∃ source, readHost source = .ok a.host) ∧
      ∀ p, a.port = some p → p ≤ 65535 ∧ usualPort? scheme ≠ some p := by
  rw [readAuthority_eq, hspecial] at h
  obtain ⟨⟨userinfo, cut⟩, hcut, h⟩ := Except.bind_eq_ok_iff.mp h
  dsimp only at h
  split at h
  · cases h
  obtain ⟨host, hhost, h⟩ := Except.bind_eq_ok_iff.mp h
  rw [if_pos rfl] at hhost
  have hleft : (spanHost true false cut).2 <:+ cs := by
    have hspan : (spanHost true false cut).2 <:+ cut :=
      ⟨_, (spanHost_append true false cut).1⟩
    exact hspan.trans (cutUserinfo_suffix hcut)
  have hstop := (spanHost_append true false cut).2
  generalize (spanHost true false cut).2 = left at h hleft hstop
  by_cases hcolon : left.head? = some ':'
  · obtain ⟨digits, rfl⟩ := List.head?_eq_some_iff.mp hcolon
    rw [behindHost] at h
    split at h
    · cases h
    · obtain ⟨⟨port, behind⟩, hport, h⟩ := Except.bind_eq_ok_iff.mp h
      obtain ⟨hsuffix, hends, hrange⟩ := readPort_rest hport
      cases h
      exact ⟨(hsuffix.trans (List.suffix_cons ..)).trans hleft, hends, ⟨_, hhost⟩, hrange⟩
  · rw [behindHost_portless _ _ _ hcolon] at h
    split at h
    · cases h
    · cases h
      refine ⟨hleft, fun c hc => (hstop c hc).resolve_right ?_, ⟨_, hhost⟩, by simp⟩
      rintro rfl
      exact hcolon hc

/-- An authority that nothing within it ends is read up to the slash. -/
theorem readAuthority_slash {scheme : String} (hspecial : isSpecial scheme = true)
    {a t : List Char} (hapart : ∀ c ∈ a, endsAuthority true c = false) {authority : Authority}
    {rest : List Char} (h : readAuthority scheme (a ++ '/' :: t) = .ok (authority, rest)) :
    rest = '/' :: t := by
  obtain ⟨hsuffix, hends, -⟩ := readAuthority_rest hspecial h
  rcases readAuthority_leavesTail scheme a with ⟨e, he⟩ | ⟨x, b, hb⟩
  · rw [he] at h
    cases h
  · rw [hb] at h
    cases h
    obtain ⟨pre, hpre⟩ := hsuffix
    rw [← List.append_assoc, List.append_cancel_right_eq] at hpre
    cases b with
    | nil => rfl
    | cons c b =>
        have hc := hends c rfl
        rw [hapart c (hpre ▸ List.mem_append_right _ (List.mem_cons_self ..))] at hc
        cases hc

/-! ## The path behind an authority -/

theorem startsWithSlash_pathOf (special : Bool) (cs : List Char) :
    startsWithSlash (pathOf special cs) = true :=
  startsWithSlash_slash_append _

theorem authorityPath_eq (special : Bool) (cs : List Char) :
    authorityPath special cs = "" ∨ startsWithSlash (authorityPath special cs) = true := by
  cases cs with
  | nil =>
      cases special with
      | true => exact Or.inr (startsWithSlash_slash_append "")
      | false => exact Or.inl rfl
  | cons c rest => exact Or.inr (startsWithSlash_pathOf special _)

theorem startsWithSlash_filePathOf (cs : List Char) :
    startsWithSlash (filePathOf cs).1 = true := by
  unfold filePathOf
  split
  · exact startsWithSlash_slash_append _
  · split
    · split <;> exact startsWithSlash_slash_append _
    · exact startsWithSlash_slash_append _

theorem path_of_readHosted {scheme : String} {cs : List Char} {u : Url}
    (h : readHosted scheme cs = .ok u) : u.path = "" ∨ startsWithSlash u.path = true := by
  obtain ⟨⟨authority, rest⟩, _, h⟩ := Except.bind_eq_ok_iff.mp h
  cases h
  exact authorityPath_eq _ _

theorem path_of_readFile {cs : List Char} {u : Url} (h : readFile cs = .ok u) :
    startsWithSlash u.path = true := by
  have hfile (host : String) (path : List Char) (query fragment : Option String) :
      startsWithSlash (fileUrl host path query fragment).path = true :=
    startsWithSlash_filePathOf path
  simp only [readFile] at h
  split at h
  · split at h
    · obtain ⟨host, _, h⟩ := Except.bind_eq_ok_iff.mp h
      cases h
      exact hfile ..
    · cases h
      exact hfile ..
  · cases h
    exact hfile ..

theorem path_of_read {s : String} {u : Url} (h : read s = .ok u)
    (hauthority : u.authority.isSome = true) : u.path = "" ∨ startsWithSlash u.path = true := by
  unfold read at h
  cases hscheme : cutScheme? (significant s) with
  | none =>
      rw [hscheme] at h
      cases h
  | some found =>
      obtain ⟨scheme, rest⟩ := found
      rw [hscheme] at h
      dsimp only at h
      split at h
      · exact Or.inr (path_of_readFile h)
      · split at h
        · exact path_of_readHosted h
        · split at h
          · exact path_of_readHosted h
          · cases h
            cases hauthority

end Url

end Waymark
