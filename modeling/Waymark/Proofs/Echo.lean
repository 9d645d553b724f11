import Waymark.Echo
import Waymark.Proofs.Exchange
import Waymark.Proofs.Text.Cut

/-!
# Echoing a conversation

An echo session answers a conversation on a socket: it accepts the connect, and
then sends every frame back that comes in up to the disconnect. What it would
send on a channel that takes everything is a function of the messages that come
in (`Echo.replies`), and on any other channel it sends the beginning of that,
since the first message that is not taken ends the session.

`Action.Converses` says of an action what it sends and what it leaves unread. A
step that waits for a message adds nothing to it (`Converses.awaited`), one that
sends adds the message in front (`Converses.sending`), and the frames are an
induction over their number (`Echo.converses_frames`), where messages that are
passed over belong to the frame behind them.
-/

namespace Waymark

/-! ## Waiting for a message -/

namespace Action

variable {α : Type} {f : Message → Option α} {ms rest : List Message}

theorem firstThat_eq_none_iff : firstThat f ms = none ↔ ∀ m ∈ ms, f m = none := by
  induction ms with
  | nil => simp [firstThat]
  | cons m ms ih =>
      rw [firstThat, List.forall_mem_cons]
      cases f m <;> simp [ih]

theorem firstThat_eq_some {v : α} (h : firstThat f ms = some (v, rest)) :
    ∃ before m, ms = before ++ m :: rest ∧ f m = some v ∧ ∀ n ∈ before, f n = none := by
  induction ms with
  | nil => cases h
  | cons m ms ih =>
      rw [firstThat] at h
      cases hm : f m with
      | some w =>
          rw [hm] at h
          cases h
          exact ⟨[], m, rfl, hm, List.forall_mem_nil _⟩
      | none =>
          rw [hm] at h
          obtain ⟨before, n, rfl, hn, hbefore⟩ := ih h
          exact ⟨m :: before, n, rfl, hn, List.forall_mem_cons.mpr ⟨hm, hbefore⟩⟩

/-! ## Conversations -/

/-- On its channel the action sends the messages as far as the channel takes them. It succeeds if
all of them are taken and the conversation is closed, and then leaves unread what is behind it. -/
structure Converses (a : Action ChannelError Unit) (x : Exchange) (out : List Message)
    (unread? : Option (List Message)) : Prop where
  sent : (a x).2.sent = x.sent ++ out.take (x.room.getD out.length)
  result : (a x).1 = if unread?.isSome ∧ out.length ≤ x.room.getD out.length then .ok ()
    else .error .closed
  unread : ∀ rest, unread? = some rest → (a x).1 = .ok () → (a x).2.inbound = rest

variable {x : Exchange} {out : List Message} {unread? : Option (List Message)}

theorem converses_done : Converses (pure ()) x [] (some x.inbound) where
  sent := by
    rw [List.take_nil, List.append_nil]
    rfl
  result := (if_pos ⟨rfl, Nat.zero_le _⟩).symm
  unread _ h _ := Option.some.inj h

theorem converses_awaiting {k : α → Action ChannelError Unit} (note : Log.Event)
    (h : firstThat f x.inbound = none) : Converses (await f note >>= k) x [] none := by
  have hclosed : (await f note x).1 = .error .closed := by rw [await_of_none h]
  refine ⟨?_, ?_, by simp⟩
  · rw [bind_of_error hclosed, await_of_none h, List.take_nil, List.append_nil]
  · rw [bind_of_error hclosed]
    rfl

theorem Converses.awaited {k : α → Action ChannelError Unit} {v : α} (note : Log.Event)
    (h : firstThat f x.inbound = some (v, rest))
    (hk : ∀ y : Exchange, y.inbound = rest → y.sent = x.sent → y.room = x.room →
      Converses (k v) y out unread?) : Converses (await f note >>= k) x out unread? := by
  have hbind := bind_of_ok (congrArg Prod.fst (await_of_some h note)) k
  obtain ⟨hsent, hresult, hunread⟩ := hk (await f note x).2 (by rw [await_of_some h])
    (by rw [await_of_some h]) (by rw [await_of_some h])
  rw [← hbind] at hsent hresult hunread
  rw [await_of_some h] at hsent hresult
  exact ⟨hsent, hresult, hunread⟩

theorem Converses.got {k : Exchange → Action ChannelError Unit}
    (h : Converses (k x) x out unread?) : Converses (get >>= k) x out unread? :=
  ⟨h.sent, h.result, h.unread⟩

/-- A message that is not taken ends the conversation. -/
theorem Converses.sending {k : Unit → Action ChannelError Unit} {m : Message}
    (hk : ∀ y : Exchange, y.inbound = x.inbound → Converses (k ()) y out unread?) :
    Converses (send m >>= k) x (m :: out) unread? := by
  by_cases hroom : x.room = some 0
  case pos =>
    have hclosed : (send m x).1 = .error .closed := by rw [send_eq, hroom]; rfl
    have hbind := bind_of_error hclosed k
    refine ⟨?_, ?_, ?_⟩
    · rw [hbind, send_eq, hroom]
      simp
    · rw [hbind, hroom, if_neg (by simp)]
    · intro _ _ hok
      rw [hbind] at hok
      cases hok
  case neg =>
    have hrooms : x.room = none ∨ ∃ n, x.room = some (n + 1) := by
      rcases hr : x.room with _ | _ | n
      · exact Or.inl rfl
      · exact absurd hr hroom
      · exact Or.inr ⟨n, rfl⟩
    have htaken : (send m x).1 = .ok () := by
      rw [send_eq]
      rcases hrooms with hr | ⟨n, hr⟩ <;> simp [hr]
    have hbind := bind_of_ok htaken k
    obtain ⟨hsent, hresult, hunread⟩ := hk (send m x).2 (by rw [send_eq])
    rw [← hbind] at hsent hresult hunread
    refine ⟨hsent.trans ?_, hresult.trans ?_, hunread⟩
    · rw [send_eq]
      rcases hrooms with hr | ⟨n, hr⟩ <;> simp [hr]
    · rw [send_eq]
      rcases hrooms with hr | ⟨n, hr⟩ <;> simp [hr]

end Action

/-! ## What an echo session makes of a conversation -/

namespace Echo

def isDisconnect : Message → Bool
  | .socketDisconnect _ => true
  | _ => false

def echo? : Message → Option Message
  | .socketReceive text => some (.socketSend text)
  | _ => none

/-- What comes in behind the first message of a sort. -/
def behind? (p : Message → Bool) (ms : List Message) : Option (List Message) :=
  (ms.dropWhile (!p ·)).tail?

/-- The frames up to the disconnect, to be sent back. -/
def echoes (ms : List Message) : List Message :=
  (ms.takeWhile (!isDisconnect ·)).filterMap echo?

/-- What is to be sent: nothing without a connect, and else the acceptance and the echoes of the
frames that come in behind it. -/
def replies (ms : List Message) : List Message :=
  match behind? (· == .socketConnect) ms with
  | some rest => .socketAccept :: echoes rest
  | none => []

/-- What is behind the disconnect that follows the first connect, if there are both. -/
def unread? (ms : List Message) : Option (List Message) :=
  (behind? (· == .socketConnect) ms).bind (behind? isDisconnect)

variable {p : Message → Bool} {ms before rest : List Message} {m : Message}

theorem behind?_of_split (hm : p m = true) (hbefore : ∀ n ∈ before, p n = false) :
    behind? p (before ++ m :: rest) = some rest := by
  have hstop : ∀ n ∈ (m :: rest).head?, (!p n) = false := by
    rintro n ⟨⟩
    rw [hm]
    rfl
  have hnone : before.dropWhile (!p ·) = [] :=
    List.dropWhile_eq_nil_iff.mpr fun n hn => by rw [hbefore n hn]; rfl
  rw [behind?, Text.dropWhile_append_stop hstop, hnone]
  rfl

theorem behind?_of_none (h : ∀ n ∈ ms, p n = false) : behind? p ms = none := by
  have hnone : ms.dropWhile (!p ·) = [] :=
    List.dropWhile_eq_nil_iff.mpr fun n hn => by rw [h n hn]; rfl
  rw [behind?, hnone]
  rfl

theorem not_frame {n : Message} (h : Session.frame? n = none) :
    isDisconnect n = false ∧ echo? n = none := by
  cases n <;> simp_all [Session.frame?, isDisconnect, echo?]

theorem echoes_of_passed (hbefore : ∀ n ∈ before, Session.frame? n = none) :
    echoes (before ++ ms) = echoes ms := by
  have hpassed : ∀ n ∈ before, (!isDisconnect n) = true := fun n hn => by
    rw [(not_frame (hbefore n hn)).1]
    rfl
  have hnone : before.filterMap echo? = [] :=
    List.filterMap_eq_nil_iff.mpr fun n hn => (not_frame (hbefore n hn)).2
  rw [echoes, List.takeWhile_append_of_pos hpassed, List.filterMap_append, hnone,
    List.nil_append, echoes]

theorem behind?_of_passed (hbefore : ∀ n ∈ before, Session.frame? n = none) :
    behind? isDisconnect (before ++ ms) = behind? isDisconnect ms := by
  have hpassed : ∀ n ∈ before, (!isDisconnect n) = true := fun n hn => by
    rw [(not_frame (hbefore n hn)).1]
    rfl
  rw [behind?, List.dropWhile_append_of_pos hpassed, behind?]

open Waymark.Action

/-- The frames are sent back one by one. The induction is on the bound of their number, which is
never reached because each frame takes a message that came in. -/
theorem converses_frames {fuel : Nat} {x : Exchange} (hfuel : x.inbound.length < fuel) :
    Converses (frames fuel) x (echoes x.inbound) (behind? isDisconnect x.inbound) := by
  induction fuel generalizing x with
  | zero => exact absurd hfuel (Nat.not_lt_zero _)
  | succ fuel ih =>
      cases hnext : firstThat Session.frame? x.inbound with
      | none =>
          have hnone := firstThat_eq_none_iff.mp hnext
          have hechoes : echoes (x.inbound ++ []) = echoes [] := echoes_of_passed hnone
          have hbehind : behind? isDisconnect (x.inbound ++ []) = behind? isDisconnect [] :=
            behind?_of_passed hnone
          rw [List.append_nil] at hechoes hbehind
          rw [hechoes, hbehind]
          exact converses_awaiting _ hnext
      | some found =>
          obtain ⟨frame, rest⟩ := found
          obtain ⟨before, m, hsplit, hm, hbefore⟩ := firstThat_eq_some hnext
          rw [hsplit, echoes_of_passed hbefore, behind?_of_passed hbefore]
          refine Converses.awaited _ hnext fun y hy _ _ => ?_
          cases frame with
          | none =>
              obtain ⟨code, rfl⟩ : ∃ code, m = .socketDisconnect code := by
                cases m <;> simp_all [Session.frame?]
              have hclosed : behind? isDisconnect (.socketDisconnect code :: rest) =
                  some y.inbound := by rw [hy]; rfl
              rw [hclosed]
              exact converses_done
          | some text =>
              obtain rfl : m = .socketReceive text := by
                cases m <;> simp_all [Session.frame?]
              refine Converses.sending fun z hz => ?_
              have hz' : z.inbound = rest := hz.trans hy
              have hrest : rest.length < fuel := by
                have hlength := congrArg List.length hsplit
                rw [List.length_append, List.length_cons] at hlength
                omega
              have hmore := ih (x := z) (by rw [hz']; exact hrest)
              rw [hz'] at hmore
              exact hmore

theorem converses_session (s : Session) : ∃ a, session s = a.mapError .ofChannel ∧
    ∀ x, Converses a x (replies x.inbound) (unread? x.inbound) := by
  refine ⟨_, rfl, fun x => ?_⟩
  rw [Session.accept, bind_assoc]
  cases hconnect : firstThat Session.isConnect x.inbound with
  | none =>
      have hnone : behind? (· == .socketConnect) x.inbound = none := by
        refine behind?_of_none fun m hm => ?_
        have hother := firstThat_eq_none_iff.mp hconnect m hm
        cases m <;> simp_all [Session.isConnect]
      rw [replies, unread?, hnone]
      exact converses_awaiting _ hconnect
  | some found =>
      obtain ⟨⟨⟩, rest⟩ := found
      obtain ⟨before, m, hsplit, hm, hbefore⟩ := firstThat_eq_some hconnect
      obtain rfl : m = .socketConnect := by cases m <;> simp_all [Session.isConnect]
      have hrest : behind? (· == .socketConnect) x.inbound = some rest := by
        rw [hsplit]
        refine behind?_of_split rfl fun n hn => ?_
        have hother := hbefore n hn
        cases n <;> simp_all [Session.isConnect]
      rw [replies, unread?, hrest]
      refine Converses.awaited _ hconnect fun y hy _ _ => ?_
      refine Converses.sending fun z hz => ?_
      have hframes := converses_frames (Nat.lt_succ_self z.inbound.length)
      refine Converses.got ?_
      rw [hz, hy] at hframes ⊢
      exact hframes

theorem call_session {b : Bindings} {e : Endpoint} (htarget : e.target = .session)
    {a : Action ChannelError Unit} {scope : Scope}
    (ha : b.session e.handle ⟨scope⟩ = a.mapError .ofChannel) (x : Exchange) :
    ∃ y : Exchange, y.inbound = x.inbound ∧ y.sent = x.sent ∧ y.room = x.room ∧
      (e.call b scope x).1 =
        (a y).1.mapError (fun error => DispatchError.handler e.name (.ofChannel error)) ∧
      (e.call b scope x).2.sent = (a y).2.sent ∧
      (e.call b scope x).2.inbound = (a y).2.inbound := by
  obtain ⟨name, handle, target⟩ := e
  obtain rfl : target = .session := htarget
  refine ⟨{ x with events := x.events ++ [Dispatch.started] }, rfl, rfl, rfl, ?_⟩
  rw [Endpoint.call, Target.run, ha]
  generalize hy : ({ x with events := x.events ++ [Dispatch.started] } : Exchange) = y
  have hrun : (do
      Action.log Dispatch.started
      (a.mapError Failure.ofChannel).mapError (DispatchError.handler name)
      Action.log Dispatch.completed : Action DispatchError Unit) x =
      ((a.mapError Failure.ofChannel).mapError (DispatchError.handler name) >>= fun _ =>
        Action.log Dispatch.completed) y := by
    rw [← hy]
    rfl
  rw [hrun]
  cases hresult : (a y).1 with
  | ok u =>
      have hok : ((a.mapError Failure.ofChannel).mapError (DispatchError.handler name) y).1 =
          .ok u := by
        rw [mapError_eq, mapError_eq, hresult]
        rfl
      rw [bind_of_ok hok]
      exact ⟨rfl, rfl, rfl⟩
  | error error =>
      have herror : ((a.mapError Failure.ofChannel).mapError (DispatchError.handler name) y).1 =
          .error (.handler name (.ofChannel error)) := by
        rw [mapError_eq, mapError_eq, hresult]
        rfl
      rw [bind_of_error herror]
      exact ⟨rfl, rfl, rfl⟩

/-- A session endpoint that is bound to the echoes loses, invents and reorders nothing. On every
channel it sends the beginning of its replies that the channel takes. It succeeds exactly if there
is a connect, a disconnect behind it, and room for all replies, and then what is behind the
disconnect is left unread; else it fails since the channel is closed. -/
theorem replays {b : Bindings} {e : Endpoint} (htarget : e.target = .session)
    (hbound : b.session e.handle = session) (scope : Scope) (x : Exchange) :
    (e.call b scope x).2.sent =
      x.sent ++ (replies x.inbound).take (x.room.getD (replies x.inbound).length) ∧
    ((e.call b scope x).1 = .ok () ↔ (unread? x.inbound).isSome = true ∧
      (replies x.inbound).length ≤ x.room.getD (replies x.inbound).length) ∧
    ((e.call b scope x).1 = .ok () → unread? x.inbound = some (e.call b scope x).2.inbound) ∧
    ((e.call b scope x).1 ≠ .ok () →
      (e.call b scope x).1 = .error (.handler e.name (.ofChannel .closed))) := by
  obtain ⟨a, ha, hconverses⟩ := converses_session ⟨scope⟩
  rw [← hbound] at ha
  obtain ⟨y, hinbound, hsent, hroom, hresult, hsent', hunread'⟩ := call_session htarget ha x
  have hconversation := hconverses y
  rw [hinbound] at hconversation
  have hend := hconversation.result
  rw [hroom] at hend
  refine ⟨by rw [hsent', hconversation.sent, hsent, hroom], ?_⟩
  by_cases hdone : (unread? x.inbound).isSome = true ∧
      (replies x.inbound).length ≤ x.room.getD (replies x.inbound).length
  case pos =>
    rw [if_pos hdone] at hend
    have hok : (e.call b scope x).1 = .ok () := by
      rw [hresult, hend]
      rfl
    obtain ⟨rest, hrest⟩ := Option.isSome_iff_exists.mp hdone.1
    refine ⟨iff_of_true hok hdone, fun _ => ?_, fun herror => absurd hok herror⟩
    rw [hunread', hconversation.unread rest hrest hend, hrest]
  case neg =>
    rw [if_neg hdone] at hend
    have herror : (e.call b scope x).1 = .error (.handler e.name (.ofChannel .closed)) := by
      rw [hresult, hend]
      rfl
    have hno : (e.call b scope x).1 ≠ .ok () := by
      rw [herror]
      simp
    exact ⟨iff_of_false hno hdone, fun hok => absurd hok hno, fun _ => herror⟩

end Echo

namespace Site

def mirror : Endpoint := ⟨Echo.sessionName, ⟨[21]⟩, .session⟩

/-- Frames come before the connect and behind the disconnect, and a second connect between. -/
def chatter : List Message :=
  [.socketReceive "early", .socketConnect, .socketReceive "a", .socketConnect, .lifecycleStop,
    .socketReceive "b", .socketDisconnect 1000, .socketReceive "late", .socketConnect]

theorem replays_chatter :
    Echo.replies chatter = [.socketAccept, .socketSend "a", .socketSend "b"] ∧
      Echo.unread? chatter = some [.socketReceive "late", .socketConnect] ∧
      (mirror.call Echo.bindings (.socket "/") (.new chatter (some 3))).1 = .ok () ∧
      (mirror.call Echo.bindings (.socket "/") (.new chatter (some 2))).2.sent =
        [.socketAccept, .socketSend "a"] ∧
      (mirror.call Echo.bindings (.socket "/") (.new chatter (some 2))).1 =
        .error (.handler "echo_session" ⟨["channel closed"]⟩) := by
  have hreplies : Echo.replies chatter = [.socketAccept, .socketSend "a", .socketSend "b"] := by
    decide
  have hunread : Echo.unread? chatter = some [.socketReceive "late", .socketConnect] := by decide
  obtain ⟨-, hok, -⟩ := Echo.replays (e := mirror) (b := Echo.bindings) rfl rfl (.socket "/")
    (.new chatter (some 3))
  obtain ⟨hsent, hok', -, herror⟩ := Echo.replays (e := mirror) (b := Echo.bindings) rfl rfl
    (.socket "/") (.new chatter (some 2))
  have hall : (Echo.unread? chatter).isSome = true ∧
      (Echo.replies chatter).length ≤ (some 3).getD (Echo.replies chatter).length := by decide
  have hcut : ¬ ((Echo.unread? chatter).isSome = true ∧
      (Echo.replies chatter).length ≤ (some 2).getD (Echo.replies chatter).length) := by decide
  refine ⟨hreplies, hunread, hok.mpr hall, ?_, herror fun h => hcut (hok'.mp h)⟩
  rw [hsent]
  change [] ++ (Echo.replies chatter).take 2 = _
  rw [hreplies]
  rfl

end Site

end Waymark
