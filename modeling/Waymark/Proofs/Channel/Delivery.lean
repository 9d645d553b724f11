import Mathlib.Logic.Function.Basic
import Waymark.Channel.Pair

/-!
# Delivery over a pair of channels

The two ends of a pair are used by two parties, and what one does comes between
what the other does. An end does one thing at a time, but two of the things it
does take several steps: it drains its queue message by message, and it is
dropped in two halves. `Step` is the relation of these steps, each with the event
that it leaves in the history, and `Run` is any number of them.

What is in the history is related to the state by what one step does to both:
a message is added where it is sent, moves to where it is taken, and is nowhere
else (`Step.conserves`); a half of an end is gone from the event on that says so
(`Step.halves_iff`). The same follows for runs by induction. An end that began to
go sends nothing more (`Run.silent`), so what was received when the other end
turns out to be closed is all that will ever be.
-/

namespace Waymark.Channel

namespace Pair

variable {p q : Pair} {e : End} {m : Message}

/-! ## What the operations do to the two sides -/

theorem send_eq_ok_iff : p.send e m = .ok q ↔ (p.side e.peer).receiverGone = false ∧
    q = p.setSide e.peer { p.side e.peer with queue := (p.side e.peer).queue ++ [m] } := by
  cases h : (p.side e.peer).receiverGone <;> simp [send, h, eq_comm]

theorem send_eq_error_iff {err : ChannelError} :
    p.send e m = .error err ↔ (p.side e.peer).receiverGone = true := by
  cases err
  cases h : (p.side e.peer).receiverGone <;> simp [send, h]

theorem receive_eq_message_iff : p.receive e = (.message m, q) ↔
    ∃ rest, (p.side e).queue = m :: rest ∧ q = p.setSide e { p.side e with queue := rest } := by
  rw [receive]
  cases (p.side e).queue with
  | nil => cases (p.side e.peer).senderGone <;> simp
  | cons n rest =>
      constructor
      · intro h
        cases h
        exact ⟨rest, rfl, rfl⟩
      · rintro ⟨_, hqueue, rfl⟩
        cases hqueue
        rfl

theorem receive_fst_eq_closed_iff : (p.receive e).1 = .closed ↔
    (p.side e).queue = [] ∧ (p.side e.peer).senderGone = true := by
  rw [receive]
  cases (p.side e).queue with
  | nil => cases (p.side e.peer).senderGone <;> simp
  | cons n rest => simp

theorem eq_of_receive {r : Received} (h : p.receive e = (r, q)) (hnone : ∀ m, r ≠ .message m) :
    (p.side e).queue = [] ∧ q = p := by
  rw [receive] at h
  cases hqueue : (p.side e).queue with
  | nil =>
      rw [hqueue] at h
      exact ⟨rfl, (congrArg Prod.snd h).symm⟩
  | cons n rest =>
      rw [hqueue] at h
      exact absurd (congrArg Prod.fst h).symm (hnone n)

theorem side_setQueue (p : Pair) (e f : End) (queue : List Message) :
    ((p.setSide f { p.side f with queue := queue }).side e).senderGone = (p.side e).senderGone ∧
      ((p.setSide f { p.side f with queue := queue }).side e).receiverGone =
        (p.side e).receiverGone := by
  rw [side_setSide]
  split
  · rename_i he
    rw [he]
    exact ⟨rfl, rfl⟩
  · exact ⟨rfl, rfl⟩

theorem halves_of_send (h : p.send e m = .ok q) (f : End) :
    (q.side f).senderGone = (p.side f).senderGone ∧
      (q.side f).receiverGone = (p.side f).receiverGone := by
  obtain ⟨_, rfl⟩ := send_eq_ok_iff.mp h
  exact side_setQueue p f e.peer _

theorem halves_of_receive {r : Received} (h : p.receive e = (r, q)) (f : End) :
    (q.side f).senderGone = (p.side f).senderGone ∧
      (q.side f).receiverGone = (p.side f).receiverGone := by
  by_cases hnone : ∀ m, r ≠ .message m
  · rw [(eq_of_receive h hnone).2]
    exact ⟨rfl, rfl⟩
  · obtain ⟨m, hm⟩ := Classical.not_forall.mp hnone
    rw [Classical.not_not.mp hm] at h
    obtain ⟨rest, _, rfl⟩ := receive_eq_message_iff.mp h
    exact side_setQueue p f e _

theorem side_dropSender (p : Pair) (e f : End) :
    (p.dropSender e).side f = { p.side f with
      senderGone := if f = e then true else (p.side f).senderGone } := by
  rw [dropSender, side_setSide]
  split
  · rename_i he
    rw [he]
  · rfl

theorem side_dropReceiver (p : Pair) (e f : End) :
    (p.dropReceiver e).side f = { p.side f with
      receiverGone := if f = e then true else (p.side f).receiverGone } := by
  rw [dropReceiver, side_setSide]
  split
  · rename_i he
    rw [he]
  · rfl

end Pair

/-! ## Steps -/

/-- What an end is in the middle of. -/
inductive Activity where
  | idle
  /-- It takes what waits for it, message by message, and has taken these. -/
  | draining (taken : List Message)
  /-- It is being dropped, and its sender is gone. -/
  | leaving
  | gone
  deriving DecidableEq

/-- The messages that an end has taken and not yet handed over. -/
def Activity.taken : Activity → List Message
  | .draining taken => taken
  | _ => []

structure State where
  pair : Pair
  activity : End → Activity

namespace State

def initial : State := ⟨.new, fun _ => .idle⟩

/-- The state in which an end is in the middle of something else. -/
def turn (s : State) (e : End) (a : Activity) : State :=
  { s with activity := Function.update s.activity e a }

/-- The messages on their way to an end: those that it has taken and not handed over, and those
that wait. -/
def underway (s : State) (e : End) : List Message :=
  (s.activity e).taken ++ (s.pair.side e).queue

end State

/-- What is seen of a step. -/
inductive Event where
  | send (e : End) (m : Message) (result : Except ChannelError Unit)
  | receive (e : End) (result : Except ChannelError Message)
  | startDrain (e : End)
  | take (e : End) (m : Message)
  | drain (e : End) (result : List Message)
  | dropSender (e : End)
  | dropReceiver (e : End)

namespace Event

def sentBy (e : End) : Event → List Message
  | .send f m (.ok _) => if f = e then [m] else []
  | _ => []

def handedTo (e : End) : Event → List Message
  | .receive f (.ok m) => if f = e then [m] else []
  | .drain f ms => if f = e then ms else []
  | _ => []

end Event

def sent (e : End) (tr : List Event) : List Message := tr.flatMap (·.sentBy e)

def handed (e : End) (tr : List Event) : List Message := tr.flatMap (·.handedTo e)

/-- One step of an end. A receive for which nothing is there and may still come is no step: the
end waits, and does nothing else. -/
inductive Step : State → Event → State → Prop
  | send {s : State} {e : End} {m : Message} {p : Pair} (hidle : s.activity e = .idle)
      (h : s.pair.send e m = .ok p) : Step s (.send e m (.ok ())) { s with pair := p }
  | refuse {s : State} {e : End} {m : Message} {err : ChannelError}
      (hidle : s.activity e = .idle) (h : s.pair.send e m = .error err) :
      Step s (.send e m (.error err)) s
  | receive {s : State} {e : End} {m : Message} {p : Pair} (hidle : s.activity e = .idle)
      (h : s.pair.receive e = (.message m, p)) :
      Step s (.receive e (.ok m)) { s with pair := p }
  | hangUp {s : State} {e : End} {p : Pair} (hidle : s.activity e = .idle)
      (h : s.pair.receive e = (.closed, p)) :
      Step s (.receive e (.error .closed)) { s with pair := p }
  | startDrain {s : State} {e : End} (hidle : s.activity e = .idle) :
      Step s (.startDrain e) (s.turn e (.draining []))
  | take {s : State} {e : End} {m : Message} {p : Pair} {taken : List Message}
      (hdrain : s.activity e = .draining taken) (h : s.pair.receive e = (.message m, p)) :
      Step s (.take e m) ({ s with pair := p }.turn e (.draining (taken ++ [m])))
  | drain {s : State} {e : End} {r : Pair.Received} {p : Pair} {taken : List Message}
      (hdrain : s.activity e = .draining taken) (h : s.pair.receive e = (r, p))
      (hnone : ∀ m, r ≠ .message m) :
      Step s (.drain e taken) ({ s with pair := p }.turn e .idle)
  | dropSender {s : State} {e : End} (hidle : s.activity e = .idle) :
      Step s (.dropSender e) ({ s with pair := s.pair.dropSender e }.turn e .leaving)
  | dropReceiver {s : State} {e : End} (hleaving : s.activity e = .leaving) :
      Step s (.dropReceiver e) ({ s with pair := s.pair.dropReceiver e }.turn e .gone)

inductive Run : State → List Event → State → Prop
  | nil {s : State} : Run s [] s
  | cons {s s' s'' : State} {ev : Event} {tr : List Event} (hstep : Step s ev s')
      (hrun : Run s' tr s'') : Run s (ev :: tr) s''

/-! ## What a step does -/

section Steps

variable {s s' : State} {ev : Event} {tr : List Event}

@[simp] theorem State.pair_turn (s : State) (e : End) (a : Activity) :
    (s.turn e a).pair = s.pair := rfl

theorem State.activity_turn (s : State) (e f : End) (a : Activity) :
    (s.turn e a).activity f = if f = e then a else s.activity f :=
  Function.update_apply ..

/-- A message is added where it is sent, and leaves where it is handed over. -/
theorem Step.conserves (h : Step s ev s') (e : End) :
    s.underway e ++ ev.sentBy e.peer = ev.handedTo e ++ s'.underway e := by
  cases h with
  | @send f m p hidle h =>
      obtain ⟨_, rfl⟩ := Pair.send_eq_ok_iff.mp h
      simp only [State.underway, Pair.side_setSide, Event.sentBy, Event.handedTo]
      by_cases he : e = f.peer
      · subst he
        simp
      · have hf : f ≠ e.peer := by
          rintro rfl
          simp at he
        simp [he, hf]
  | refuse hidle h => simp only [Event.sentBy, Event.handedTo, List.append_nil, List.nil_append]
  | @receive f m p hidle h =>
      obtain ⟨rest, hqueue, rfl⟩ := Pair.receive_eq_message_iff.mp h
      simp only [State.underway, Pair.side_setSide, Event.sentBy, Event.handedTo]
      by_cases he : e = f
      · subst he
        simp [hidle, hqueue, Activity.taken]
      · simp [he, Ne.symm he]
  | hangUp hidle h =>
      obtain ⟨_, rfl⟩ := Pair.eq_of_receive h (by simp)
      simp only [Event.sentBy, Event.handedTo, List.append_nil, List.nil_append]
  | @startDrain f hidle =>
      simp only [State.underway, State.activity_turn, Event.sentBy, Event.handedTo]
      by_cases he : e = f
      · subst he
        simp [hidle, Activity.taken]
      · simp [he]
  | @take f m p taken hdrain h =>
      obtain ⟨rest, hqueue, rfl⟩ := Pair.receive_eq_message_iff.mp h
      simp only [State.underway, State.activity_turn, State.pair_turn, Pair.side_setSide,
        Event.sentBy, Event.handedTo]
      by_cases he : e = f
      · subst he
        simp [hdrain, hqueue, Activity.taken]
      · simp [he]
  | @drain f r p taken hdrain h hnone =>
      obtain ⟨hqueue, rfl⟩ := Pair.eq_of_receive h hnone
      simp only [State.underway, State.activity_turn, Event.sentBy, Event.handedTo]
      by_cases he : e = f
      · subst he
        simp [hdrain, hqueue, Activity.taken]
      · simp [he, Ne.symm he]
  | @dropSender f hidle =>
      simp only [State.underway, State.activity_turn, State.pair_turn, Pair.side_dropSender,
        Event.sentBy, Event.handedTo]
      by_cases he : e = f
      · subst he
        simp [hidle, Activity.taken]
      · simp [he]
  | @dropReceiver f hleaving =>
      simp only [State.underway, State.activity_turn, State.pair_turn, Pair.side_dropReceiver,
        Event.sentBy, Event.handedTo]
      by_cases he : e = f
      · subst he
        simp [hleaving, Activity.taken]
      · simp [he]

/-- A half of an end is gone from the step on that drops it. -/
theorem Step.halves_iff (h : Step s ev s') (e : End) :
    ((s'.pair.side e).senderGone = true ↔
      (s.pair.side e).senderGone = true ∨ ev = .dropSender e) ∧
    ((s'.pair.side e).receiverGone = true ↔
      (s.pair.side e).receiverGone = true ∨ ev = .dropReceiver e) := by
  cases h with
  | send _ h => simp [Pair.halves_of_send h e]
  | receive _ h => simp [Pair.halves_of_receive h e]
  | hangUp _ h => simp [Pair.halves_of_receive h e]
  | take _ h => simp [Pair.halves_of_receive h e]
  | drain _ h _ => simp [Pair.halves_of_receive h e]
  | @dropSender f _ =>
      have heq : f = e ↔ e = f := eq_comm
      simp [Pair.side_dropSender, heq, or_comm]
  | @dropReceiver f _ =>
      have heq : f = e ↔ e = f := eq_comm
      simp [Pair.side_dropReceiver, heq, or_comm]
  | _ => simp

/-- The end has no sender any more, and will do nothing but go. -/
def State.IsLeaving (s : State) (e : End) : Prop :=
  s.activity e = .leaving ∨ s.activity e = .gone

/-- An end that began to go stays so and sends nothing. -/
theorem Step.silent (h : Step s ev s') {e : End} (he : s.IsLeaving e) :
    s'.IsLeaving e ∧ ev.sentBy e = [] := by
  have hbusy {f : End} {a : Activity} (hf : s.activity f = a) (ha : a ≠ .leaving ∧ a ≠ .gone) :
      e ≠ f := by
    rintro rfl
    rcases he with he | he
    · exact ha.1 (hf.symm.trans he)
    · exact ha.2 (hf.symm.trans he)
  have hturn {p : Pair} {f : End} {a : Activity} (hf : e ≠ f) :
      ({ s with pair := p }.turn f a).IsLeaving e := by
    simpa only [State.IsLeaving, State.activity_turn, if_neg hf] using he
  cases h with
  | send hidle _ => exact ⟨he, if_neg (hbusy hidle (by simp)).symm⟩
  | refuse _ _ => exact ⟨he, rfl⟩
  | receive _ _ => exact ⟨he, rfl⟩
  | hangUp _ _ => exact ⟨he, rfl⟩
  | startDrain hidle => exact ⟨hturn (hbusy hidle (by simp)), rfl⟩
  | take hdrain _ => exact ⟨hturn (hbusy hdrain (by simp)), rfl⟩
  | drain hdrain _ _ => exact ⟨hturn (hbusy hdrain (by simp)), rfl⟩
  | dropSender hidle => exact ⟨hturn (hbusy hidle (by simp)), rfl⟩
  | @dropReceiver f _ =>
      refine ⟨?_, rfl⟩
      by_cases hf : e = f
      · exact Or.inr (by rw [State.activity_turn, if_pos hf])
      · exact hturn hf

/-- Only an end that goes is without its sender. -/
theorem Step.leaves (h : Step s ev s') {e : End}
    (hgone : (s.pair.side e).senderGone = true → s.IsLeaving e)
    (hgone' : (s'.pair.side e).senderGone = true) : s'.IsLeaving e := by
  rcases (h.halves_iff e).1.mp hgone' with hbefore | rfl
  · exact (h.silent (hgone hbefore)).1
  · cases h with
    | dropSender _ => exact Or.inl (by rw [State.activity_turn, if_pos rfl])

end Steps

/-! ## What a run does -/

namespace Run

variable {s s' s'' : State} {tr tr' : List Event}

theorem append_iff : Run s (tr ++ tr') s'' ↔ ∃ s', Run s tr s' ∧ Run s' tr' s'' := by
  induction tr generalizing s with
  | nil =>
      constructor
      · exact fun h => ⟨s, .nil, h⟩
      · rintro ⟨_, ⟨⟩, h⟩
        exact h
  | cons ev tr ih =>
      constructor
      · rintro (_ | ⟨hstep, hrun⟩)
        obtain ⟨s', htr, htr'⟩ := ih.mp hrun
        exact ⟨s', .cons hstep htr, htr'⟩
      · rintro ⟨s', ⟨⟩ | ⟨hstep, htr⟩, htr'⟩
        exact .cons hstep (ih.mpr ⟨s', htr, htr'⟩)

theorem conserves (h : Run s tr s') (e : End) :
    s.underway e ++ sent e.peer tr = handed e tr ++ s'.underway e := by
  induction h with
  | nil => simp [sent, handed]
  | @cons s s₁ s' ev tr hstep _ ih =>
      calc s.underway e ++ sent e.peer (ev :: tr)
          = (s.underway e ++ ev.sentBy e.peer) ++ sent e.peer tr := by
            rw [List.append_assoc]
            rfl
        _ = ev.handedTo e ++ (s₁.underway e ++ sent e.peer tr) := by
            rw [hstep.conserves, List.append_assoc]
        _ = handed e (ev :: tr) ++ s'.underway e := by
            rw [ih, ← List.append_assoc]
            rfl

theorem halves_iff (h : Run s tr s') (e : End) :
    ((s'.pair.side e).senderGone = true ↔
      (s.pair.side e).senderGone = true ∨ .dropSender e ∈ tr) ∧
    ((s'.pair.side e).receiverGone = true ↔
      (s.pair.side e).receiverGone = true ∨ .dropReceiver e ∈ tr) := by
  induction h with
  | nil => simp
  | @cons _ _ _ ev _ hstep _ ih =>
      obtain ⟨hsender, hreceiver⟩ := hstep.halves_iff e
      constructor
      · rw [ih.1, hsender, List.mem_cons, or_assoc, @eq_comm _ ev]
      · rw [ih.2, hreceiver, List.mem_cons, or_assoc, @eq_comm _ ev]

theorem leaves (h : Run s tr s') {e : End}
    (hgone : (s.pair.side e).senderGone = true → s.IsLeaving e)
    (hgone' : (s'.pair.side e).senderGone = true) : s'.IsLeaving e := by
  induction h with
  | nil => exact hgone hgone'
  | cons hstep _ ih => exact ih (hstep.leaves hgone) hgone'

theorem silent (h : Run s tr s') {e : End} (he : s.IsLeaving e) : sent e tr = [] := by
  induction h with
  | nil => rfl
  | cons hstep _ ih =>
      obtain ⟨hstays, hnone⟩ := hstep.silent he
      exact List.append_eq_nil_iff.mpr ⟨hnone, ih hstays⟩

end Run

/-! ## Undisturbed steps -/

theorem Pair.setSide_self (p : Pair) (e : End) : p.setSide e (p.side e) = p := by
  cases e <;> rfl

theorem Pair.setSide_setSide (p : Pair) (e : End) (a b : Side) :
    (p.setSide e a).setSide e b = p.setSide e b := by
  cases e <;> rfl

theorem Pair.receive_nil {p : Pair} {e : End} (h : (p.side e).queue = []) :
    p.receive e = (if (p.side e.peer).senderGone then .closed else .waiting, p) := by
  rw [receive, h]

theorem State.turn_turn (s : State) (e : End) (p q : Pair) (a b : Activity) :
    { { s with pair := p }.turn e a with pair := q }.turn e b = { s with pair := q }.turn e b := by
  simp only [turn, Function.update_idem]

/-- If nothing comes between, an end takes what waits for it and is done. -/
theorem run_takes {e : End} {ms : List Message} : ∀ {s : State} {taken : List Message},
    s.activity e = .draining taken → (s.pair.side e).queue = ms →
    Run s (ms.map (.take e) ++ [.drain e (taken ++ ms)])
      ({ s with pair := (s.pair.drain e).2 }.turn e .idle) := by
  induction ms with
  | nil =>
      intro s taken hdrain hqueue
      have hpair : (s.pair.drain e).2 = s.pair := by
        rw [Pair.drain, ← hqueue, Pair.setSide_self]
      rw [hpair, List.append_nil]
      exact .cons (.drain hdrain (Pair.receive_nil hqueue) (by split <;> simp)) .nil
  | cons m ms ih =>
      intro s taken hdrain hqueue
      have htake := Step.take hdrain (Pair.receive_eq_message_iff.mpr ⟨ms, hqueue, rfl⟩)
      have hrun := ih (State.activity_turn .. |>.trans (if_pos rfl))
        (by rw [State.pair_turn, Pair.side_setSide, if_pos rfl]) |> Run.cons htake
      rw [List.append_assoc, List.singleton_append, State.turn_turn] at hrun
      have hpair (side : Side) : ((s.pair.setSide e side).drain e).2 =
          s.pair.setSide e { side with queue := [] } := by
        rw [Pair.drain, Pair.side_setSide, if_pos rfl, Pair.setSide_setSide]
      rw [State.pair_turn, hpair] at hrun
      exact hrun

/-- Undisturbed, draining is what it is for the pair alone. -/
theorem run_drain {s : State} {e : End} (hidle : s.activity e = .idle) :
    Run s (.startDrain e :: ((s.pair.side e).queue.map (.take e) ++ [.drain e (s.pair.drain e).1]))
      { s with pair := (s.pair.drain e).2 } := by
  have hrun := run_takes (State.activity_turn s e e (.draining []) |>.trans (if_pos rfl)) rfl
  have hend : { s.turn e (.draining []) with pair := (s.pair.drain e).2 }.turn e .idle =
      { s with pair := (s.pair.drain e).2 } := by
    simp only [State.turn, Function.update_idem, ← hidle, Function.update_eq_self]
  rw [State.pair_turn, hend] at hrun
  exact .cons (.startDrain hidle) hrun

theorem run_drop {s : State} {e : End} (hidle : s.activity e = .idle) :
    Run s [.dropSender e, .dropReceiver e] ({ s with pair := s.pair.drop e }.turn e .gone) := by
  have hdrop := Step.dropReceiver (State.activity_turn { s with pair := s.pair.dropSender e } e e
    .leaving |>.trans (if_pos rfl))
  rw [State.turn_turn] at hdrop
  exact .cons (.dropSender hidle) (.cons hdrop .nil)

/-! ## Delivery -/

section Delivery

variable {s : State} {tr : List Event}

theorem Run.delivers (h : Run .initial tr s) (e : End) :
    handed e tr ++ (s.activity e).taken ++ (s.pair.side e).queue = sent e.peer tr := by
  have hnone : State.initial.underway e = [] := by cases e <;> rfl
  rw [List.append_assoc, ← State.underway, ← h.conserves e, hnone, List.nil_append]

theorem Run.dropSender_mem_iff (h : Run .initial tr s) (e : End) :
    .dropSender e ∈ tr ↔ (s.pair.side e).senderGone = true := by
  have hthere : (State.initial.pair.side e).senderGone = false := by cases e <;> rfl
  simp [(h.halves_iff e).1, hthere]

theorem Run.dropReceiver_mem_iff (h : Run .initial tr s) (e : End) :
    .dropReceiver e ∈ tr ↔ (s.pair.side e).receiverGone = true := by
  have hthere : (State.initial.pair.side e).receiverGone = false := by cases e <;> rfl
  simp [(h.halves_iff e).2, hthere]

/-- An end that takes nothing at the moment finds the channel closed exactly if the other end has
begun to go and everything that it sent was handed over. -/
theorem Run.receive_closed_iff (h : Run .initial tr s) {e : End} (hidle : s.activity e = .idle) :
    (s.pair.receive e).1 = .closed ↔ .dropSender e.peer ∈ tr ∧ handed e tr = sent e.peer tr := by
  have hdelivers := h.delivers e
  have hnone : (s.activity e).taken = [] := by
    rw [hidle]
    rfl
  rw [hnone, List.append_nil] at hdelivers
  rw [Pair.receive_fst_eq_closed_iff, h.dropSender_mem_iff, ← hdelivers, and_comm]
  simp

/-- Behind a receive that finds the channel closed there is nothing to come. -/
theorem Run.handed_eq_sent {e : End} {err : ChannelError} {before after : List Event}
    (h : Run .initial (before ++ .receive e (.error err) :: after) s) :
    .dropSender e.peer ∈ before ∧
      handed e before = sent e.peer (before ++ .receive e (.error err) :: after) := by
  obtain ⟨a, hbefore, hrest⟩ := append_iff.mp h
  obtain ⟨hidle, hclosed⟩ : a.activity e = .idle ∧ (a.pair.receive e).1 = .closed := by
    obtain _ | ⟨hstep, _⟩ := hrest
    cases hstep with
    | hangUp hidle h => exact ⟨hidle, congrArg Prod.fst h⟩
  obtain ⟨hgone, hhanded⟩ := (hbefore.receive_closed_iff hidle).mp hclosed
  have hleaving : a.IsLeaving e.peer := by
    refine hbefore.leaves (fun hstart => ?_) ((hbefore.dropSender_mem_iff e.peer).mp hgone)
    cases e <;> cases hstart
  refine ⟨hgone, ?_⟩
  rw [sent, List.flatMap_append, ← sent, ← sent, hrest.silent hleaving, List.append_nil, hhanded]

theorem Run.refused_iff {e : End} {m : Message} {r : Except ChannelError Unit}
    {before after : List Event} (h : Run .initial (before ++ .send e m r :: after) s) :
    r = .error .closed ↔ .dropReceiver e.peer ∈ before := by
  obtain ⟨a, hbefore, hrest⟩ := append_iff.mp h
  rw [hbefore.dropReceiver_mem_iff]
  obtain _ | ⟨hstep, _⟩ := hrest
  cases hstep with
  | send _ hsend => simp [(Pair.send_eq_ok_iff.mp hsend).1]
  | @refuse _ _ err _ hsend =>
      cases err
      exact iff_of_true rfl (Pair.send_eq_error_iff.mp hsend)

/-- However sending, receiving, draining and dropping come between one another at the two ends, a
pair neither loses, duplicates, reorders nor crosses messages. What was handed over at an end, what
it has taken while it drains and what waits for it is, in this order, what the other end sent. A
receive finds the channel closed exactly if the other end has begun to go and all of its messages
were handed over, and no message follows; a send finds it closed exactly if the other end is gone.
Left alone, draining and dropping are done at once. -/
theorem keeps_messages (h : Run .initial tr s) :
    (∀ e, handed e tr ++ (s.activity e).taken ++ (s.pair.side e).queue = sent e.peer tr) ∧
    (∀ e, s.activity e = .idle → ((s.pair.receive e).1 = .closed ↔
      .dropSender e.peer ∈ tr ∧ handed e tr = sent e.peer tr)) ∧
    (∀ e err before after, tr = before ++ .receive e (.error err) :: after →
      .dropSender e.peer ∈ before ∧ handed e before = sent e.peer tr) ∧
    (∀ e m r before after, tr = before ++ .send e m r :: after →
      (r = .error .closed ↔ .dropReceiver e.peer ∈ before)) ∧
    ∀ e, s.activity e = .idle →
      Run s (.startDrain e :: ((s.pair.side e).queue.map (.take e) ++
        [.drain e (s.pair.drain e).1])) { s with pair := (s.pair.drain e).2 } ∧
      Run s [.dropSender e, .dropReceiver e] ({ s with pair := s.pair.drop e }.turn e .gone) := by
  refine ⟨h.delivers, fun e hidle => h.receive_closed_iff hidle, ?_, ?_,
    fun e hidle => ⟨run_drain hidle, run_drop hidle⟩⟩
  · rintro e err before after rfl
    exact h.handed_eq_sent
  · rintro e m r before after rfl
    exact h.refused_iff

end Delivery

/-- The app goes while the transport drains: a message comes after the drain has begun, the drain
still takes both, and a message sent to the app before it is quite gone is lost. -/
def parting : List Event :=
  [.send .app (.responseStart 200 []) (.ok ()), .startDrain .transport,
    .take .transport (.responseStart 200 []), .send .app (.responseBody "bye") (.ok ()),
    .dropSender .app, .take .transport (.responseBody "bye"),
    .drain .transport [.responseStart 200 [], .responseBody "bye"],
    .receive .transport (.error .closed), .send .transport (.socketDisconnect 1000) (.ok ()),
    .dropReceiver .app, .send .transport (.socketDisconnect 1001) (.error .closed)]

theorem run_parting : ∃ s, Run .initial parting s :=
  ⟨_, .cons (.send rfl rfl) <| .cons (.startDrain rfl) <| .cons (.take rfl rfl) <|
    .cons (.send rfl rfl) <| .cons (.dropSender rfl) <| .cons (.take rfl rfl) <|
    .cons (.drain rfl (r := .closed) rfl (by simp)) <| .cons (.hangUp rfl rfl) <|
    .cons (.send rfl rfl) <| .cons (.dropReceiver rfl) <| .cons (.refuse rfl rfl) .nil⟩

theorem keeps_messages_parting : ∃ s, Run .initial parting s ∧
    handed .transport parting ++ (s.activity .transport).taken ++
      (s.pair.side .transport).queue = sent .app parting ∧
    handed .app parting ++ (s.activity .app).taken ++ (s.pair.side .app).queue =
      sent .transport parting ∧
    sent .app parting = [.responseStart 200 [], .responseBody "bye"] ∧
    handed .transport (parting.take 7) = sent .app parting ∧
    .dropReceiver .app ∈ parting.take 10 ∧ .dropReceiver .app ∉ parting.take 8 := by
  obtain ⟨s, hrun⟩ := run_parting
  obtain ⟨hall, _, hclosed, hrefused, _⟩ := keeps_messages hrun
  have hleft := (hclosed .transport .closed (parting.take 7) (parting.drop 8) rfl).2
  have hgone := (hrefused .transport _ _ (parting.take 10) [] rfl).mp rfl
  have hthere := (hrefused .transport _ _ (parting.take 8) (parting.drop 9) rfl).not.mp (by simp)
  exact ⟨s, hrun, hall .transport, hall .app, rfl, hleft, hgone, hthere⟩

end Waymark.Channel
