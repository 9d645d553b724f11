import Waymark.Message.Basic

/-!
# Channel pairs

Two connected ends in memory: what one end sends, the other receives in the
same order. An end has a sender and a receiver, which go one after the other
when it is dropped. Without its receiver it cannot be sent to any more, and
without its sender nothing more comes from it, but what it sent before can
still be received.
-/

namespace Waymark

/-- The other end of a channel is gone. -/
inductive ChannelError where
  | closed
  deriving DecidableEq

def ChannelError.message : ChannelError → String
  | .closed => "channel closed"

namespace Channel

inductive End where
  | app
  | transport
  deriving DecidableEq

def End.peer : End → End
  | .app => .transport
  | .transport => .app

@[simp] theorem End.peer_peer (e : End) : e.peer.peer = e := by cases e <;> rfl

/-- One end: what waits to be received there, and which of its halves were dropped. -/
structure Side where
  queue : List Message
  senderGone : Bool
  receiverGone : Bool
  deriving DecidableEq

structure Pair where
  app : Side
  transport : Side
  deriving DecidableEq

namespace Pair

/-- A fresh pair. -/
def new : Pair := ⟨⟨[], false, false⟩, ⟨[], false, false⟩⟩

def side (p : Pair) : End → Side
  | .app => p.app
  | .transport => p.transport

def setSide (p : Pair) (e : End) (s : Side) : Pair :=
  match e with
  | .app => { p with app := s }
  | .transport => { p with transport := s }

theorem side_setSide (p : Pair) (e f : End) (s : Side) :
    (p.setSide e s).side f = if f = e then s else p.side f := by
  cases e <;> cases f <;> rfl

/-- Sends from an end; the message is lost if nothing can be received at the other end. -/
def send (p : Pair) (e : End) (m : Message) : Except ChannelError Pair :=
  let peer := p.side e.peer
  if peer.receiverGone then .error .closed
  else .ok (p.setSide e.peer { peer with queue := peer.queue ++ [m] })

/-- What an end finds when it looks for a message. -/
inductive Received where
  | message (m : Message)
  | closed
  /-- Nothing has been sent, but the other end may still send. -/
  | waiting
  deriving DecidableEq

/-- Takes the next message at an end. -/
def receive (p : Pair) (e : End) : Received × Pair :=
  match (p.side e).queue with
  | m :: rest => (.message m, p.setSide e { p.side e with queue := rest })
  | [] => (if (p.side e.peer).senderGone then .closed else .waiting, p)

/-- Takes all messages that wait at an end. -/
def drain (p : Pair) (e : End) : List Message × Pair :=
  ((p.side e).queue, p.setSide e { p.side e with queue := [] })

/-- Drops the sender of an end. -/
def dropSender (p : Pair) (e : End) : Pair := p.setSide e { p.side e with senderGone := true }

/-- Drops the receiver of an end. -/
def dropReceiver (p : Pair) (e : End) : Pair := p.setSide e { p.side e with receiverGone := true }

/-- Drops an end, its sender first. -/
def drop (p : Pair) (e : End) : Pair := (p.dropSender e).dropReceiver e

end Pair

end Channel

end Waymark
