import Waymark.Channel.Pair

/-!
# Failures

A handler fails with a chain of reasons, the outermost first. A dispatch fails
with a cause of its own, which may carry such a chain.
-/

namespace Waymark

structure Failure where
  reasons : List String
  deriving DecidableEq

namespace Failure

/-- The reasons in one line. -/
def text (f : Failure) : String := Text.joined ": " f.reasons

/-- The lines of a reason that led to another, set in below it. With a number it is one of
several. -/
def causeLines (number : Option Nat) (reason : String) : List String :=
  let indent (first more : String) : List String :=
    match (Text.pieces '\n' reason.toList).map String.ofList with
    | [] => []
    | l :: ls => (first ++ l) :: ls.map (more ++ ·)
  match number with
  | some n =>
    let digits := String.ofList (Nat.toDigits 10 n)
    let filled := String.ofList (List.replicate (5 - digits.length) ' ') ++ digits
    indent (filled ++ ": ") "       "
  | none => indent "    " "    "

/-- The failure in full: the outermost reason, then the others below a heading. -/
def report (f : Failure) : String :=
  match f.reasons with
  | [] => ""
  | [r] => r
  | [r, cause] => Text.joined "\n" (r :: "" :: "Caused by:" :: causeLines none cause)
  | r :: causes => Text.joined "\n" (r :: "" :: "Caused by:" ::
      causes.zipIdx.flatMap fun (cause, n) => causeLines (some n) cause)

/-- The failure with a further reason around it. -/
def within (f : Failure) (reason : String) : Failure := ⟨reason :: f.reasons⟩

def ofChannel (e : ChannelError) : Failure := ⟨[e.message]⟩

end Failure

inductive DispatchError where
  | methodNotAllowed (method path : String)
  | notFound (path : String)
  | channel (error : ChannelError)
  | handler (name : String) (failure : Failure)
  | handlerPanicked (name message : String)
  | poolUnavailable
  | startupFailed (detail : String)
  | shutdownFailed (failures : List String)
  /-- A message came that the handshake of the lifecycle does not allow. -/
  | unexpected (expected got : String)
  deriving DecidableEq

namespace DispatchError

def message : DispatchError → String
  | .methodNotAllowed method path => "method " ++ method ++ " not allowed for " ++ path
  | .notFound path => "no route for " ++ path
  | .channel e => e.message
  | .handler name failure => "handler '" ++ name ++ "' failed: " ++ failure.text
  | .handlerPanicked name message => "handler '" ++ name ++ "' panicked: " ++ message
  | .poolUnavailable => "blocking worker pool is not accepting work"
  | .startupFailed detail => "startup failed: " ++ detail
  | .shutdownFailed failures =>
    toString failures.length ++ " shutdown handler(s) failed: " ++ Text.joined "; " failures
  | .unexpected expected got =>
    "expected '" ++ expected ++ "' message, got '" ++ got ++ "'"

/-- The error as a chain of reasons. -/
def toFailure (e : DispatchError) : Failure :=
  match e with
  | .handler _ failure => failure.within e.message
  | _ => ⟨[e.message]⟩

end DispatchError

end Waymark
