import Waymark.Log.Filter
import Waymark.Log.Sampling
import Waymark.RuntimeConfig

/-!
# Settings of the log

What is shown and how, from the environment. A variable that cannot be read
leaves the setting as it is by default; a further directive that cannot be
read is passed over with a warning.
-/

namespace Waymark.Log

inductive Format where
  | json
  | pretty
  deriving DecidableEq

/-- The format of a name; an unknown name is JSON. -/
def Format.read (s : String) : Format := if Text.lower s == "pretty" then .pretty else .json

structure Settings where
  level : String
  format : Format
  sampling : SamplingMode
  rate : Binary64
  /-- Whether events are written in the background. -/
  background : Bool
  /-- Further directives, with commas between them. -/
  directives : Option String
  /-- Whether the place in the program is shown with an event. -/
  location : Bool

namespace Settings

/-- A tenth. -/
def defaultRate : Binary64 := .ofRatio false 1 10

def ofEnvironment (env : Environment) : Settings :=
  let flag (name : String) : Bool := ((env.get? name).bind RuntimeConfig.readBool?).getD false
  { level := (env.get? "TRAMLINE_LOG_LEVEL").getD "info"
    format := .read ((env.get? "TRAMLINE_LOG_FORMAT").getD "json")
    sampling := .read ((env.get? "TRAMLINE_LOG_SAMPLING_MODE").getD "all")
    rate := ((env.get? "TRAMLINE_LOG_SAMPLING_RATE").bind Binary64.read?).getD defaultRate
    background := flag "TRAMLINE_LOG_ASYNC"
    directives := env.get? "TRAMLINE_LOG_FILTER"
    location := flag "TRAMLINE_LOG_LOCATION" }

/-- Settings for work on the program itself. -/
def development : Settings :=
  ⟨"debug", .pretty, .all, .ofInt 1, false, none, true⟩

/-- The level that is asked for; an unknown name asks for `info`. -/
def leastLevel (s : Settings) : Level :=
  match Text.lower s.level with
  | "trace" => .trace
  | "debug" => .debug
  | "warn" => .warn
  | "error" => .error
  | _ => .info

/-- The filter before the further directives. The variable `RUST_LOG` goes before the level if
all its directives can be read. -/
def baseFilter (s : Settings) (env : Environment) : Filter :=
  match (env.get? "RUST_LOG").bind Filter.readAll? with
  | some ds => .ofDirectives ds
  | none => .ofDirectives [.ofThreshold (some s.leastLevel)]

/-- The further directives as they are written. -/
def extra (s : Settings) : List String :=
  match s.directives with
  | none => []
  | some list => ((Text.pieces ',' list.toList).map fun p => Text.trim (String.ofList p)).filter
      (!·.isEmpty)

/-- The further directives that cannot be read. -/
def invalid (s : Settings) : List String := s.extra.filter fun d => (Directive.read? d).isNone

def warnings (s : Settings) : List String :=
  s.invalid.map fun d => "Warning: Invalid log filter directive: " ++ d

def filter (s : Settings) (env : Environment) : Filter :=
  (s.extra.filterMap Directive.read?).foldl Filter.add (s.baseFilter env)

end Settings

/-- What decides which events are shown. -/
structure Subscriber where
  filter : Filter
  sampler : Sampler

namespace Subscriber

def new (s : Settings) (env : Environment) : Subscriber :=
  ⟨s.filter env, .new s.sampling s.rate⟩

/-- Whether an event is shown, and the subscriber after it. Events below the ceiling of the
filter are sampled, also those that the filter does not show. -/
def offer (s : Subscriber) (e : Event) : Bool × Subscriber :=
  if s.filter.ceiling.shows e.level then
    let (passed, sampler) := s.sampler.offer (.event e.level)
    (passed && s.filter.shows e, { s with sampler := sampler })
  else (false, s)

/-- Which of the events are shown, one after the other. -/
def offerAll : Subscriber → List Event → List Bool
  | _, [] => []
  | s, e :: es => (s.offer e).1 :: offerAll (s.offer e).2 es

/-- The events that are shown. -/
def shown (s : Subscriber) (es : List Event) : List Event :=
  ((s.offerAll es).zip es).filterMap fun (passed, e) => if passed then some e else none

end Subscriber

end Waymark.Log
