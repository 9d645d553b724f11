import Waymark.Command.Basic
import Waymark.Text.Cut

/-!
# Command lines

The words of a command line as a command. An option is given as `--name value`,
`--name=value`, `-n value`, `-nvalue` or `-n=value`; flags of one letter can be
put together; after `--` every word stands for itself. A word that starts like
an option is never the value of the option before it, and it is read before
the option before it is found to lack its value.
-/

namespace Waymark

/-- Why a command line is no command. -/
inductive UsageError where
  /-- Help was asked for. -/
  | help
  /-- There is no word at all, which shows help too. -/
  | noCommand
  | unknownCommand
  | unknownArgument
  | missingArgument
  | missingValue
  /-- A flag was given a value. -/
  | unneededValue
  | repeated
  deriving DecidableEq

namespace CommandLine

/-- How often an argument may be given, and with how many values. -/
inductive Arity where
  /-- Without a value, once. -/
  | flag
  | once
  | repeatedly
  deriving DecidableEq

structure Argument where
  name : String
  short : Option Char := none
  arity : Arity := .once
  /-- Whether the value is a path, which cannot be empty. -/
  isPath : Bool := false
  required : Bool := false
  deriving DecidableEq

def Argument.isHelp (a : Argument) : Bool := a.name == "help"

/-- The arguments of a command: options, and words by position. -/
structure Grammar where
  options : List Argument
  positions : List Argument

def help : Argument := { name := "help", short := some 'h', arity := .flag }

def Grammar.option? (g : Grammar) (name : String) : Option Argument :=
  (help :: g.options).find? fun a => a.name == name

def Grammar.short? (g : Grammar) (c : Char) : Option Argument :=
  (help :: g.options).find? fun a => a.short == some c

/-- The arguments that have been given, and the one whose values are being read. -/
structure Reading where
  given : List (String × List String) := []
  pending : Option (Argument × List String) := none
  /-- Whether the pending argument is an option that lacks its value. -/
  wanting : Bool := false
  /-- How many positions are filled. -/
  position : Nat := 0
  /-- Whether `--` has been read. -/
  literal : Bool := false

namespace Reading

/-- Takes an argument with its values. -/
def commit (r : Reading) (a : Argument) (values : List String) : Except UsageError Reading := do
  if a.arity ≠ .flag && values.isEmpty then throw .missingValue
  if a.isHelp then throw .help
  if a.arity ≠ .repeatedly && r.given.any (fun g => g.1 == a.name) then throw .repeated
  if a.isPath && values.contains "" then throw .missingValue
  return { r with given := r.given ++ [(a.name, values)] }

/-- Takes the pending argument. -/
def settle (r : Reading) : Except UsageError Reading :=
  match r.pending with
  | some (a, values) => { r with pending := none, wanting := false }.commit a values
  | none => .ok r

/-- Takes an argument with its values, after the pending one. -/
def take (r : Reading) (a : Argument) (values : List String) : Except UsageError Reading := do
  (← r.settle).commit a values

/-- Begins an option whose value is the next word. -/
def await (r : Reading) (a : Argument) : Except UsageError Reading := do
  return { ← r.settle with pending := some (a, []), wanting := true }

/-- A word after two dashes: a name, and perhaps a value after an equals sign. -/
def long (g : Grammar) (r : Reading) (word : List Char) : Except UsageError Reading :=
  let (name, value) : List Char × Option (List Char) := match Text.cutAt? '=' word with
    | some (name, value) => (name, some value)
    | none => (word, none)
  match g.option? (String.ofList name), value with
  | none, _ => .error .unknownArgument
  | some a, some value =>
    if a.arity = .flag then .error .unneededValue else r.take a [String.ofList value]
  | some a, none => if a.arity = .flag then r.take a [] else r.await a

/-- The letters after one dash. What follows the letter of an option is its value. -/
def shorts (g : Grammar) (r : Reading) : List Char → Except UsageError Reading
  | [] => .ok r
  | c :: cs =>
    match g.short? c with
    | none => .error .unknownArgument
    | some a =>
      if a.arity = .flag then do shorts g (← r.take a []) cs
      else match cs with
        | [] => r.await a
        | '=' :: value => r.take a [String.ofList value]
        | value => r.take a [String.ofList value]

/-- A word by position. -/
def positional (g : Grammar) (r : Reading) (word : String) : Except UsageError Reading :=
  match g.positions[r.position]? with
  | none => .error .unknownArgument
  | some a => do
    let r ← r.settle
    return { r with
      pending := some (a, [word])
      position := if a.arity = .repeatedly then r.position else r.position + 1 }

/-- One word of the command line. -/
def word (g : Grammar) (r : Reading) (w : String) : Except UsageError Reading :=
  if r.literal then r.positional g w
  else match w.toList with
    | ['-', '-'] => .ok { r with literal := true }
    | '-' :: '-' :: name => r.long g name
    | '-' :: c :: cs => r.shorts g (c :: cs)
    | _ =>
      match r.pending with
      | some (a, values) =>
        if r.wanting then .ok { r with pending := some (a, values ++ [w]), wanting := false }
        else r.positional g w
      | none => r.positional g w

/-- The values of an argument, in the order in which they were given. -/
def values (r : Reading) (name : String) : List String :=
  (r.given.filter fun g => g.1 == name).flatMap (·.2)

def value? (r : Reading) (name : String) : Option String := (r.values name).head?

def has (r : Reading) (name : String) : Bool := r.given.any fun g => g.1 == name

end Reading

/-- Reads the words of a command. -/
def Grammar.read (g : Grammar) (words : List String) : Except UsageError Reading := do
  let r ← (← words.foldlM (Reading.word g) {}).settle
  if (g.options ++ g.positions).any fun a => a.required && !r.has a.name then
    throw .missingArgument
  return r

/-! ## The commands -/

def table : Argument := { name := "table", short := some 't', isPath := true, required := true }

def listGrammar : Grammar := ⟨[table, { name := "schema", arity := .flag }], []⟩

def dispatchGrammar : Grammar :=
  ⟨[table, { name := "method", short := some 'm' },
      { name := "path", short := some 'p', required := true }, { name := "host" },
      { name := "query" }, { name := "socket", arity := .flag },
      { name := "send", arity := .repeatedly }], []⟩

def reverseGrammar : Grammar :=
  ⟨[table, { name := "base" }],
    [{ name := "name", required := true }, { name := "params", arity := .repeatedly }]⟩

def list (r : Reading) : Command := .list ((r.value? "table").getD "") (r.has "schema")

def dispatch (r : Reading) : Command :=
  .dispatch ((r.value? "table").getD "")
    { method := (r.value? "method").getD "GET"
      path := (r.value? "path").getD ""
      host := r.value? "host"
      query := (r.value? "query").getD ""
      socket := r.has "socket"
      frames := r.values "send" }

def reverse (r : Reading) : Command :=
  .reverse ((r.value? "table").getD "") ((r.value? "name").getD "") (r.values "params")
    (r.value? "base")

def names : List String := ["routes", "match", "url-for", "help"]

/-- The name of a command with the words after it. -/
def command (name : String) (words : List String) : Except UsageError Command :=
  match name with
  | "routes" => list <$> listGrammar.read words
  | "match" => dispatch <$> dispatchGrammar.read words
  | "url-for" => reverse <$> reverseGrammar.read words
  | "help" =>
    match words with
    | [] => .error .help
    | [name] => if names.contains name then .error .help else .error .unknownCommand
    | _ => .error .unknownCommand
  | _ => .error .unknownCommand

/-- The command of a command line. In front of the name of a command stands nothing but the
wish for help. -/
def read : List String → Except UsageError Command
  | [] => .error .noCommand
  | w :: words =>
    match w.toList with
    | ['-', '-'] =>
      match words with
      | [] => .error .noCommand
      | name :: _ => if names.contains name then .error .unknownArgument else .error .unknownCommand
    | '-' :: '-' :: name => (Reading.long ⟨[], []⟩ {} name).bind fun _ => .error .unknownArgument
    | '-' :: c :: cs => (Reading.shorts ⟨[], []⟩ {} (c :: cs)).bind fun _ => .error .unknownArgument
    | _ => command w words

end CommandLine

end Waymark
