import Waymark.Json.Basic
import Waymark.Table.Basic
import Waymark.Yaml.Reading

/-!
# Reading route tables

A table is read from YAML or from a JSON value by the same rules. Every field
but the entries of the table may be missing, none may be given twice, and only
the settings may have fields that are not known.
-/

namespace Waymark

/-- The readings of a data format. They go one after the other, and each of them may fail. -/
class Reading (m : Type → Type) extends Monad m, Alternative m

instance : Reading Option where

instance : Reading Yaml.Following where

/-- How the values of a data format are read as the parts of a record. A value may stand for
another one, which is found by `resolve`; the other readings are given resolved values, and are
`none` for a value that is something else. -/
structure RecordFormat (m : Type → Type) (ν : Type) where
  resolve : ν → m ν
  text? : ν → Option String
  flag? : ν → Option Bool
  size? : ν → Option Nat
  /-- Whether the value stands for nothing. -/
  absent? : ν → Option Bool
  items? : ν → Option (List ν)
  /-- The fields of a record that declares those names. -/
  fields : List String → ν → m (List (String × ν))

namespace RecordFormat

variable {m : Type → Type} [Reading m] {ν : Type}

/-- A reading of resolved values as one of all values. -/
def read (F : RecordFormat m ν) (read? : ν → Option α) (v : ν) : m α := do
  (read? (← F.resolve v)).getM

def items (F : RecordFormat m ν) (v : ν) : m (List ν) := F.read F.items? v

def text (F : RecordFormat m ν) (v : ν) : m String := F.read F.text? v

def texts (F : RecordFormat m ν) (v : ν) : m (List String) := do
  (← F.items v).mapM F.text

/-! ## Fields -/

/-- The value of a field; none if it is missing, no reading if it is given twice. -/
def field? (name : String) (fields : List (String × ν)) : Option (Option ν) :=
  match fields.filter fun f => f.1 == name with
  | [] => some none
  | [f] => some (some f.2)
  | _ => none

/-- A field that may be missing and then has a value all the same. -/
def withDefault (read : ν → m α) (default : α) (name : String) (fields : List (String × ν)) :
    m α := do
  match ← (field? name fields).getM with
  | none => return default
  | some v => read v

/-- A field that may be missing or stand for nothing. -/
def optional (F : RecordFormat m ν) (read : ν → m α) (name : String)
    (fields : List (String × ν)) : m (Option α) :=
  withDefault (fun v => do
    let v ← F.resolve v
    if ← (F.absent? v).getM then return none else return some (← read v)) none name fields

/-- The fields of a record that has none but the declared ones. -/
def strictFields (F : RecordFormat m ν) (names : List String) (v : ν) :
    m (List (String × ν)) := do
  let fields ← F.fields names (← F.resolve v)
  if fields.all fun f => names.contains f.1 then return fields else failure

/-! ## Records of a table -/

def runtimeNames : List String := ["worker_stack_size", "blocking_workers", "redirect_slashes"]

def runtime (F : RecordFormat m ν) (v : ν) : m RuntimeConfig := do
  let defaults : RuntimeConfig := {}
  let size := F.read F.size?
  let flag := F.read F.flag?
  let fields ← F.fields runtimeNames (← F.resolve v)
  return {
    workerStackSize := ← withDefault size defaults.workerStackSize "worker_stack_size" fields
    blockingWorkers := ← withDefault size defaults.blockingWorkers "blocking_workers" fields
    redirectSlashes := ← withDefault flag defaults.redirectSlashes "redirect_slashes" fields }

def entryNames : List String :=
  ["path", "socket", "mount", "host", "name", "methods", "include_in_schema", "routes"]

/-- An entry, with the entries below it nested less than `fuel` deep. -/
def entry (F : RecordFormat m ν) : (fuel : Nat) → ν → m RouteEntry
  | 0, _ => failure
  | fuel + 1, v => do
    let fields ← F.strictFields entryNames v
    let below ← withDefault F.items [] "routes" fields
    return {
      path := ← F.optional F.text "path" fields
      socket := ← F.optional F.text "socket" fields
      mount := ← F.optional F.text "mount" fields
      host := ← F.optional F.text "host" fields
      name := ← F.optional F.text "name" fields
      methods := ← F.optional F.texts "methods" fields
      includeInSchema := ← withDefault (F.read F.flag?) true "include_in_schema" fields
      routes := ← below.mapM (F.entry fuel) }

def tableNames : List String := ["runtime", "routes"]

/-- A table whose entries are nested at most `depth` deep. -/
def table (F : RecordFormat m ν) (depth : Nat) (v : ν) : m RouteTable := do
  let fields ← F.strictFields tableNames v
  let runtime ← withDefault F.runtime {} "runtime" fields
  match ← (field? "routes" fields).getM with
  | none => failure
  | some entries => return ⟨runtime, ← (← F.items entries).mapM (F.entry depth)⟩

/-! ## Formats -/

/-- Records in a YAML document are mappings, and aliases stand for other nodes. -/
def ofDocument (d : Yaml.Document) : RecordFormat Yaml.Following Yaml.Node where
  resolve := d.follow
  text? := Yaml.Node.text?
  flag? := Yaml.Node.flag?
  size? := Yaml.Node.size?
  absent? := Yaml.Node.absent?
  items? := Yaml.Node.items?
  fields _ := d.fields

/-- Records in JSON are objects, of which the last member of a name counts, or arrays of the
fields in the order of declaration. -/
def json : RecordFormat Option Json where
  resolve := some
  text? := Json.str?
  flag? := Json.bool?
  size? j := j.nat?.filter (· ≤ Text.word64Max)
  absent? j := some j.isNull
  items? := Json.arr?
  fields names j := match j with
    | .obj members => some (Json.sortedMembers members [])
    | .arr items => if items.length ≤ names.length then some (names.zip items) else none
    | _ => none

end RecordFormat

namespace RouteTable

/-- A YAML document nests at most 128 collections, of which the table is one and every entry
with the list around it are two. -/
def yamlDepth : Nat := 63

/-- The table that a YAML text holds. -/
def ofYaml? (text : String) : Option RouteTable := do
  let d ← Yaml.Document.read? text
  ((RecordFormat.ofDocument d).table yamlDepth d.root).run' d.allowance

/-- The table that a JSON value holds. -/
def ofJson? (j : Json) : Option RouteTable := RecordFormat.json.table 128 j

end RouteTable

end Waymark
