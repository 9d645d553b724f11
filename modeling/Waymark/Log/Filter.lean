import Waymark.Log.Directive

/-!
# Filters

A filter keeps its directives with the more specific ones in front: those with
a longer target first, then those with more fields. The first directive that
is about an event decides whether it is shown. Directives about spans show no
event by themselves.
-/

namespace Waymark.Log

namespace Directive

def fieldNames (d : Directive) : List String := d.fields.map (·.name)

/-- Whether the directive is about an event. -/
def isAbout (d : Directive) (e : Event) : Bool :=
  d.target.all (fun t => t.toList.isPrefixOf e.target.toList) &&
    d.fieldNames.all fun f => e.fields.contains f

/-- The order of options in which nothing comes first. -/
def compareOption (cmp : α → α → Ordering) : Option α → Option α → Ordering
  | none, none => .eq
  | none, some _ => .lt
  | some _, none => .gt
  | some a, some b => cmp a b

/-- How specific a directive is compared with another: by the length of its target in bytes,
the number of its fields, and last by the texts themselves. -/
def specificity (d e : Directive) : Ordering :=
  (compareOption compare (d.target.map String.utf8ByteSize)
      (e.target.map String.utf8ByteSize)).then <|
    (compare d.fields.length e.fields.length).then <|
      (compareOption compare d.target e.target).then <|
        (compare d.fieldNames e.fieldNames)

/-- Puts a directive into a list in which more specific ones stand in front, in place of one
that is about the same events. -/
def insertInto (d : Directive) : List Directive → List Directive
  | [] => [d]
  | e :: es =>
    match d.specificity e with
    | .gt => d :: e :: es
    | .eq => d :: es
    | .lt => e :: insertInto d es

end Directive

structure Filter where
  /-- The directives that decide about events, the more specific ones in front. -/
  directives : List Directive
  /-- What is beyond this is not shown whatever the directives say. -/
  ceiling : Threshold

namespace Filter

def empty : Filter := ⟨[], none⟩

/-- The filter with one more directive. The ceiling is never lowered; values of fields are
known only later, so a directive with values lifts it altogether. -/
def add (f : Filter) (d : Directive) : Filter :=
  { directives := if d.isStatic then d.insertInto f.directives else f.directives
    ceiling := Threshold.wider f.ceiling (if d.hasValues then some .trace else d.threshold) }

/-- The filter of some directives; without any it shows nothing. -/
def ofDirectives (ds : List Directive) : Filter := ds.foldl add empty

/-- The directives of a list with commas; `none` if one of them cannot be read. -/
def readAll? (s : String) : Option (List Directive) :=
  ((Text.pieces ',' s.toList).filter (!·.isEmpty)).mapM fun p => Directive.read? (String.ofList p)

/-- Whether the directives show an event. -/
def shows (f : Filter) (e : Event) : Bool :=
  match f.directives.find? (·.isAbout e) with
  | some d => d.threshold.shows e.level
  | none => false

end Filter

end Waymark.Log
