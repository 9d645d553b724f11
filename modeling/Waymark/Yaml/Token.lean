/-!
# Tokens of YAML

A text is read as a list of tokens in which layout is spelled out: the start of
a block is a token, its end is another, and every key is announced before the
node that is the key.
-/

namespace Waymark.Yaml

/-- How a scalar is written. Only the plain and the literal style can be read as something
other than text. -/
inductive ScalarStyle where
  | plain
  | singleQuoted
  | doubleQuoted
  | literal
  | folded
  deriving DecidableEq

inductive Token where
  /-- A directive that gives the version. -/
  | version (major minor : Nat)
  /-- A directive that lets a handle stand for the start of tags. -/
  | tagHandle (handle start : String)
  | documentStart
  | documentEnd
  | blockSequence
  | blockMapping
  | blockEnd
  | sequenceOpen
  | sequenceClose
  | mappingOpen
  | mappingClose
  /-- The dash of a block sequence. -/
  | dash
  /-- The comma of a flow collection. -/
  | comma
  | key
  | value
  | alias (name : String)
  | anchor (name : String)
  | tag (handle suffix : String)
  | scalar (style : ScalarStyle) (text : String)
  deriving DecidableEq

end Waymark.Yaml
