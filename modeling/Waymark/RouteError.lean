import Waymark.Text.Cut

/-!
# Faults of a registration

A template or a method name that is wrong is refused when its node is built,
so a tree that exists has only templates that can be matched.
-/

namespace Waymark

inductive RouteError where
  /-- A hole names a converter that is not registered. -/
  | unknownConverter (converter template : String)
  /-- Two holes of a template have one name. -/
  | duplicateParameter (name template : String)
  /-- A routed path does not start with a slash. -/
  | relativePath (template : String)
  /-- The pattern of a converter cannot be read. -/
  | invalidPattern (template : String)
  /-- A method name is no token. -/
  | invalidMethod (method : String)
  deriving DecidableEq

def RouteError.message : RouteError → String
  | .unknownConverter converter template =>
    "unknown path converter '" ++ converter ++ "' in template '" ++ template ++ "'"
  | .duplicateParameter name template =>
    "invalid template '" ++ template ++ "': duplicate parameter '" ++ name ++ "'"
  | .relativePath template =>
    "invalid template '" ++ template ++ "': routed paths must start with '/'"
  | .invalidPattern template =>
    "template '" ++ template ++ "' compiled to an invalid pattern"
  | .invalidMethod method => "invalid HTTP method '" ++ method ++ "'"

end Waymark
