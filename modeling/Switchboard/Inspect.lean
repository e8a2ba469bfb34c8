import Switchboard.Routes

/-!
# Values written out

The form in which outcomes and routes are written out for inspection: the name of the case, and its
parts in parentheses or, with their names, in braces. Texts are quoted.
-/

namespace Switchboard

/-- A case with named parts. -/
def inspectFields (name : String) (fields : List (String × String)) : String :=
  name ++ " \x7b " ++
    String.intercalate ", " (fields.map fun (field, value) ↦ field ++ ": " ++ value) ++ " \x7d"

/-- A case with one part. -/
def inspectCase (name value : String) : String :=
  name ++ "(" ++ value ++ ")"

/-- The kind of a slot. -/
def Placeholder.inspect : Placeholder → String
  | .str => "Str"
  | .uint => "UInt"
  | .float => "Float"

/-- The cause of a failure. -/
def CommandFault.inspect : CommandFault → String
  | .failed text => inspectCase "Failed" (Text.quoted text)
  | .noHandler command => inspectFields "NoHandlerFound" [("command", Text.quoted command)]
  | .unknownAlias name => inspectFields "UnrecognizedAlias" [("alias", Text.quoted name)]
  | .wrongArity got => inspectFields "InvalidArity" [("got", toString got)]
  | .aliasTooDeep name limit =>
    inspectFields "AliasDepthExceeded" [("alias", Text.quoted name), ("depth", toString limit)]
  | .followerBusy => "WatcherBusy"
  | .promiseDropped => "PromiseDropped"
  | .promisePanicked => "PromisePanicked"
  | .followerStopped => "WatcherStopped"
  | .missingArgument index => inspectFields "MissingArgument" [("index", toString index)]
  | .invalidArgument index expected value =>
    inspectFields "InvalidArgument"
      [("index", toString index), ("expected", expected.inspect), ("value", Text.quoted value)]

/-- A promise, by the way in which it is followed. -/
def Promise.inspect : Promise → String
  | .channel _ => inspectFields "Promise" [("source", Text.quoted "oneshot")]
  | .poll _ => inspectFields "Promise" [("source", Text.quoted "poll")]

/-- An outcome. -/
def Outcome.inspect : Outcome → String
  | .done message => inspectCase "Success" (Text.quoted message)
  | .failed fault => inspectCase "Error" fault.inspect
  | .pending promise => inspectCase "Pending" promise.inspect

/-- A piece of a template. -/
def Segment.inspect : Segment → String
  | .literal text => inspectCase "Literal" (Text.quoted text)
  | .placeholder kind => inspectCase "Placeholder" kind.inspect

/-- A template with all that is derived from it. -/
def Template.inspect (template : Template) : String :=
  inspectFields "CommandTemplate"
    [("raw", Text.quoted template.raw),
      ("segments", "[" ++ String.intercalate ", " (template.segments.map Segment.inspect) ++ "]"),
      ("pattern", Text.quoted template.pattern),
      ("matcher", inspectCase "Regex" (Text.quoted template.anchoredPattern))]

/-- The kind of a handler. -/
def Handler.inspect {σ : Type} : Handler σ → String
  | .external _ => "External"
  | .runAlias => "RunAlias"

/-- A route. -/
def Route.inspect {σ : Type} (route : Route σ) : String :=
  inspectFields "RegistryEntry"
    [("template", route.template.inspect), ("handler", route.handler.inspect),
      ("description", Text.quoted route.description)]

end Switchboard
