import Switchboard.Files
import Switchboard.Settings
import Switchboard.Yaml.Value

/-!
# Settings in a document

A document maps the names of settings to their values; settings that it does not name keep their
defaults, and entries that name no setting do not count. Numbers are plain scalars, whole and below
2^64. The file with aliases is any scalar as text, or nothing.
-/

namespace Switchboard.Settings

open Yaml (Document Node Reader Scalar)

/-- The settings that a document can name. -/
inductive Field where
  | pollInterval
  | waitTimeout
  | maxArguments
  | maxAliasDepth
  | aliasFile
  deriving DecidableEq

/-- The setting with a name. -/
def Field.ofName? : String → Option Field
  | "poll_interval" => some .pollInterval
  | "wait_timeout" => some .waitTimeout
  | "max_args" => some .maxArguments
  | "max_alias_depth" => some .maxAliasDepth
  | "alias_file" => some .aliasFile
  | _ => none

/-- A number: a plain scalar, or a literal block that is tagged as a whole number. -/
def readNatural (document : Document) (node : Node) : Reader Nat := do
  match ← document.follow node with
  | .scalar tag style text =>
    if style == .plain || (style == .literal && tag == some (Scalar.coreTag "int")) then
      (Scalar.natural? text : Option Nat)
    else failure
  | _ => failure

/-- The name of a file, or nothing: a plain scalar without a tag that is empty or stands for
nothing, or one that is tagged as nothing and stands for it. -/
def readPath (document : Document) (node : Node) : Reader (Option String) := do
  match ← document.follow node with
  | .scalar tag style text =>
    if style != .plain then return some text
    else
      match tag with
      | none => return if text.isEmpty || Scalar.isNull text then none else some text
      | some tag =>
        if tag != Scalar.coreTag "null" then return some text
        else if Scalar.isNull text then return none
        else failure
  | _ => failure

/-- The settings with one field read from its value. -/
def readField (document : Document) (settings : Settings) (value : Node) : Field → Reader Settings
  | .pollInterval => return { settings with pollInterval := ← readNatural document value }
  | .waitTimeout => return { settings with waitTimeout := ← readNatural document value }
  | .maxArguments => return { settings with maxArguments := ← readNatural document value }
  | .maxAliasDepth => return { settings with maxAliasDepth := ← readNatural document value }
  | .aliasFile => return { settings with aliasFile := ← readPath document value }

/-- Read the entries of a document, given the fields that were named already. No field is named
twice. -/
def readEntries (document : Document) : List (Node × Node) → List Field → Settings → Reader Settings
  | [], _, settings => return settings
  | (key, value) :: rest, seen, settings => do
    match Field.ofName? (← document.textOf key) with
    | none => readEntries document rest seen settings
    | some field =>
      if seen.contains field then failure
      else readEntries document rest (field :: seen) (← readField document settings value field)

/-- The settings that a text describes. -/
def ofText? (text : String) : Option Settings := do
  let document ← Document.ofText? text
  let entries ← document.entries?
  (readEntries document entries [] {}).run' document.aliasLimit

/-- The settings that a file describes. -/
def ofFile (files : FileSource) (path : String) : Except LoadFault Settings :=
  match files.text path with
  | .error fault => .error (.unreadable path fault)
  | .ok text =>
    match ofText? text with
    | some settings => .ok settings
    | none => .error (.malformed (Text.quotedPath path))

end Switchboard.Settings
