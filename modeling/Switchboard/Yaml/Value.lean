import Switchboard.Yaml.Node
import Switchboard.Yaml.Scalar

/-!
# What documents say

`Value` is the content of a node with every alias replaced by what it stands for. Two limits keep
that finite and small: collections nest at most 128 deep, and all aliases together are followed at
most a hundred times as often as the document has events. `Reader` is a computation that may fail
and keeps count of the aliases that may still be followed.
-/

namespace Switchboard.Yaml

/-- The content of a node. -/
inductive Value where
  | scalar (value : Scalar)
  | list (items : List Value)
  | map (entries : List (Value × Value))

/-- A computation that may fail and may follow a number of aliases. -/
abbrev Reader (α : Type) := StateT Nat Option α

namespace Document

/-- How many times aliases may be followed in the document. -/
def aliasLimit (document : Document) : Nat :=
  100 * document.size

/-- The node itself, or the node that an alias stands for. -/
def follow (document : Document) : Node → Reader Node
  | .alias id => do
    match ← get with
    | 0 => failure
    | left + 1 =>
      set left
      document.target? id
  | node => pure node

end Document

/-- The greatest depth of nested collections. -/
def maxDepth : Nat := 128

namespace Value

/-- The content of a scalar, unless its value cannot be told. -/
def ofScalar (tag : Option String) (style : Style) (text : String) : Reader Value :=
  (Scalar.resolve? tag style text).elim failure fun value ↦ pure (.scalar value)

/-- The content of a node that is no alias, given how the nodes in it are read. Collections with a
local tag have none. -/
def readIn (read : Node → Reader Value) : Node → Reader Value
  | .alias _ => failure
  | .scalar tag style text => ofScalar tag style text
  | .sequence tag items =>
    if Scalar.isLocalTag tag then failure else Value.list <$> items.mapM read
  | .mapping tag entries =>
    if Scalar.isLocalTag tag then failure
    else
      Value.map <$> entries.mapM fun (key, value) ↦ do
        let name ← read key
        return (name, ← read value)

/-- The content of a node in which collections may nest to the given depth. -/
def read (document : Document) : Nat → Node → Reader Value
  | 0, node => do
    match ← document.follow node with
    | .scalar tag style text => ofScalar tag style text
    | _ => failure
  | depth + 1, node => do readIn (read document depth) (← document.follow node)

end Value

namespace Document

/-- The text of a scalar, whatever its tag and its style; collections have none. -/
def textOf (document : Document) (node : Node) : Reader String := do
  match ← document.follow node with
  | .scalar _ _ text => return text
  | _ => failure

/-- The entries of the mapping that the document is. A document without content has none, and a root
that is no mapping has no entries to give. -/
def entries? (document : Document) : Option (List (Node × Node)) :=
  match document.root with
  | none => some []
  | some (.scalar _ style text) => if style == .plain && text.isEmpty then some [] else none
  | some (.mapping _ entries) => some entries
  | some _ => none

end Document

end Switchboard.Yaml
