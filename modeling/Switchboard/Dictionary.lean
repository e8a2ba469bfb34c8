/-!
# Dictionaries

A dictionary says what names stand for. Its entries are in ascending order of their names, each name
once, so it can be listed as it is.
-/

namespace Switchboard

/-- What names stand for, in ascending order of the names. -/
abbrev Dictionary (α : Type) := List (String × α)

namespace Dictionary

variable {α : Type}

/-- Put an entry in front of the first one with a greater name, in the place of one with the same
name. -/
def insert (name : String) (value : α) : Dictionary α → Dictionary α
  | [] => [(name, value)]
  | (other, old) :: rest =>
    if name < other then (name, value) :: (other, old) :: rest
    else if name = other then (name, value) :: rest
    else (other, old) :: insert name value rest

/-- Take the entry with a name away. -/
def erase (name : String) (entries : Dictionary α) : Dictionary α :=
  entries.filter fun entry ↦ entry.1 != name

end Dictionary

end Switchboard
