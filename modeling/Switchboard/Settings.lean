/-!
# Settings of a switchboard

How often polls are asked, how often the follower looks for a shutdown, how many arguments a handler
gets, how deeply aliases may nest and where further aliases are read from.
-/

namespace Switchboard

/-- The settings of a switchboard, times in milliseconds. -/
structure Settings where
  pollInterval : Nat := 1
  waitTimeout : Nat := 50
  maxArguments : Nat := 64
  maxAliasDepth : Nat := 16
  aliasFile : Option String := none
  deriving DecidableEq

end Switchboard
