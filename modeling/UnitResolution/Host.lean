/-!
# The host

What the program takes from the process that runs it: the directory in which it runs, and the words
in which the engine refuses a text that is not JSON. Nothing else is known of a host, so what is
proved holds in every directory and under every engine.
-/

namespace UnitResolution

/-- The process in which the program runs. -/
class Host where
  /-- The directory from which a relative path is counted where no other one is given. -/
  workingDirectory : List Char
  /-- What is said of a text that is not JSON. -/
  malformed : String → String

/-- The host of runs on fixed inputs, which fix the directory and the words as well. -/
instance Host.standard : Host where
  workingDirectory := "/work".toList
  malformed _ := "invalid JSON"

end UnitResolution
