import RouteAtlas.Text.Basic

/-!
# The log

Messages have levels, and a log keeps those of its own level and above. A log that is opened for
debugging says so in its first line.

Levels are compared by their weights, which leave room between them. The line at the opening is
itself a message of the debugging level, so whether it is kept follows from the rule for all
messages.
-/

namespace RouteAtlas.Log

/-- How important a message is. -/
inductive Level where
  | trace
  | debug
  | info
  | success
  | warning
  | error
  | critical
  deriving DecidableEq, Repr

/-- The levels by their names, the least important first. -/
def Level.names : List (String × Level) :=
  [("TRACE", .trace), ("DEBUG", .debug), ("INFO", .info), ("SUCCESS", .success),
   ("WARNING", .warning), ("ERROR", .error), ("CRITICAL", .critical)]

/-- The name of a level. -/
def Level.name : Level → Text
  | .trace => "TRACE".toList
  | .debug => "DEBUG".toList
  | .info => "INFO".toList
  | .success => "SUCCESS".toList
  | .warning => "WARNING".toList
  | .error => "ERROR".toList
  | .critical => "CRITICAL".toList

/-- The importance of a level. -/
def Level.weight : Level → Nat
  | .trace => 5
  | .debug => 10
  | .info => 20
  | .success => 25
  | .warning => 30
  | .error => 40
  | .critical => 50

/-- A name that no level has. -/
structure UnknownLevel where
  name : Text
  deriving DecidableEq, Repr

/-- What is said of a name that no level has. -/
def UnknownLevel.message (fault : UnknownLevel) : Text :=
  "Level \x27".toList ++ fault.name ++ "\x27 does not exist".toList

/-- The level with a name. -/
def Level.ofName (name : Text) : Except UnknownLevel Level :=
  match names.find? fun (n, _) => n.toList == name with
  | some (_, level) => .ok level
  | none => .error ⟨name⟩

/-- A line of a log. -/
structure Entry where
  level : Level
  message : Text
  deriving DecidableEq, Repr

/-- The lines that a log of a level keeps. -/
def keep (threshold : Level) (entries : List Entry) : List Entry :=
  entries.filter fun e => threshold.weight ≤ e.level.weight

/-- What a log says when it is opened, at debugging level. -/
def opening (threshold : Level) (file : Text) : Entry :=
  ⟨.debug, "Logging at ".toList ++ threshold.name ++ " to ".toList ++ file⟩

/-- The lines of a log of a level in a file. -/
def written (threshold : Level) (file : Text) (entries : List Entry) : List Entry :=
  keep threshold (opening threshold file :: entries)

end RouteAtlas.Log
