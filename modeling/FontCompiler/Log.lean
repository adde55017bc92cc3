/-!
# Log records

What a computation reports about itself is part of its result: a list of
records, oldest first.  A record has a level, the part of the program that
speaks, and a message.  A threshold keeps the records of its level and those
that are more severe.
-/

namespace FontCompiler.Log

/-- The severity of a record. -/
inductive Level
  | error
  | warn
  | info
  | debug
  | trace
  deriving DecidableEq, Repr

namespace Level

/-- The position of a level among all levels, the most severe being the first. -/
def rank : Level → Nat
  | .error => 1
  | .warn => 2
  | .info => 3
  | .debug => 4
  | .trace => 5

/-- The name of a level in a record. -/
def name : Level → String
  | .error => "ERROR"
  | .warn => "WARN"
  | .info => "INFO"
  | .debug => "DEBUG"
  | .trace => "TRACE"

end Level

/-- The part of the program that a record comes from. -/
inductive Topic
  | factory
  | encoder
  | subset
  | manifest
  | command
  deriving DecidableEq, Repr

/-- A message with its level and origin. -/
structure Record where
  level : Level
  topic : Topic
  message : String
  deriving DecidableEq, Repr

/-- How verbose a log is: silent, or open up to a level. -/
abbrev Threshold := Option Level

/-- Whether a threshold keeps records of a level. -/
def admits (threshold : Threshold) (level : Level) : Bool :=
  match threshold with
  | none => false
  | some least => level.rank ≤ least.rank

/-- The records that a threshold keeps. -/
def filter (threshold : Threshold) (records : List Record) : List Record :=
  records.filter fun record => admits threshold record.level

end FontCompiler.Log
