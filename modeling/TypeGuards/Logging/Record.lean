import TypeGuards.Logging.Level
/-!
What is told about a run while it goes on.
-/
namespace TypeGuards.Logging

structure Record where
  level : Level
  /-- The part, by its names from the outermost on, with points between them. -/
  logger : String
  activity : String
  message : String
deriving DecidableEq, Repr, Inhabited

/-- What is known of a record only where it is written. -/
structure Stamp where
  time : String
  line : String
deriving DecidableEq, Repr, Inhabited

namespace Record

def field? (stamp : Stamp) (r : Record) : String → Option String
  | "asctime" => some stamp.time
  | "funcName" => some r.activity
  | "levelname" => some r.level.name
  | "levelno" => some (toString r.level.number)
  | "lineno" => some stamp.line
  | "message" => some r.message
  | "name" => some r.logger
  | _ => none

end Record

end TypeGuards.Logging
