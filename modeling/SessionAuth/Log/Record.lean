import SessionAuth.Event

/-!
# Records of the log

A record is an event with the part of the program that it comes from.
-/

namespace SessionAuth.Log

/-- An event and where it comes from. -/
structure Record where
  target : String
  event : Event
deriving DecidableEq, Repr

/-- The line of a record: level, origin, message and fields. -/
def Record.line (r : Record) : String :=
  r.event.level.name ++ " " ++ r.target ++ ": " ++
    " ".intercalate (r.event.text :: r.event.fields.map fun f => f.1 ++ "=" ++ f.2)

end SessionAuth.Log
