/-!
# Log entries

## Main Definitions

* `Log.Entry` — a level, a message and named details
-/

namespace PreviewSync.Log

/-- How much an entry matters. What a log tells of everyday work is left out, since nothing is
decided by it. -/
inductive Level where
  | warning
  | error
deriving Repr, DecidableEq

/-- The word for a level. -/
def Level.name : Level → String
  | warning => "WARN"
  | error => "ERROR"

/-- A level, a message and named details. They are kept apart so that a statement can speak of one
detail, such as the reason, and leave the rest alone. -/
structure Entry where
  level : Level
  message : String
  details : List (String × String)
deriving Repr, DecidableEq

end PreviewSync.Log
