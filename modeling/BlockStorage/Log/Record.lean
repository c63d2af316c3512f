import BlockStorage.Log.Schema

/-!
# Log records

What the library reports while it works: a level, the name of the logger, a
message, and extra fields that carry the meaning of the message.
-/

namespace BlockStorage

inductive Level
  | debug | info | warning | error
  deriving DecidableEq, Repr

/-- The rank of a level; higher is graver. -/
def Level.rank : Level → Nat
  | debug => 10
  | info => 20
  | warning => 30
  | error => 40

def Level.name : Level → String
  | debug => "DEBUG"
  | info => "INFO"
  | warning => "WARNING"
  | error => "ERROR"

structure LogRecord where
  level : Level
  logger : String
  message : String
  extra : Fields

namespace LogRecord

/-- The extra fields that name an event of a component. -/
def about (event : LogEvent) (component : Component) : Fields :=
  [("event", .text (Vocabulary.value event)), ("component", .text (Vocabulary.value component))]

/-- The extra field that names the class of a failure. -/
def failing (c : ErrorClass) : Fields := [("error_class", .text (Vocabulary.value c))]

instance : Viewed LogRecord where
  view r := .named "LogRecord" [("level", .text r.level.name), ("logger", .text r.logger),
    ("message", .text r.message), ("extra", .datum (.record r.extra))]

end LogRecord

end BlockStorage
