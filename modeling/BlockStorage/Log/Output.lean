import BlockStorage.Log.RateLimit
import BlockStorage.Settings

/-!
# Log output

Where log entries end up: one output, which drops repetitions and writes either
one record of data a line or plain text. The records have standard fields, which
win over extra fields of the same name.

* `LogEntry.fields`: the record of an entry.
* `LogEntry.textLines`: its plain text.
* `LogOutput.write`: an entry's way through thresholds, rate limit and layout.
-/

namespace BlockStorage

namespace LogEntry

/-- Attributes that are an entry's own and are never written as extra fields. -/
def reserved : List String :=
  ["args", "asctime", "created", "exc_info", "exc_text", "filename", "funcName", "levelname",
    "levelno", "lineno", "module", "msecs", "message", "msg", "name", "pathname", "process",
    "processName", "relativeCreated", "stack_info", "thread", "threadName"]

/-- Extra fields that are written: not the reserved ones, nor those that begin with a low line. -/
def written (e : LogEntry) : Fields :=
  e.extra.filter fun f => !reserved.contains f.1 && f.1.toList.head? ≠ some '_'

/-- The standard fields. -/
def standard (e : LogEntry) (service : String) : Except Fault Fields := do
  let time ← LogClock.timestamp (e.property "created")
  return [("timestamp", .text time.iso), ("level", e.property "levelname"),
    ("logger", e.property "name"), ("service", .text service), ("pid", e.property "process"),
    ("filename", e.property "filename"), ("lineno", e.property "lineno")]

/-- The component of the entry's logger. -/
def component? (e : LogEntry) : Except Fault (Option Component) :=
  match e.property "name" with
  | .text name => .ok (componentOf? name)
  | d => .error (.misuse (.noField d.kindName "startswith"))

/-- A field that is written unless its value is empty or the fields have one that is not. -/
def supply (fs : Fields) (name : String) (d : Datum) : Fields :=
  if d.isTruthy && !((fs.get? name).getD .null).isTruthy then fs.put name d else fs

/-- Message, failure and stack of an entry. A template that is a record itself gives its fields. -/
def said (e : LogEntry) : Except Fault Fields := do
  let (message, given) ← match e.property "msg" with
    | .record fs => pure ("", fs)
    | _ => pure (← e.message, [])
  let own := e.property "exc_text"
  let given := supply given "exc_info" (((← e.report?).map Datum.text).getD own)
  return Table.merge [("message", .text message)]
    (supply given "stack_info" (e.property "stack_info"))

/-- The record of an entry. -/
def fields (e : LogEntry) (service : String) : Except Fault Fields := do
  let fs := Table.merge (Table.merge (← e.said) e.written) (← e.standard service)
  let fs ← if fs.has "component" then pure fs else do
    match ← e.component? with
    | some c => pure (fs.put "component" (.text (Vocabulary.value c)))
    | none => pure fs
  match ← e.report? with
  | some report => return fs.put "exception" (.text report)
  | none => return fs

/-- Splits at every newline. -/
def splitLines : List Char → List (List Char)
  | [] => [[]]
  | '\n' :: cs => [] :: splitLines cs
  | c :: cs => match splitLines cs with
    | l :: ls => (c :: l) :: ls
    | [] => [[c]]

/-- A text with one more below it, unless that is empty. -/
def below (s : String) (d : Datum) : Except Fault String :=
  match d with
  | .text more =>
    if more.isEmpty then .ok s
    else .ok ((if s.toList.getLast? = some '\n' then s else s ++ "\n") ++ more)
  | d => if d.isTruthy then .error (.misuse (.notJoined d.kindName)) else .ok s

/-- The plain text of an entry. Failure and stack stand on lines of their own. -/
def textLines (e : LogEntry) : Except Fault (List String) := do
  let message ← e.message
  let seconds ← LogClock.text (e.property "created")
  let time ← Template.fill "%s,%03d" (.several [.text seconds, e.property "msecs"])
  let head := " - ".intercalate
    [time, (e.property "name").plain, (e.property "levelname").plain, message]
  let own := e.property "exc_text"
  let report ← if own.isTruthy then pure own else do pure (((← e.report?).map Datum.text).getD own)
  let body ← below (← below head report) (e.property "stack_info")
  return (splitLines body.toList).map String.ofList

end LogEntry

/-! ## The output -/

/-- The levels that settings can name. -/
def levelNames : List (String × Int) :=
  [("CRITICAL", 50), ("FATAL", 50), ("ERROR", 40), ("WARNING", 30), ("WARN", 30), ("INFO", 20),
    ("DEBUG", 10), ("NOTSET", 0)]

/-- The layout of a plain line, which is no level although it has the form of a name. -/
def plainLayout : String × String := ("BASIC_FORMAT", "%(levelname)s:%(name)s:%(message)s")

/-- The level that settings name, in any case of letters; any other name means the level of
ordinary messages. -/
def levelOf (name : String) : Except Fault Int :=
  let name := Text.upper name
  if name = plainLayout.1 then .error (.misuse (.unknownLevel plainLayout.2))
  else .ok ((levelNames.lookup name).getD 20)

structure LogOutput where
  settings : LogSettings
  /-- The least level that is written. -/
  level : Int
  limit : RateLimit

namespace LogOutput

/-- Loggers of the provider's client, which report every request, and their least level. -/
def quietLoggers : List (String × Int) := [("aiobotocore", 30), ("aioboto3", 30), ("botocore", 30)]

def new (settings : LogSettings) : Except Fault LogOutput :=
  (levelOf settings.level).map fun level =>
    { settings, level, limit := { window := settings.rateLimitSeconds } }

/-- The least level that a logger lets through. -/
def threshold (o : LogOutput) (logger : String) : Int :=
  match quietLoggers.find? fun q => isWithin logger q.1 with
  | some q => q.2
  | none => o.level

/-- Whether an entry gets past its logger. -/
def isEnabled (o : LogOutput) (e : LogEntry) : Bool :=
  0 < e.level && o.threshold e.logger ≤ e.level

/-- The lines of an entry. -/
def lines (o : LogOutput) (e : LogEntry) : Except Fault (List Datum) :=
  match o.settings.format with
  | .json => (e.fields o.settings.serviceName).map fun fs => [.record fs]
  | .text => e.textLines.map (·.map .text)

/-- Sends an entry to the output at a time; answers the lines that it is written on. An entry that
cannot be laid out is not written. -/
def write (o : LogOutput) (now : Float) (e : LogEntry) : Except Fault (List Datum) × LogOutput :=
  if !o.isEnabled e then (.ok [], o)
  else match o.limit.filter now e with
    | (.error f, limit) => (.error f, { o with limit })
    | (.ok none, limit) => (.ok [], { o with limit })
    | (.ok (some e), limit) => (.ok ((o.lines e).toOption.getD []), { o with limit })

end LogOutput

end BlockStorage
