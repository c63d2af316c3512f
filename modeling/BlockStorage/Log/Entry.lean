import BlockStorage.Log.Clock
import BlockStorage.Log.Schema
import BlockStorage.Log.Template

/-!
# Log entries

A log record as the handlers get it: with the place in the program that it comes
from, its time, and a template that is filled only when it is written. Extra
fields carry the meaning of a record; they may also stand in for the entry's own
attributes.

* `LogEntry.property`: an attribute, own or extra.
* `LogEntry.message`: the filled template.
* `LogEntry.report?`: what is said of a failure.
* `componentOf?`: the component that a logger belongs to.
-/

namespace BlockStorage

structure LogEntry where
  logger : String
  level : Int
  /-- The file in which the record was made. -/
  path : String
  line : Int
  template : Datum
  arguments : List Datum := []
  fault : Option Fault := none
  /-- Seconds since 1970. -/
  created : Amount
  process : Int
  extra : Fields := []

/-- The name of a level. -/
def levelName (level : Int) : String :=
  if level = 50 then "CRITICAL" else if level = 40 then "ERROR" else if level = 30 then "WARNING"
  else if level = 20 then "INFO" else if level = 10 then "DEBUG" else if level = 0 then "NOTSET"
  else s!"Level {level}"

/-- The components of loggers; a logger belongs where its own name or a parent's does. -/
def components : List (String × Component) :=
  [("blockhub.control", .coordinator), ("blockhub.adapters.memory", .store),
    ("blockhub.core.poller", .poller), ("blockhub.adapters.ec2", .gateway),
    ("blockhub.core.retryable", .gateway), ("blockhub.core.circuit_breaker", .gateway)]

/-- Whether a logger is the named one or below it. -/
def isWithin (logger parent : String) : Bool :=
  logger = parent || (parent ++ ".").toList.isPrefixOf logger.toList

/-- The component that a logger belongs to. -/
def componentOf? (logger : String) : Option Component :=
  (components.find? fun c => isWithin logger c.1).map (·.2)

/-- A fault with its name, as it stands below a message. -/
def Fault.report (f : Fault) : String :=
  let text := f.message
  f.home ++ f.title ++ (if text.isEmpty then "" else ": " ++ text)

namespace LogEntry

/-- The part of a path after its last slash. -/
def fileName (path : String) : String :=
  String.ofList (path.toList.reverse.takeWhile (· ≠ '/')).reverse

/-- The milliseconds of the time, cut off. -/
def milliseconds (e : LogEntry) : Float :=
  match e.created with
  | .whole _ => 0.0
  | .real x =>
    let whole := Float.ofInt ((Decimal.Real.truncate? x).getD 0)
    Float.ofInt ((Decimal.Real.truncate? ((x - whole) * 1000.0)).getD 0)

/-- The entry's own attributes. -/
def own (e : LogEntry) : Fields :=
  [("msg", e.template), ("msecs", .real e.milliseconds), ("name", .text e.logger),
    ("levelno", .int e.level), ("levelname", .text (levelName e.level)),
    ("pathname", .text e.path), ("filename", .text (fileName e.path)), ("lineno", .int e.line),
    ("created", .ofAmount e.created), ("process", .int e.process)]

/-- An attribute; an extra field stands in for the entry's own. -/
def property? (e : LogEntry) (name : String) : Option Datum :=
  (e.extra.get? name).orElse fun _ => e.own.get? name

/-- An attribute that every entry has. -/
def property (e : LogEntry) (name : String) : Datum := (e.property? name).getD .null

/-- What the template is filled with. A record that stands alone gives its keys. -/
def filling (e : LogEntry) : Template.Arguments :=
  match e.extra.get? "args", e.arguments with
  | some d, _ => .single d
  | none, [.record (f :: fs)] => .single (.record (f :: fs))
  | none, ds => .several ds

/-- The message. Without arguments it is the template as it stands. -/
def message (e : LogEntry) : Except Fault String :=
  let template := (e.property "msg").plain
  if e.filling.isAny then Template.fill template e.filling else .ok template

/-- The report of a failure that an extra field gives as data: kind, failure and trace in a list.
Data are no failure and no trace, so only their absence can be reported. -/
def reportOf (d : Datum) : Except Fault String :=
  match d with
  | .list (_ :: failure :: trace :: _) =>
    match trace, failure with
    | .null, .null => .ok "NoneType: None"
    | .null, d => .error (.misuse (.noField d.kindName "__suppress_context__"))
    | d, _ => .error (.misuse (.noField d.kindName "tb_frame"))
  | .list _ => .error (.misuse (.outOfRange "list"))
  | .text s =>
    if s.length < 3 then .error (.misuse (.outOfRange "string"))
    else .error (.misuse (.noField d.kindName "tb_frame"))
  | .record _ => .error (.alien .lookup "2")
  | d => .error (.misuse (.notSubscriptable d.kindName))

/-- The report of the entry's failure, if it has one. -/
def report? (e : LogEntry) : Except Fault (Option String) :=
  match e.extra.get? "exc_info" with
  | some d => if d.isTruthy then (reportOf d).map some else .ok none
  | none => .ok (e.fault.map Fault.report)

end LogEntry

end BlockStorage
