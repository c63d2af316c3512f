import BlockStorage.Budget
import BlockStorage.Datum.Reader
import BlockStorage.Gateway.Ec2
import BlockStorage.Settings.Environment
import BlockStorage.Store

/-!
# Settings

The settings of the library in four sections. A section is read from its own
environment names, `POLLER_DELAY` for the field `delay`, and from given values,
which win. Fields that hold lists or tables are written in the interchange
notation.

All sections together are `Settings`. There a section is one field, which may be
written as a whole (`BLOCKHUB_POLLER`), field by field (`BLOCKHUB_POLLER__DELAY`,
which wins), or not at all; what it leaves open comes from the section's own
names. A field that a section does not know is refused.

* `Section.read`: reads one section.
* `Settings.read`: reads all of them.
-/

namespace BlockStorage

/-! ## Logging -/

inductive LogFormat
  | json | text
  deriving DecidableEq, Repr

instance : Vocabulary LogFormat where
  title := "LogFormat"
  all := [.json, .text]
  value
    | .json => "json"
    | .text => "text"

structure LogSettings where
  /-- The least level that is written, by its name. -/
  level : String := "INFO"
  format : LogFormat := .json
  serviceName : String := "blockhub"
  /-- For how long repetitions of an event are dropped. -/
  rateLimitSeconds : Float := 5.0

/-! ## Views -/

instance : Viewed Ec2Settings where
  view s := .named "EC2Config" [("default_region", .text s.defaultRegion),
    ("regions", .tuple (s.regions.map .text)), ("endpoint_url", .text? s.endpoint),
    ("max_retries", .datum (.int s.maxRetries)), ("retry_base_delay", .real s.retryBaseDelay),
    ("retry_max_delay", .real s.retryMaxDelay)]

instance : Viewed StoreSettings where
  view s := .named "StoreConfig" [("volume_prefix", .text s.volumePrefix),
    ("snapshot_prefix", .text s.snapshotPrefix), ("default_volume_type", .text s.volumeType)]

instance : Viewed LogSettings where
  view s := .named "LoggingConfig" [("level", .text s.level),
    ("format", .text (Vocabulary.value s.format)), ("service_name", .text s.serviceName),
    ("rate_limit_seconds", .real s.rateLimitSeconds)]

/-! ## Sections -/

/-- How a field is written in an environment. -/
inductive FieldForm
  | plain
  /-- In the interchange notation. -/
  | structured
  /-- In that notation, a table of records with these fields. -/
  | table (fields : List String)
  deriving DecidableEq

/-- How a section of type `α` is read. -/
structure Section (α : Type) where
  /-- What the section's environment names begin with. -/
  start : String
  /-- The fields in order. -/
  fields : List (String × FieldForm)
  check : Fields → Checked α

namespace Section

variable {α : Type}

/-- The names of the fields. -/
def names (s : Section α) : List String := s.fields.map (·.1)

/-- How a field is written; fields that the section does not know are plain. -/
def form (s : Section α) (field : String) : FieldForm := (s.fields.lookup field).getD .plain

/-- A text in the interchange notation. Null counts as nothing. -/
def structured (field text : String) : Except Fault (Option Datum) :=
  match Datum.read? text with
  | none => .error (.unreadableSetting field)
  | some .null => .ok none
  | some d => .ok (some d)

/-- What the environment says of the section's fields. -/
def environment (s : Section α) (env : Environment) : Except Fault Fields := do
  let found ← s.fields.mapM fun (field, form) => do
    match env.get? (s.start ++ field) with
    | none => return none
    | some text =>
      let d ← if form = .plain then pure (some (.text text)) else structured field text
      return d.map fun d => (field, d)
  return found.filterMap id

/-- Given values under the names that they are asked for, in any case of letters. Of several values
for one name the first counts; values for other names stay as they are. -/
def spelled (names : List String) (given : Fields) : Fields :=
  names.filterMap (fun name =>
      (given.find? fun f => Text.lower f.1 = name).map fun f => (name, f.2))
    ++ given.filter fun f => !names.contains (Text.lower f.1)

/-- Reads the section from an environment and given values. -/
def read (s : Section α) (env : Environment) (given : Fields) : Except Fault α := do
  let fs := Datum.overlaidFields (← s.environment env) (spelled s.names given)
  ((fun a _ => a) <$> s.check fs <*> Check.noneBut s.names fs).orFault

end Section

namespace Check

/-- A text that can stand in front of a number in a local id. -/
def idPrefix : Reader String := fun d =>
  (text d).andThen fun s =>
    if s.toList.contains Handle.separator then .fail .valueError else .good s

/-- A format, in any case of letters. -/
def logFormat : Reader LogFormat := fun d =>
  (text d).andThen fun s =>
    match Vocabulary.ofValue? (Text.lower s) with
    | some f => .good f
    | none => .fail .valueError

end Check

def PollSettings.section : Section PollSettings where
  start := "poller_"
  fields := [("max_attempts", .plain), ("delay", .plain),
    ("overrides", .table ["max_attempts", "delay"])]
  check fs := PollSettings.mk <$> Check.fieldOr fs "max_attempts" 600 (Check.atLeast 1)
    <*> Check.fieldOr fs "delay" 10.0 (Check.nonnegative Check.real)
    <*> Check.fieldOr fs "overrides" [] (Check.table PollBudget.check)

def Ec2Settings.section : Section Ec2Settings where
  start := "ec2_"
  fields := [("default_region", .plain), ("regions", .structured), ("endpoint_url", .plain),
    ("max_retries", .plain), ("retry_base_delay", .plain), ("retry_max_delay", .plain)]
  check fs := Ec2Settings.mk <$> Check.fieldOr fs "default_region" "us-east-1" Check.text
    <*> Check.fieldOr fs "regions" [] (Check.list Check.text)
    <*> Check.fieldOr fs "endpoint_url" none (Check.nullable Check.text)
    <*> Check.fieldOr fs "max_retries" 3 (Check.atLeast 0)
    <*> Check.fieldOr fs "retry_base_delay" 1.0 Check.real
    <*> Check.fieldOr fs "retry_max_delay" 30.0 Check.real

def StoreSettings.section : Section StoreSettings where
  start := "store_"
  fields := [("volume_prefix", .plain), ("snapshot_prefix", .plain),
    ("default_volume_type", .plain)]
  check fs := StoreSettings.mk <$> Check.fieldOr fs "volume_prefix" "vol-" Check.idPrefix
    <*> Check.fieldOr fs "snapshot_prefix" "snap-" Check.idPrefix
    <*> Check.fieldOr fs "default_volume_type" "local" Check.text

def LogSettings.section : Section LogSettings where
  start := "logging_"
  fields := [("level", .plain), ("format", .plain), ("service_name", .plain),
    ("rate_limit_seconds", .plain)]
  check fs := LogSettings.mk <$> Check.fieldOr fs "level" "INFO" Check.text
    <*> Check.fieldOr fs "format" .json Check.logFormat
    <*> Check.fieldOr fs "service_name" "blockhub" Check.text
    <*> Check.fieldOr fs "rate_limit_seconds" 5.0 Check.real

/-! ## All sections -/

structure Settings where
  poller : PollSettings := {}
  ec2 : Ec2Settings := {}
  store : StoreSettings := {}
  logging : LogSettings := {}

instance : Viewed Settings where
  view s := .named "Settings" [("poller", Viewed.view s.poller), ("ec2", Viewed.view s.ec2),
    ("store", Viewed.view s.store), ("logging", Viewed.view s.logging)]

namespace Settings

/-- What the names of all settings begin with. -/
def start : String := "blockhub_"

/-- The fields of a section under the names that the section gives them. -/
def renamed {α : Type} (s : Section α) : Datum → Datum
  | .record fs => .record (Table.ofPairs (fs.map fun (k, d) =>
      match s.fields.find? fun f => f.1 = Text.lower k with
      | some f => (f.1, d)
      | none => (k, d)))
  | d => d

/-- What a text at a path inside a section stands for. A field has to be readable in its form; the
record of a table need not be. -/
def nestedDatum {α : Type} (s : Section α) (name : String) (path : List String) (text : String) :
    Except Fault Datum :=
  match path with
  | [field] =>
    if s.form field = .plain || text.isEmpty then .ok (.text text)
    else match Datum.read? text with
      | some d => .ok d
      | none => .error (.unreadableSetting name)
  | [field, key] => match s.form field with
    | .table inner =>
      .ok (if inner.contains key then .text text else (Datum.read? text).getD (.text text))
    | _ => .ok (.text text)
  | _ => .ok (.text text)

/-- What the environment says of a section, as a whole and field by field. -/
def sectionDatum {α : Type} (s : Section α) (name : String) (env : Environment) :
    Except Fault (Option Datum) := do
  let byField := env.nested (start ++ name ++ "__") (nestedDatum s name)
  match env.get? (start ++ name) with
  | none =>
    let d ← byField
    return if d.isTruthy then some (renamed s d) else none
  | some text =>
    match ← Section.structured name text with
    | none => return none
    | some (.record fs) => return some (renamed s ((Datum.record fs).overlaid (← byField)))
    | some d => return some d

/-- Reads a section that stands as a field among others. A section that is not written at all is
read from its own names, and fails as a whole if those are wrong. -/
def sectionField {α : Type} (s : Section α) (name : String) (env : Environment) (fs : Fields) :
    Except Fault (Checked α) :=
  match fs.get? name with
  | none => (s.read env []).map .good
  | some (.record given) =>
    match s.read env given with
    | .ok a => .ok (.good a)
    | .error (.invalid issues) => .ok ((Checked.bad issues).under name)
    | .error (.unreadableSetting _) => .ok ((Checked.fail .valueError).under name)
    | .error f => .error f
  | some _ => .ok ((Checked.fail .modelType).under name)

/-- The names of the sections. -/
def names : List String := ["poller", "ec2", "store", "logging"]

/-- Reads all sections from an environment and given values. -/
def read (env : Environment) (given : Fields) : Except Fault Settings := do
  let found : List (String × Option Datum) := [
    ("poller", ← sectionDatum PollSettings.section "poller" env),
    ("ec2", ← sectionDatum Ec2Settings.section "ec2" env),
    ("store", ← sectionDatum StoreSettings.section "store" env),
    ("logging", ← sectionDatum LogSettings.section "logging" env)]
  let fs := Datum.overlaidFields (found.filterMap fun (k, d) => d.map (k, ·))
    (Section.spelled names given)
  let poller ← sectionField PollSettings.section "poller" env fs
  let ec2 ← sectionField Ec2Settings.section "ec2" env fs
  let store ← sectionField StoreSettings.section "store" env fs
  let logging ← sectionField LogSettings.section "logging" env fs
  let noOther := Check.noneBut names fs
  ((fun p e s l _ => Settings.mk p e s l)
    <$> poller <*> ec2 <*> store <*> logging <*> noOther).orFault

end Settings

/-! ## The settings in use -/

/-- The settings in use are read once and kept; a failure is not kept. -/
def Settings.current (kept : Option Settings) (env : Environment) :
    Except Fault Settings × Option Settings :=
  match kept with
  | some s => (.ok s, kept)
  | none => match Settings.read env [] with
    | .ok s => (.ok s, some s)
    | .error f => (.error f, none)

end BlockStorage
