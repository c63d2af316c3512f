import BlockStorage.Check
import BlockStorage.Decimal.Amount

/-!
# What can go wrong

A `Fault` is the cause of a call that did not answer. The library's own faults
carry an `ErrorCode`; the others come from the provider's client, from the
transport below it, or from data that is not what it should be.

* `BadArgument`: the ways in which an argument is refused before anything is sent.
* `Rejection`: an error response of the provider.
* `Fault.message`: the text of a fault.
* `Fault.detail?`: code and message of the library's own faults.
-/

namespace BlockStorage

/-! ## Refused arguments -/

inductive BadArgument
  | emptyLocalId
  | separatorInLocalId (localId : String)
  | emptyScope
  | separatorInScope (scope : String)
  | malformedHandle (handle : String)
  /-- There is no handle where one is needed. -/
  | noHandle
  | emptyZone
  | notAZone (zone : String)
  | zoneRequired
  | sizeRequired
  | deviceRequired
  | locationRequired
  | emptyLocation
  | unsupportedVolumeOptions (options : View)
  | unsupportedDetachOptions (options : View)
  | zoneOutsideLocation (location zone : String)
  | snapshotOutsideRegion (handle region : String)
  | snapshotOutsideLocation (handle location : String)
  | scopesDiffer (node volume : String)
  /-- Refused by someone else, in their words. -/
  | stated (text : String)

namespace BadArgument

def message : BadArgument → String
  | emptyLocalId => "local id must not be empty"
  | separatorInLocalId l => s!"local id must not contain '/': {l}"
  | emptyScope => "scope must not be empty"
  | separatorInScope s => s!"scope must not contain '/': {s}"
  | malformedHandle h => "malformed resource id: " ++ Text.quoted h
  | noHandle => "malformed resource id: " ++ Datum.null.shown
  | emptyZone => "availability zone must not be empty"
  | notAZone z => "not an availability zone: " ++ Text.quoted z
  | zoneRequired => "create_volume requires EC2VolumeOptions with an availability zone"
  | sizeRequired => "size_gb is required without a snapshot"
  | deviceRequired => "attach requires a device"
  | locationRequired => "location_id is required"
  | emptyLocation => "location id must not be empty"
  | unsupportedVolumeOptions o => "unsupported volume options: " ++ o.shown
  | unsupportedDetachOptions o => "unsupported detach options: " ++ o.shown
  | zoneOutsideLocation location zone => s!"location {location} does not contain zone {zone}"
  | snapshotOutsideRegion h r => s!"snapshot {h} is not in region {r}"
  | snapshotOutsideLocation h l => s!"snapshot {h} is not in {l}"
  | scopesDiffer n v => s!"node {n} and volume {v} are in different scopes"
  | stated t => t

end BadArgument

/-! ## Errors of the provider and the transport -/

/-- An error response of the provider to an operation. -/
structure Rejection where
  code : Option String
  text : Option String
  operation : String
  /-- How often the client had retried, where it says that it gave up. -/
  givenUpAfter : Option String := none
  deriving DecidableEq

/-- The code of a rejection, empty where there is none. -/
def Rejection.codeOrEmpty (r : Rejection) : String := r.code.getD ""

def Rejection.message (r : Rejection) : String :=
  let retries := match r.givenUpAfter with
    | some n => s!" (reached max retries: {n})"
    | none => ""
  "An error occurred (" ++ r.code.getD "Unknown" ++ ") when calling the " ++ r.operation
    ++ " operation" ++ retries ++ ": " ++ r.text.getD "Unknown"

/-- Failures below the provider's own protocol. -/
inductive Transport
  | cannotConnect (endpoint : String)
  | connectionClosed (endpoint : String)
  | readTimeout (endpoint : String)
  | connectTimeout (endpoint : String)
  | noCredentials
  | noRegion
  /-- Any other failure, under its own name. -/
  | other (name text : String)
  deriving DecidableEq

namespace Transport

/-- The name under which a transport failure is reported. -/
def name : Transport → String
  | cannotConnect _ => "EndpointConnectionError"
  | connectionClosed _ => "ConnectionClosedError"
  | readTimeout _ => "ReadTimeoutError"
  | connectTimeout _ => "ConnectTimeoutError"
  | noCredentials => "NoCredentialsError"
  | noRegion => "NoRegionError"
  | other name _ => name

def message : Transport → String
  | cannotConnect u => s!"Could not connect to the endpoint URL: \"{u}\""
  | connectionClosed u =>
    s!"Connection was closed before we received a valid response from endpoint URL: \"{u}\"."
  | readTimeout u => s!"Read timeout on endpoint URL: \"{u}\""
  | connectTimeout u => s!"Connect timeout on endpoint URL: \"{u}\""
  | noCredentials => "Unable to locate credentials"
  | noRegion => "You must specify a region."
  | other _ text => text

end Transport

/-! ## Faults -/

/-- The codes of the library's own faults. -/
inductive ErrorCode
  | invalidArgument | notFound | pollTimeout | pollCancelled | remoteFailure
  deriving DecidableEq, Repr

instance : Vocabulary ErrorCode where
  title := "ErrorCode"
  all := [.invalidArgument, .notFound, .pollTimeout, .pollCancelled, .remoteFailure]
  value
    | .invalidArgument => "INVALID_ARGUMENT"
    | .notFound => "NOT_FOUND"
    | .pollTimeout => "POLL_TIMEOUT"
    | .pollCancelled => "POLL_CANCELLED"
    | .remoteFailure => "REMOTE_FAILURE"

/-- Failures of no particular meaning to the library. -/
inductive Alien
  | runtime | value | lookup | connection | system
  deriving DecidableEq

/-! ## Misused data -/

/-- What is wrong with a template or the arguments that it is filled with. -/
inductive TemplateIssue
  /-- A template with more places than arguments, or fewer. -/
  | tooFewArguments
  | tooManyArguments
  /-- A place, or the key in it, that the template ends in. -/
  | openPlace
  | openKey
  /-- A key without arguments that have keys. -/
  | notKeyed
  | unknown (conversion : Char) (index : Nat)
  /-- An argument of this kind where a number, a whole number or a double is needed. -/
  | numberRequired (conversion : Char) (kind : String)
  | wholeRequired (conversion : Char) (kind : String)
  | realRequired (kind : String)
  | characterRequired
  | noSuchCharacter
  /-- A width or a number of digits, taken from the arguments, that is no whole number or too large
  for a word of this name. -/
  | starNotWhole
  | starTooLarge (word : String)
  | widthTooLarge
  | digitsTooMany
  | paddingTooLarge
  /-- More columns than there is memory for. -/
  | noMemory

/-- What is wrong with a number that stands for a time. -/
inductive TimeIssue
  | notWhole (kind : String)
  | undefined
  /-- Past the seconds that a clock counts. -/
  | overflow
  /-- Past the years that a calendar counts. -/
  | endOfCalendar
  /-- A time outside the years of timestamps, and a span of too many days. -/
  | notATimestamp
  | spanTooLong (days : Int)
  | yearOutOfRange (year : Int)

/-- Data used as something that they are not. -/
inductive Misuse
  /-- A text taken for a numeral. -/
  | notANumeral (text : String)
  /-- A text taken for a whole number, or one with so many digits that it is not read. -/
  | notAWhole (text : String)
  | overlongWhole (digits : Nat)
  /-- A datum of this kind taken for a number. -/
  | notANumber (kind : String)
  | notWholeKind (kind : String)
  /-- An infinity or a NaN taken for a whole number. -/
  | infiniteWhole
  | undefinedWhole
  /-- A whole number past the largest double. -/
  | tooLarge
  /-- A value outside a vocabulary. -/
  | notAMember (value : Datum) (title : String)
  /-- A key that a record does not have. -/
  | missingKey (key : String)
  /-- A field that values of a kind do not have. -/
  | noField (kind field : String)
  /-- A field that a record of this name cannot be given. -/
  | foreignField (record field : String)
  | fixedField (record field : String)
  /-- All fields of a record at once, or its kind, given as a datum of this kind. -/
  | notFields (kind : String)
  | notARecordKind (kind : String)
  | notIterable (kind : String)
  /-- A datum of this kind taken for a record, by key. -/
  | notSubscriptable (kind : String)
  | notRecord (kind method : String)
  | unhashable (kind : String)
  /-- Values of these kinds compared by this sign. -/
  | notOrdered (sign left right : String)
  /-- A datum of this kind put behind a text. -/
  | notJoined (kind : String)
  /-- A place past the end of a text or a list. -/
  | outOfRange (what : String)
  /-- A metric used against its labels or its kind. -/
  | metric (text : String)
  | negativeCount
  | unknownLevel (level : String)
  | template (why : TemplateIssue)
  | time (why : TimeIssue)

inductive Fault
  | argument (why : BadArgument)
  | notFound (resource : String) (text : Option String)
  | pollTimeout (condition : String) (attempts : Int) (last : View)
  | pollCancelled (condition : String) (last : View)
  | remoteFailure (text code : String)
  | circuitOpen (circuit : String) (retryAfter : Amount)
  | rejected (r : Rejection)
  | transport (t : Transport)
  | timedOut (text : String)
  /-- The task itself was cancelled: nothing handles this. -/
  | aborted
  | alien (kind : Alien) (text : String)
  | misuse (m : Misuse)
  | invalid (issues : List Issue)
  | unreadableSetting (name : String)

namespace TemplateIssue

/-- The name under which an issue is reported. -/
def title : TemplateIssue → String
  | openPlace | openKey | unknown _ _ | widthTooLarge | digitsTooMany => "ValueError"
  | noSuchCharacter | starTooLarge _ | paddingTooLarge => "OverflowError"
  | noMemory => "MemoryError"
  | _ => "TypeError"

/-- The digits of a number in base sixteen. -/
def hexText (n : Nat) : String := String.ofList (Nat.toDigits 16 n)

def message : TemplateIssue → String
  | tooFewArguments => "not enough arguments for format string"
  | tooManyArguments => "not all arguments converted during string formatting"
  | openPlace => "incomplete format"
  | openKey => "incomplete format key"
  | notKeyed => "format requires a mapping"
  | unknown c i =>
    let shown := if 0x1f ≤ c.toNat && c.toNat ≤ 0x7e then c else '?'
    s!"unsupported format character '{shown}' (0x{hexText c.toNat}) at index {i}"
  | numberRequired c k => s!"%{c} format: a real number is required, not {k}"
  | wholeRequired c k => s!"%{c} format: an integer is required, not {k}"
  | realRequired k => s!"must be real number, not {k}"
  | characterRequired => "%c requires int or char"
  | noSuchCharacter => "%c arg not in range(0x110000)"
  | starNotWhole => "* wants int"
  | starTooLarge word => s!"Python int too large to convert to C {word}"
  | widthTooLarge => "width too big"
  | digitsTooMany => "precision too big"
  | paddingTooLarge => "precision too large"
  | noMemory => ""

end TemplateIssue

namespace TimeIssue

/-- The name under which an issue is reported. -/
def title : TimeIssue → String
  | notWhole _ => "TypeError"
  | undefined | yearOutOfRange _ => "ValueError"
  | overflow | notATimestamp | spanTooLong _ => "OverflowError"
  | endOfCalendar => "OSError"

def message : TimeIssue → String
  | notWhole k => s!"'{k}' object cannot be interpreted as an integer"
  | undefined => "Invalid value NaN (not a number)"
  | overflow => "timestamp out of range for platform time_t"
  | notATimestamp => "date value out of range"
  | spanTooLong days => s!"days={days}; must have magnitude <= 999999999"
  | endOfCalendar => "[Errno 75] Value too large for defined data type"
  | yearOutOfRange year => s!"year {year} is out of range"

end TimeIssue

namespace Misuse

/-- The name under which a misuse is reported. -/
def title : Misuse → String
  | notANumeral _ | notAWhole _ | overlongWhole _ | undefinedWhole | notAMember _ _ | metric _
  | negativeCount | unknownLevel _ | foreignField _ _ => "ValueError"
  | notANumber _ | notWholeKind _ | notIterable _ | notSubscriptable _ | unhashable _
  | notOrdered _ _ _ | notFields _ | notARecordKind _ | notJoined _ => "TypeError"
  | outOfRange _ => "IndexError"
  | infiniteWhole | tooLarge => "OverflowError"
  | missingKey _ => "KeyError"
  | noField _ _ | notRecord _ _ | fixedField _ _ => "AttributeError"
  | template why => why.title
  | time why => why.title

def message : Misuse → String
  | notANumeral t => "could not convert string to float: " ++ Text.quoted t
  | notAWhole t => "invalid literal for int() with base 10: " ++ Text.quoted t
  | overlongWhole n =>
    s!"Exceeds the limit ({Decimal.digitLimit} digits) for integer string conversion: "
      ++ s!"value has {n} digits; use sys.set_int_max_str_digits() to increase the limit"
  | notANumber k => s!"float() argument must be a string or a real number, not '{k}'"
  | notWholeKind k =>
    s!"int() argument must be a string, a bytes-like object or a real number, not '{k}'"
  | infiniteWhole => "cannot convert float infinity to integer"
  | undefinedWhole => "cannot convert float NaN to integer"
  | tooLarge => "int too large to convert to float"
  | notAMember v title => v.shown ++ s!" is not a valid {title}"
  | missingKey k => Text.quoted k
  | noField k f => s!"'{k}' object has no attribute '{f}'"
  | foreignField r f => s!"\"{r}\" object has no field \"{f}\""
  | fixedField r f => s!"property '{f}' of '{r}' object has no setter"
  | notFields k => s!"__dict__ must be set to a dictionary, not a '{k}'"
  | notARecordKind k => s!"__class__ must be set to a class, not '{k}' object"
  | notIterable k => s!"'{k}' object is not iterable"
  | notSubscriptable k =>
    if k = "list" then "list indices must be integers or slices, not str"
    else if k = "str" then "string indices must be integers, not 'str'"
    else s!"'{k}' object is not subscriptable"
  | notRecord k m => s!"'{k}' object has no attribute '{m}'"
  | unhashable k => s!"unhashable type: '{k}'"
  | notOrdered sign l r => s!"'{sign}' not supported between instances of '{l}' and '{r}'"
  | notJoined k => s!"can only concatenate str (not \"{k}\") to str"
  | outOfRange what => s!"{what} index out of range"
  | metric t => t
  | negativeCount => "Counters can only be incremented by non-negative amounts."
  | unknownLevel l => "Unknown level: " ++ Text.quoted l
  | template why => why.message
  | time why => why.message

end Misuse

namespace Fault

/-- The code of the library's own faults. -/
def code? : Fault → Option ErrorCode
  | argument _ => some .invalidArgument
  | notFound _ _ => some .notFound
  | pollTimeout _ _ _ => some .pollTimeout
  | pollCancelled _ _ => some .pollCancelled
  | remoteFailure _ _ => some .remoteFailure
  | _ => none

/-- The name under which a fault is reported. -/
def title : Fault → String
  | argument _ => "InvalidArgumentError"
  | notFound _ _ => "ResourceNotFoundError"
  | pollTimeout _ _ _ => "PollTimeoutError"
  | pollCancelled _ _ => "PollCancelledError"
  | remoteFailure _ _ => "RemoteFailureError"
  | circuitOpen _ _ => "CircuitOpenError"
  | rejected _ => "ClientError"
  | transport t => t.name
  | timedOut _ => "TimeoutError"
  | aborted => "CancelledError"
  | alien .runtime _ => "RuntimeError"
  | alien .value _ => "ValueError"
  | alien .lookup _ => "KeyError"
  | alien .connection _ => "ConnectionError"
  | alien .system _ => "OSError"
  | misuse m => m.title
  | invalid _ => "ValidationError"
  | unreadableSetting _ => "SettingsError"

/-- Where the name belongs, for the faults that are reported with a home. -/
def home : Fault → String
  | argument _ | notFound _ _ | pollTimeout _ _ _ | pollCancelled _ _ | remoteFailure _ _ =>
    "blockhub.core.errors."
  | circuitOpen _ _ => "blockhub.core.circuit_breaker."
  | rejected _ | transport _ => "botocore.exceptions."
  | aborted => "asyncio.exceptions."
  | invalid _ => "pydantic_core._pydantic_core."
  | unreadableSetting _ => "pydantic_settings.exceptions."
  | _ => ""

def message : Fault → String
  | argument why => why.message
  | notFound resource text =>
    match text with
    | some t => if t.isEmpty then s!"Resource not found: {resource}" else t
    | none => s!"Resource not found: {resource}"
  | pollTimeout condition attempts _ =>
    s!"Condition {condition} not reached after {attempts} attempts"
  | pollCancelled condition _ => s!"Wait for {condition} cancelled"
  | remoteFailure text _ => text
  | circuitOpen circuit retryAfter =>
    let seconds := Decimal.fixed 1 retryAfter.toReal
    s!"Circuit {circuit} open, retry after {seconds}s"
  | rejected r => r.message
  | transport t => t.message
  | timedOut text => text
  | aborted => ""
  | alien _ text => text
  | misuse m => m.message
  | invalid issues => "; ".intercalate (issues.map Issue.text)
  | unreadableSetting name =>
    s!"error parsing value for field \"{name}\" from source \"EnvSettingsSource\""

/-- Whether handlers of failures see a fault; only the abort of the task passes them by. -/
def isHandled : Fault → Bool
  | aborted => false
  | _ => true

/-- Whether a fault says that the resource does not exist. -/
def isNotFound : Fault → Bool
  | notFound _ _ => true
  | _ => false

end Fault

/-! ## Error details -/

/-- Code and message of one of the library's own faults. -/
structure ErrorDetail where
  code : String
  text : String

instance : Viewed ErrorDetail where
  view d := .named "ErrorDetail" [("code", .text d.code), ("message", .text d.text)]

def ErrorDetail.check : Reader ErrorDetail :=
  Check.record fun fs =>
    ErrorDetail.mk <$> Check.field fs "code" Check.text <*> Check.field fs "message" Check.text

/-- The detail of one of the library's own faults. -/
def Fault.detail? (f : Fault) : Option ErrorDetail :=
  f.code?.map fun c => ⟨Vocabulary.value c, f.message⟩

/-- A record with the fields that a datum gives all at once, unchecked and in its order. -/
def View.withFields (v : View) (d : Datum) : Except Fault View :=
  match v, d with
  | named kind fs, .record given =>
    match fs.find? fun f => !Table.has given f.1 with
    | some f => .error (.misuse (.noField kind f.1))
    | none => .ok (named kind ((given.filter fun g => fs.any (·.1 = g.1)).map fun g =>
        (g.1, datum g.2)))
  | _, d => .error (.misuse (.notFields d.kindName))

/-- What becomes of a value given under a name that begins with a low line: it is kept aside and
changes no field. Two such names are taken, by all fields at once and by the kind of the record. -/
def View.assignedAside (v : View) (field : String) (d : Datum) : Except Fault View :=
  if field = "__dict__" then v.withFields d
  else if field = "__class__" then .error (.misuse (.notARecordKind d.kindName))
  else .ok v

/-- Fields that every record has and that cannot be given. -/
def fixedFields : List String := ["model_extra", "model_fields_set"]

/-- A record with another value in a field. Only error details can be changed, and only in the
fields that they have; the new value is not checked. -/
def View.assigned (v : View) (field : String) (d : Datum) : Except Fault View :=
  if field.toList.head? = some '_' then v.assignedAside field d
  else match v with
    | named "ErrorDetail" fs =>
      if fs.any (·.1 = field) then
        .ok (named "ErrorDetail" (fs.map fun f => if f.1 = field then (field, datum d) else f))
      else if fixedFields.contains field then
        .error (.misuse (.fixedField "ErrorDetail" field))
      else .error (.misuse (.foreignField "ErrorDetail" field))
    | _ => .error (.invalid [⟨[field], .frozenInstance⟩])

/-- Turns the issues of a check into a fault. -/
def Checked.orFault {α : Type} : Checked α → Except Fault α
  | .good a => .ok a
  | .bad issues => .error (.invalid issues)

end BlockStorage
