import BlockStorage.Fault
import BlockStorage.Log.Schema

/-!
# Which faults may pass

A `Verdict` on a fault decides whether a call is sent again. Two classifiers
give verdicts:

* `classify`, for calls that may be repeated: throttling, transient server
  errors, dropped connections and timeouts may pass.
* `classifyMutation`, for calls that must not be applied twice: only throttling
  and a refused connection certainly left the provider untouched. Whatever else
  may pass counts as unknown.

`errorClass` is the class that logs and metrics report.
-/

namespace BlockStorage

inductive Verdict
  | retryable | permanent | unknown
  deriving DecidableEq, Repr

def Verdict.text : Verdict → String
  | retryable => "retryable"
  | permanent => "permanent"
  | unknown => "unknown"

/-- A rule that judges faults. -/
abbrev Classifier := Fault → Verdict

namespace Rejection

/-- Rejected before the request was applied. -/
def throttlingCodes : List String := ["RequestLimitExceeded", "Throttling", "ThrottlingException"]

/-- The same request may be accepted later. -/
def retryableCodes : List String :=
  throttlingCodes ++ ["ServiceUnavailable", "Unavailable", "InternalError", "InternalFailure",
    "RequestTimeout", "RequestTimeoutException", "IncorrectState"]

/-- The same request will be rejected again. -/
def permanentCodes : List String :=
  ["AuthFailure", "UnauthorizedOperation", "InvalidParameter", "InvalidParameterValue",
    "InvalidParameterCombination", "MissingParameter", "VolumeLimitExceeded",
    "SnapshotLimitExceeded", "VolumeInUse", "InvalidVolume.ZoneMismatch"]

/-- Codes of the form `<Resource>.NotFound` say that a resource is missing. -/
def isNotFoundCode (code : String) : Bool := ".NotFound".toList.isSuffixOf code.toList

/-- Codes of the form `<Resource>.Malformed` say that an id cannot be one. -/
def isMalformedCode (code : String) : Bool := ".Malformed".toList.isSuffixOf code.toList

/-- Whether the rejection certainly came before the request was applied. -/
def isThrottling (r : Rejection) : Bool := throttlingCodes.contains r.codeOrEmpty

def verdict (r : Rejection) : Verdict :=
  let code := r.codeOrEmpty
  if retryableCodes.contains code then .retryable
  else if permanentCodes.contains code || isNotFoundCode code || isMalformedCode code then
    .permanent
  else .unknown

end Rejection

/-- A connection that was refused, dropped or too slow may work later. -/
def Transport.verdict : Transport → Verdict
  | cannotConnect _ | connectionClosed _ | readTimeout _ => .retryable
  | connectTimeout _ | noCredentials | noRegion | other _ _ => .unknown

namespace Fault

/-- The verdict for calls that may be repeated. -/
def classify : Classifier
  | timedOut _ => .retryable
  | notFound _ _ | argument _ => .permanent
  | transport t => t.verdict
  | rejected r => r.verdict
  | _ => .unknown

/-- Whether the call certainly did not reach the provider's state. -/
def isUnapplied : Fault → Bool
  | rejected r => r.isThrottling
  | transport (.cannotConnect _) => true
  | _ => false

/-- The verdict for calls that must not be applied twice. -/
def classifyMutation : Classifier := fun f =>
  if f.isUnapplied then .retryable
  else match classify f with
    | .retryable => .unknown
    | v => v

/-- The class under which logs and metrics report a fault. -/
def errorClass (f : Fault) : ErrorClass :=
  match f with
  | notFound _ _ => .notFound
  | timedOut _ => .timeout
  | rejected r =>
    if Rejection.isNotFoundCode r.codeOrEmpty then .notFound
    else if r.verdict = .retryable then .transient else .permanent
  | f => if classify f = .retryable then .transient else .permanent

end Fault

end BlockStorage
