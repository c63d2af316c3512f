import BlockStorage.Volume.Remote
import BlockStorage.Wire

/-!
# Gateways

The narrow contract between the lifecycle flows and a provider. A `Request` is
one call, always about one scope; a `Gateway` answers each request with a value
of its own kind, or fails. No call waits for an effect to settle: the answer is
the state at the moment of the call.

* `Request.Answer`: what a request is answered with.
* `Gateway`: the calls of a provider, as legs.
* `Request.isRepeatable`: the requests that may be sent again after a failure
  whose effect is unknown.
-/

namespace BlockStorage

inductive Request
  | listScopes
  /-- The volumes with these local ids; all of them without any. -/
  | describeVolumes (scope : String) (ids : List String)
  /-- An empty volume. Its size is read when the request is sent. -/
  | createVolume (scope : String) (sizeGb : Datum) (zone : String)
  /-- A volume restored from a snapshot; a size that is not null overrides that of the snapshot. -/
  | restoreVolume (scope snapshotId zone : String) (sizeGb : Datum)
  | deleteVolume (scope volumeId : String)
  | attachVolume (scope volumeId nodeId device : String)
  | detachVolume (scope volumeId : String) (force : Bool) (device nodeId : Option String)
  /-- The snapshots with these local ids, of this volume. -/
  | describeSnapshots (scope : String) (ids : Option (List String)) (volumeId : Option String)
  | createSnapshot (scope volumeId description : String)
  | deleteSnapshot (scope snapshotId : String)

namespace Request

/-- What a request is answered with. Scopes are as the provider names them; other lists may have
gaps. -/
abbrev Answer : Request → Type
  | listScopes => List Datum
  | describeVolumes _ _ => List (Option RemoteVolume)
  | createVolume _ _ _ => RemoteVolume
  | restoreVolume _ _ _ _ => RemoteVolume
  | deleteVolume _ _ => Unit
  | attachVolume _ _ _ _ => RemoteAttachment
  | detachVolume _ _ _ _ _ => RemoteAttachment
  | describeSnapshots _ _ _ => List (Option RemoteSnapshot)
  | createSnapshot _ _ _ => RemoteSnapshot
  | deleteSnapshot _ _ => Unit

/-- The name of the call. -/
def call : Request → String
  | listScopes => "list_scopes"
  | describeVolumes _ _ => "describe_volumes"
  | createVolume _ _ _ => "create_volume"
  | restoreVolume _ _ _ _ => "create_volume_from_snapshot"
  | deleteVolume _ _ => "delete_volume"
  | attachVolume _ _ _ _ => "attach_volume"
  | detachVolume _ _ _ _ _ => "detach_volume"
  | describeSnapshots _ _ _ => "describe_snapshots"
  | createSnapshot _ _ _ => "create_snapshot"
  | deleteSnapshot _ _ => "delete_snapshot"

/-- The scope that the call is about. -/
def scope? : Request → Option String
  | listScopes => none
  | describeVolumes s _ | createVolume s _ _ | restoreVolume s _ _ _ | deleteVolume s _
  | attachVolume s _ _ _ | detachVolume s _ _ _ _ | describeSnapshots s _ _
  | createSnapshot s _ _ | deleteSnapshot s _ => some s

/-- The arguments of the call in order. -/
def arguments : Request → List Datum
  | listScopes => []
  | describeVolumes s ids => .text s :: ids.map .text
  | createVolume s size zone => [.text s, size, .text zone]
  | restoreVolume s id zone size =>
    [.text s, .text id, .text zone, size]
  | deleteVolume s id => [.text s, .text id]
  | attachVolume s id node device => [.text s, .text id, .text node, .text device]
  | detachVolume s id force device node =>
    [.text s, .text id, .bool force, .ofText? device, .ofText? node]
  | describeSnapshots s ids volume =>
    [.text s, (ids.map fun ids => Datum.list (ids.map .text)).getD .null, .ofText? volume]
  | createSnapshot s id description => [.text s, .text id, .text description]
  | deleteSnapshot s id => [.text s, .text id]

/-- Whether a request may be sent again after a failure whose effect is unknown: what reads, and
what deletes. -/
def isRepeatable : Request → Bool
  | createVolume _ _ _ | restoreVolume _ _ _ _ | attachVolume _ _ _ _ | detachVolume _ _ _ _ _
  | createSnapshot _ _ _ => false
  | _ => true

/-- How an answer looks from outside. -/
def answerView : (r : Request) → r.Answer → View
  | listScopes, scopes => .tuple (scopes.map .datum)
  | describeVolumes _ _, vs => .tuple (vs.map fun v => (v.map Viewed.view).getD (.datum .null))
  | createVolume _ _ _, v => Viewed.view v
  | restoreVolume _ _ _ _, v => Viewed.view v
  | deleteVolume _ _, _ => .datum .null
  | attachVolume _ _ _ _, a => Viewed.view a
  | detachVolume _ _ _ _ _, a => Viewed.view a
  | describeSnapshots _ _ _, ss => .tuple (ss.map fun s => (s.map Viewed.view).getD (.datum .null))
  | createSnapshot _ _ _, s => Viewed.view s
  | deleteSnapshot _ _, _ => .datum .null

end Request

/-- The calls of a provider: each starts at a time and from a state of the provider. -/
structure Gateway (γ : Type) where
  /-- How often a call pauses at most. -/
  pauses : Nat
  call : (r : Request) → Float → γ → Leg WireEvent γ (Except Fault r.Answer) pauses

end BlockStorage
