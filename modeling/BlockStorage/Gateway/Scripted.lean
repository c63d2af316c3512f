import BlockStorage.Gateway
import BlockStorage.Script

/-!
# Scripted providers

A gateway and a client whose answers are written down beforehand, for trying out
the lifecycle flows without a provider. An item of the gateway's script may come
late and may set the caller's cancel event.

* `Scripted.gateway`: answers the requests of the flows.
* `Scripted.client`: replies to the calls of a gateway.
-/

namespace BlockStorage.Scripted

/-- What a script says to a call. -/
inductive Payload
  | scopes (names : List String)
  | volumes (vs : List (Option RemoteVolume))
  | volume (v : RemoteVolume)
  | attachment (a : RemoteAttachment)
  | snapshots (ss : List (Option RemoteSnapshot))
  | snapshot (s : RemoteSnapshot)
  | nothing
  | fault (f : Fault)

structure Item where
  payload : Payload
  /-- How long the answer takes; without it there is no pause at all. -/
  delay : Option Float := none
  /-- Whether the caller's cancel event is set when the call begins. -/
  cancels : Bool := false

/-- The call has no answer in the script that it could have. -/
def unscripted (r : Request) : Fault := .alien .runtime s!"no answer to {r.call}"

/-- The answer to a request, if the payload is of its kind. -/
def answer : (r : Request) → Payload → Except Fault r.Answer
  | _, .fault f => .error f
  | .listScopes, .scopes names => .ok (names.map .text)
  | .describeVolumes _ _, .volumes vs => .ok vs
  | .createVolume _ _ _, .volume v => .ok v
  | .restoreVolume _ _ _ _, .volume v => .ok v
  | .deleteVolume _ _, .nothing => .ok ()
  | .attachVolume _ _ _ _, .attachment a => .ok a
  | .detachVolume _ _ _ _ _, .attachment a => .ok a
  | .describeSnapshots _ _ _, .snapshots ss => .ok ss
  | .createSnapshot _ _ _, .snapshot s => .ok s
  | .deleteSnapshot _ _, .nothing => .ok ()
  | r, _ => .error (unscripted r)

/-- Answers from a script. -/
def gateway : Gateway (Script Item) where
  pauses := 1
  call r _ script :=
    match script.next? (script.trackFor r.call r.scope?) with
    | none => .done ⟨script, [], false⟩ (.error (unscripted r))
    | some (item, script) =>
      match item.delay with
      | none => .done ⟨script, [], item.cancels⟩ (answer r item.payload)
      | some delay =>
        .paused ⟨script, [], item.cancels⟩ delay fun _ script =>
          .done ⟨script, [], false⟩ (answer r item.payload)

/-- Replies from a script. -/
def client : Client (Script Reply) where
  send region call _ script :=
    match script.next? (script.trackFor call (some region)) with
    | some (reply, script) => (reply, script)
    | none => (.fault (.alien .runtime s!"no reply to {call}"), script)

end BlockStorage.Scripted
