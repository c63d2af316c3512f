import BlockStorage.Fault

/-!
# Handles

A resource has one opaque name across the border of the library: its scope (a
region), a slash, and its local id in that scope.

* `Handle.encode`: joins the two parts, if neither is empty or holds a slash.
* `Handle.decode`: splits at the first slash, if there is something on both
  sides. The local id may hold further slashes.
* `Handle.regionOfZone`: the region of an availability zone, `us-east-1` for
  `us-east-1a`.
-/

namespace BlockStorage

structure Handle where
  scope : String
  localId : String
  deriving DecidableEq, Repr

namespace Handle

def separator : Char := '/'

/-- Joins scope and local id. The local id is looked at first. -/
def encode (scope localId : String) : Except BadArgument String :=
  if localId.isEmpty then .error .emptyLocalId
  else if localId.toList.contains separator then .error (.separatorInLocalId localId)
  else if scope.isEmpty then .error .emptyScope
  else if scope.toList.contains separator then .error (.separatorInScope scope)
  else .ok (String.ofList (scope.toList ++ separator :: localId.toList))

/-- Splits a handle at its first separator. -/
def decode (handle : String) : Except BadArgument Handle :=
  let cs := handle.toList
  let scope := cs.takeWhile (· ≠ separator)
  match cs.dropWhile (· ≠ separator) with
  | _ :: rest =>
    if scope.isEmpty || rest.isEmpty then .error (.malformedHandle handle)
    else .ok ⟨String.ofList scope, String.ofList rest⟩
  | [] => .error (.malformedHandle handle)

/-- The handles of a volume and a node, which have to be of one scope. -/
def sameScope (volume node : String) : Except BadArgument (Handle × Handle) := do
  let v ← decode volume
  let n ← decode node
  if n.scope ≠ v.scope then throw (.scopesDiffer node volume)
  return (v, n)

/-- The text of a handle. -/
def encoded (h : Handle) : Except BadArgument String := encode h.scope h.localId

instance : Viewed Handle where
  view h := .named "ResourceIdentifier" [("scope", .text h.scope), ("local_id", .text h.localId)]

def check : Reader Handle :=
  Check.record fun fs =>
    Handle.mk <$> Check.field fs "scope" Check.text <*> Check.field fs "local_id" Check.text

/-! ## Zones -/

/-- Small letters of the plain alphabet. -/
def isZoneLetter (c : Char) : Bool := 'a' ≤ c && c ≤ 'z'

/-- Whether a text ends here, or before its last newline. -/
def isEnd (rest : List Char) : Bool := rest = [] || rest = ['\n']

/-- How many letters lead from here to an end: as many as can, none where they lead to no end. -/
def lettersToEnd : List Char → Nat
  | [] => 0
  | c :: cs =>
    if isZoneLetter c then
      match lettersToEnd cs with
      | 0 => if isEnd cs then 1 else 0
      | n + 1 => n + 2
    else 0

/-- Goes through a text from left to right and leaves out the letters wherever they lead to an end,
after so many characters that are left out already. -/
def withoutLetters : Nat → List Char → List Char
  | _, [] => []
  | n + 1, _ :: cs => withoutLetters n cs
  | 0, c :: cs =>
    match lettersToEnd (c :: cs) with
    | 0 => c :: withoutLetters 0 cs
    | n + 1 => withoutLetters n cs

/-- A zone without the letters that lead to its end. There has to be something left, and something
left out. -/
def regionOfZone (zone : String) : Except BadArgument String :=
  if zone.isEmpty then .error .emptyZone else
  let region := withoutLetters 0 zone.toList
  if region.isEmpty || region = zone.toList then .error (.notAZone zone)
  else .ok (String.ofList region)

end Handle

end BlockStorage
