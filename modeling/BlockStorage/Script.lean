/-!
# Scripts

A script stands in for a party whose answers are known beforehand: named tracks
of items, which are used one after the other. The last item of a track stays.
-/

namespace BlockStorage

structure Script (ι : Type) where
  tracks : List (String × List ι)

namespace Script

variable {ι : Type}

/-- What is left of a track when its first item has been used. -/
def used : List ι → List ι
  | _ :: item :: rest => item :: rest
  | track => track

/-- The next item of a track. -/
def next? (s : Script ι) (name : String) : Option (ι × Script ι) :=
  match s.tracks.lookup name with
  | some (item :: rest) =>
    some (item, ⟨s.tracks.map fun t => if t.1 = name then (name, used (item :: rest)) else t⟩)
  | _ => none

/-- The name of the track that a call in a scope uses: one for the scope alone, if there is one. -/
def trackFor (s : Script ι) (call : String) (scope : Option String) : String :=
  match scope with
  | none => call
  | some scope =>
    let own := call ++ "@" ++ scope
    if (s.tracks.lookup own).isSome then own else call

end Script

end BlockStorage
