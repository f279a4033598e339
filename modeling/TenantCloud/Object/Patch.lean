import TenantCloud.Object.Metadata

/-!
# Patches of labels and annotations

A `LabelPatch` gives keys a new value or takes them away. `apply` carries it out, `changes` is the
patch that brings given keys to given values and touches only those that differ, and `removals` is
the patch that takes away those of the given keys that are there.
-/

set_option autoImplicit false

namespace TenantCloud

/-- For some keys, the value to be set, or none where the key is to go. -/
abbrev LabelPatch := Dict String (Option String)

namespace LabelPatch

/-- One step of a patch. -/
def applyOne (labels : Labels) (key : String) : Option String → Labels
  | some v => labels.insert key v
  | none => labels.erase key

/-- Carry out a patch. -/
def apply (p : LabelPatch) (labels : Labels) : Labels :=
  p.toList.foldl (fun acc e => applyOne acc e.1 e.2) labels

/-- Carry out a patch on labels that may be missing; a patch without keys leaves them missing. -/
def applyTo (p : LabelPatch) (labels : Option Labels) : Option Labels :=
  if p.isEmpty then labels else some (p.apply (labels.getD ∅))

/-- Sets the keys of `desired` whose value in `current` is missing or another one. -/
def changes (current : Option Labels) (desired : Labels) : LabelPatch :=
  desired.filterMap fun k v =>
    if current.bind (·.get? k) = some v then none else some (some v)

/-- Takes away those of `keys` that `current` has. -/
def removals (current : Option Labels) (keys : List String) : LabelPatch :=
  .ofList ((keys.filter fun k => current.any (·.contains k)).map (·, none))

/-- Sets one key. -/
def set (key value : String) : LabelPatch := .single key (some value)

/-- Takes one key away. -/
def unset (key : String) : LabelPatch := .single key none

/-- The value of each key, `null` where it is to go. -/
def write (p : LabelPatch) : Json :=
  .obj (p.toList.map fun e => (e.1, Json.orNull (e.2.map .str)))

end LabelPatch

/-- Metadata with its labels and annotations patched. -/
def Metadata.patch (m : Metadata) (labels annotations : LabelPatch) : Metadata :=
  { m with labels := labels.applyTo m.labels, annotations := annotations.applyTo m.annotations }

end TenantCloud
