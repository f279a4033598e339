import TenantCloud.Data.Dict
import TenantCloud.Data.Timestamp
import TenantCloud.Data.Uuid
import TenantCloud.Json.Basic

/-!
# Values on the wire

`Wire α` says how a value of `α` is read from JSON and written. Records are read member by member
from what `members?`, `fields?` or `allFields?` gives: `members?` takes objects in which a repeated
name counts by its last value, `fields?` refuses a repeated name and also takes an array that lists
the first fields in order, and `allFields?` takes only such arrays that list them all. An absent
optional member and a `null` are the same. Each value of a repeated name has to be readable.
-/

set_option autoImplicit false

namespace TenantCloud

/-- How values are read from JSON and written. -/
class Wire (α : Type) where
  read? : Json → Option α
  write : α → Json

namespace Json

def str? : Json → Option String
  | .str s => some s
  | _ => none

def bool? : Json → Option Bool
  | .bool b => some b
  | _ => none

/-- A word out of a list of words: a string, or an object whose only member has that name and is
`null`. -/
def choice? : Json → Option String
  | .str s => some s
  | .obj [(s, .null)] => some s
  | _ => none

/-- A whole number from `lo` to `hi`. -/
def intIn? (lo hi : Int) : Json → Option Int
  | .int n => if lo ≤ n ∧ n ≤ hi then some n else none
  | _ => none

/-- A whole number in 32 signed bits. -/
def int32? : Json → Option Int := intIn? (-Int.pow 2 31) (Int.pow 2 31 - 1)

/-- A whole number in 64 signed bits. -/
def int64? : Json → Option Int := intIn? (-Int.pow 2 63) (Int.pow 2 63 - 1)

/-- A whole number from zero that has `bits` bits at most. -/
def nat? (bits : Nat) (j : Json) : Option Nat := (intIn? 0 (Int.pow 2 bits - 1) j).map Int.toNat

/-- The items of an array, each read by `read?`. -/
def items? {α : Type} (read? : Json → Option α) : Json → Option (List α)
  | .arr items => items.mapM read?
  | _ => none

/-- The members of an object, each value read by `read?`. -/
def dict? {α : Type} (read? : Json → Option α) : Json → Option (Dict String α)
  | .obj ms => (ms.mapM fun m => (read? m.2).map (m.1, ·)).map Dict.ofList
  | _ => none

def ofDict {α : Type} (write : α → Json) (d : Dict String α) : Json :=
  .obj (d.toList.map fun e => (e.1, write e.2))

end Json

instance : Wire String := ⟨Json.str?, .str⟩
instance : Wire Bool := ⟨Json.bool?, .bool⟩
instance : Wire Json := ⟨fun j => if j.isWhole then some j.normalize else none, id⟩
instance : Wire Uuid := ⟨fun j => j.str?.bind Uuid.parse?, fun u => .str u.render⟩
instance : Wire Timestamp := ⟨fun j => j.str?.bind Timestamp.parse?, fun t => .str t.render⟩

instance {α : Type} [Wire α] : Wire (List α) :=
  ⟨Json.items? Wire.read?, fun l => .arr (l.map Wire.write)⟩

instance {α : Type} [Wire α] : Wire (Dict String α) :=
  ⟨Json.dict? Wire.read?, Json.ofDict Wire.write⟩

namespace Json

/-- The members of an object. -/
def members? : Json → Option Members
  | .obj ms => some ms
  | _ => none

/-- The fields `names` of an object that has each of them once at most, or of an array that lists
the first of them. -/
def fields? (names : List String) : Json → Option Members
  | .obj ms => if names.all fun n => occurrences ms n ≤ 1 then some ms else none
  | .arr items => if items.length ≤ names.length then some (names.zip items) else none
  | _ => none

/-- The fields `names` of an object that has each of them once at most, or of an array that lists
them all. -/
def allFields? (names : List String) (j : Json) : Option Members :=
  match j with
  | .arr items => if items.length = names.length then some (names.zip items) else none
  | j => j.fields? names

namespace Members

variable {α : Type} (ms : Members) (name : String)

/-- A value that may be `null`. -/
def nullOr? (read? : Json → Option α) : Json → Option (Option α)
  | .null => some none
  | j => (read? j).map some

/-- A member that may be absent or `null`. -/
def optionalWith? (read? : Json → Option α) : Option (Option α) := do
  let values ← (ms.filter (·.1 == name)).mapM fun m => nullOr? read? m.2
  return values.getLast?.join

/-- A member that must be there. -/
def requiredWith? (read? : Json → Option α) : Option α := (last? ms name).bind read?

/-- A member that counts as `dflt` where it is absent or `null`. -/
def orElseWith? (dflt : α) (read? : Json → Option α) : Option α :=
  (optionalWith? ms name read?).map (·.getD dflt)

/-- A member that counts as `dflt` where it is absent, but not where it is `null`. -/
def absentOr? [Wire α] (dflt : α) : Option α :=
  match last? ms name with
  | none => some dflt
  | some j => Wire.read? j

def optional? [Wire α] : Option (Option α) := optionalWith? ms name Wire.read?
def required? [Wire α] : Option α := requiredWith? ms name Wire.read?
def orElse? [Wire α] (dflt : α) : Option α := orElseWith? ms name dflt Wire.read?

end Members

/-- A value of a type with a wire form. -/
def of {α : Type} [Wire α] (a : α) : Json := Wire.write a

namespace Field

/-- A member that is left out where it has no value. -/
def opt {α : Type} [Wire α] (name : String) (a : Option α) : Field := ⟨name, a.map Wire.write⟩

/-- A moment to the second, left out where there is none. -/
def optSeconds (name : String) (t : Option Timestamp) : Field :=
  ⟨name, t.map fun t => .str t.renderSeconds⟩

/-- A member that is always written. -/
def mem {α : Type} [Wire α] (name : String) (a : α) : Field := ⟨name, some (Wire.write a)⟩

/-- A member that is written as `null` where it has no value. -/
def nullable {α : Type} [Wire α] (name : String) (a : Option α) : Field :=
  ⟨name, some (orNull (a.map Wire.write))⟩

/-- A whole number that is left out where it has no value. -/
def optInt (name : String) (a : Option Int) : Field := ⟨name, a.map .int⟩

/-- A whole number that is written as `null` where it has no value. -/
def nullableInt (name : String) (a : Option Int) : Field := ⟨name, some (orNull (a.map .int))⟩

end Field

end Json

end TenantCloud
