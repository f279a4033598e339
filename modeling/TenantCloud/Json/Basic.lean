/-!
# JSON values

`Json` keeps whole numbers apart from all others, of which it keeps the text, and keeps the members
of an object as written, so that a repeated name can be told. `last?` is the member that counts
where a repeated name is allowed, and `normalize` keeps that one only, in name order.
A part of a text that has the form of a value but that cannot be held is `broken`; a reader that
does not look at that part does not mind. `isWhole` says that nothing is broken.
-/

set_option autoImplicit false

namespace TenantCloud

/-- A JSON value. A number is `int` if it is written without fraction and exponent and fits 64
bits, signed or unsigned; else `real` holds the text by which it is written. -/
inductive Json
  | null
  | bool (b : Bool)
  | int (n : Int)
  | real (text : String)
  | str (s : String)
  | arr (items : List Json)
  | obj (members : List (String × Json))
  /-- What cannot be held: a text with half of a surrogate pair, a number beyond all floats, an
  object with such a name, or brackets that are nested too deep. -/
  | broken
  deriving Inhabited

namespace Json

/-- Members of an object. -/
abbrev Members := List (String × Json)

mutual

def decEq : (a b : Json) → Decidable (a = b)
  | .null, .null => isTrue rfl
  | .bool a, .bool b => decidable_of_iff (a = b) (by simp)
  | .int a, .int b => decidable_of_iff (a = b) (by simp)
  | .real a, .real b => decidable_of_iff (a = b) (by simp)
  | .str a, .str b => decidable_of_iff (a = b) (by simp)
  | .arr a, .arr b => have := decEqItems a b; decidable_of_iff (a = b) (by simp)
  | .obj a, .obj b => have := decEqMembers a b; decidable_of_iff (a = b) (by simp)
  | .broken, .broken => isTrue rfl
  | .null, .bool _ | .null, .int _ | .null, .real _ | .null, .str _ | .null, .arr _ | .null, .obj _
  | .bool _, .null | .bool _, .int _ | .bool _, .real _ | .bool _, .str _ | .bool _, .arr _
  | .bool _, .obj _ | .int _, .null | .int _, .bool _ | .int _, .real _ | .int _, .str _
  | .int _, .arr _ | .int _, .obj _ | .real _, .null | .real _, .bool _ | .real _, .int _
  | .real _, .str _ | .real _, .arr _ | .real _, .obj _ | .str _, .null | .str _, .bool _
  | .str _, .int _ | .str _, .real _ | .str _, .arr _ | .str _, .obj _ | .arr _, .null
  | .arr _, .bool _ | .arr _, .int _ | .arr _, .real _ | .arr _, .str _ | .arr _, .obj _
  | .obj _, .null | .obj _, .bool _ | .obj _, .int _ | .obj _, .real _ | .obj _, .str _
  | .obj _, .arr _ | .null, .broken | .bool _, .broken | .int _, .broken | .real _, .broken
  | .str _, .broken | .arr _, .broken | .obj _, .broken | .broken, .null | .broken, .bool _
  | .broken, .int _ | .broken, .real _ | .broken, .str _ | .broken, .arr _ | .broken, .obj _ =>
    isFalse nofun

def decEqItems : (a b : List Json) → Decidable (a = b)
  | [], [] => isTrue rfl
  | [], _ :: _ => isFalse nofun
  | _ :: _, [] => isFalse nofun
  | a :: as, b :: bs =>
    have := decEq a b
    have := decEqItems as bs
    decidable_of_iff (a = b ∧ as = bs) (by simp)

def decEqMembers : (a b : List (String × Json)) → Decidable (a = b)
  | [], [] => isTrue rfl
  | [], _ :: _ => isFalse nofun
  | _ :: _, [] => isFalse nofun
  | (k, a) :: as, (l, b) :: bs =>
    have := decEq a b
    have := decEqMembers as bs
    decidable_of_iff (k = l ∧ a = b ∧ as = bs) (by simp [and_assoc])

end

instance : DecidableEq Json := decEq

/-- The value of the last member with a name. -/
def last? (ms : Members) (name : String) : Option Json :=
  (ms.reverse.find? (·.1 == name)).map (·.2)

/-- How many members have a name. -/
def occurrences (ms : Members) (name : String) : Nat := ms.countP (·.1 == name)

/-- Put a member into a list in name order, in place of one with its name. -/
def insertMember (name : String) (v : Json) : Members → Members
  | [] => [(name, v)]
  | (k, w) :: rest =>
    if name < k then (name, v) :: (k, w) :: rest
    else if name = k then (name, v) :: rest
    else (k, w) :: insertMember name v rest

mutual

/-- Members in name order, the last of each name only, at every depth. -/
def normalize : Json → Json
  | .arr items => .arr (normalizeItems items)
  | .obj ms => .obj (normalizeMembers ms [])
  | j => j

def normalizeItems : List Json → List Json
  | [] => []
  | j :: rest => normalize j :: normalizeItems rest

def normalizeMembers : Members → Members → Members
  | [], acc => acc
  | (k, v) :: rest, acc => normalizeMembers rest (insertMember k (normalize v) acc)

end

mutual

/-- Nothing in a value is broken. -/
def isWhole : Json → Bool
  | .broken => false
  | .arr items => areWhole items
  | .obj ms => areWholeMembers ms
  | _ => true

def areWhole : List Json → Bool
  | [] => true
  | j :: rest => isWhole j && areWhole rest

def areWholeMembers : Members → Bool
  | [] => true
  | (_, v) :: rest => isWhole v && areWholeMembers rest

end

/-- A member of an object to be written, left out where it has no value. -/
structure Field where
  name : String
  value : Option Json

/-- An object of the members that have a value. -/
def record (fs : List Field) : Json := .obj (fs.filterMap fun f => f.value.map (f.name, ·))

/-- A value or `null`. -/
def orNull : Option Json → Json
  | some j => j
  | none => .null

end Json

end TenantCloud
