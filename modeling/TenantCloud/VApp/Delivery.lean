import TenantCloud.VApp.Diagram

/-!
# Where the diagram goes

A `Delivery` is what becomes of the diagram of the vApp lifecycle when it is asked for in an empty
directory that stands among temporary files: it is printed, it becomes a file there, it is taken
elsewhere, or its path leads nowhere. A path is walked from directory to directory, so every part
of it but the last has to be there.
-/

set_option autoImplicit false

namespace TenantCloud.VAppStatus

/-- A directory, by the names that lead to it. -/
abbrev Directory := List String

namespace Directory

def root : Directory := []

def devices : Directory := ["dev"]

def temporary : Directory := ["tmp"]

/-- The directory where the command runs. No path names it. -/
def working : Directory := ["tmp", ""]

/-- The directories that are there. -/
def known : List Directory := [root, devices, temporary, working]

/-- Walk on along the parts of a path. The root is above itself. -/
def walk? (d : Directory) : List String → Option Directory
  | [] => some d
  | part :: rest =>
    if part = "" ∨ part = "." then walk? d rest
    else if part = ".." then walk? d.dropLast rest
    else if known.contains (d ++ [part]) then walk? (d ++ [part]) rest
    else none

end Directory

/-- What becomes of the diagram. -/
inductive Destination
  | output
  /-- A file of the working directory. -/
  | file (name : String)
  /-- It is taken elsewhere. -/
  | elsewhere
  deriving DecidableEq

namespace Destination

/-- The most bytes in the name of a file. -/
def maxNameLength : Nat := 255

/-- The most bytes in a path. -/
def maxPathLength : Nat := 4095

/-- The devices that take nothing. -/
def closedDevices : List String := ["full", "tty"]

/-- The name can be the name of a file in a directory. -/
def IsFileName (d : Directory) (name : String) : Prop :=
  name ∉ ["", ".", ".."] ∧ name.utf8ByteSize ≤ maxNameLength ∧ d ++ [name] ∉ Directory.known

instance (d : Directory) (name : String) : Decidable (IsFileName d name) :=
  inferInstanceAs (Decidable (_ ∧ _))

/-- What is written to a file of a directory goes there. -/
def ofFile? (d : Directory) (name : String) : Option Destination :=
  if ¬ IsFileName d name then none
  else if d = Directory.working then some (.file name)
  else if d = Directory.devices then
    if closedDevices.contains name then none
    else some (if name = "stdout" then .output else .elsewhere)
  else some .elsewhere

/-- Where a path leads, if a file can be written there. -/
def ofPath? (path : String) : Option Destination := do
  guard (path.utf8ByteSize ≤ maxPathLength)
  let parts := path.splitOn "/"
  let start := if path.startsWith "/" then Directory.root else Directory.working
  ofFile? (← start.walk? parts.dropLast) (← parts.getLast?)

end Destination

/-- What a request for the diagram brings about. -/
structure Delivery where
  fails : Bool := false
  /-- What is printed. -/
  output : String := ""
  /-- The files in the working directory, each with its text. -/
  files : List (String × String) := []
  deriving DecidableEq

namespace Delivery

/-- Deliver the diagram; without a destination that fails. -/
def ofDestination : Option Destination → Delivery
  | none => { fails := true }
  | some .output => { output := diagram }
  | some (.file name) => { files := [(name, diagram)] }
  | some .elsewhere => {}

/-- What the arguments of a command bring about; without a file the diagram is printed. -/
def ofArgs (args : List String) : Delivery :=
  match outputFile? args with
  | none => ofDestination (some .output)
  | some path => ofDestination (Destination.ofPath? path)

end Delivery

end TenantCloud.VAppStatus
