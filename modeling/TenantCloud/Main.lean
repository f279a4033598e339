import TenantCloud.VApp.Diagram

/-!
# The command line

Writes the state diagram of vApps to the file behind `--out`, or else to standard output.
-/

set_option autoImplicit false

open TenantCloud

def main (args : List String) : IO Unit := do
  match VAppStatus.outputFile? args with
  | some path =>
    IO.FS.writeFile path VAppStatus.diagram
    IO.eprintln ("wrote " ++ path)
  | none => IO.print VAppStatus.diagram
