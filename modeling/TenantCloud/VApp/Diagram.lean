import TenantCloud.VApp.Lifecycle

/-!
# The diagram of the vApp lifecycle

`VAppStatus.diagram` writes the transitions of vApps as a Mermaid state diagram in Markdown. A
transition from any status becomes one line per status but its target, lines that are there
already left out.
-/

set_option autoImplicit false

namespace TenantCloud.VAppStatus

/-- One arrow. -/
def arrow (source target : VAppStatus) (trigger : String) : String :=
  "    " ++ source.word ++ " --> " ++ target.word ++ " : " ++ trigger ++ "\n"

/-- The arrows that a transition adds to those that are there. -/
def addArrows (lines : List String) (t : VAppTransition) : List String :=
  match t.source with
  | some source => lines ++ [arrow source t.target t.trigger]
  | none =>
    let sources := all.filter (· ≠ t.target)
    lines ++ (sources.map fun s => arrow s t.target t.trigger).filter (!lines.contains ·)

/-- All arrows between statuses. -/
def arrows : List String := transitions.foldl addArrows []

/-- The state diagram. -/
def diagram : String :=
  "# vApp State Machine\n\nGenerated from `TRANSITIONS` in `controller/vapp_evaluator.rs`.\n\n" ++
    "```mermaid\nstateDiagram-v2\n    [*] --> " ++ instantiating.word ++ "\n" ++
    String.join arrows ++ "    " ++ deleted.word ++ " --> [*]\n```\n"

/-- The file that the arguments of a command ask for: the one behind the first `--out`. -/
def outputFile? (args : List String) : Option String :=
  ((args.dropWhile (· ≠ "--out")).drop 1).head?

end TenantCloud.VAppStatus
