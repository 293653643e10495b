import ChipLink.Survey.Run

/-!
# The survey program

Surveys a small fabric of simulated chips and prints what was found.
-/

namespace ChipLink

/-- Prints what a run of the survey says, and ends as it says. -/
def printRun (run : Survey.Run) : IO UInt32 := do
  IO.print run.output
  unless run.complaint.isEmpty do
    IO.eprintln run.complaint
  return run.exitCode

end ChipLink

/-- The survey program. -/
def main (words : List String) : IO UInt32 := ChipLink.printRun (ChipLink.Survey.run words)
