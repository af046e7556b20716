/-!
Classes of characters as ascending runs of code points, first and last included. The tables of all classes
and case mappings are those of Unicode 16.0.
-/

namespace FlowClient.Text

abbrev Runs := List (Nat × Nat)

def Runs.has (runs : Runs) (code : Nat) : Bool :=
  runs.any fun run => run.1 ≤ code && code ≤ run.2

/-- The code point lies in one of the runs and has the parity of the run's first member. -/
def Runs.hasAlternate (runs : Runs) (code : Nat) : Bool :=
  runs.any fun run => run.1 ≤ code && code ≤ run.2 && (code - run.1) % 2 == 0

end FlowClient.Text
