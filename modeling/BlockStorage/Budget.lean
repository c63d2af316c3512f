import BlockStorage.Check

/-!
# Wait budgets

How often and how fast a wait may look again. `PollBudget` is one budget;
`PollSettings` holds the default one and those of single operations, and
`PollSettings.budgetFor` chooses between them.
-/

namespace BlockStorage

/-- At most `maxAttempts` refreshes, `delay` seconds before each. -/
structure PollBudget where
  maxAttempts : Nat := 600
  delay : Float := 10.0

namespace PollBudget

instance : Viewed PollBudget where
  view b := .named "PollBudget" [("max_attempts", .datum (.int b.maxAttempts)),
    ("delay", .real b.delay)]

def check : Reader PollBudget := Check.record fun fs =>
  PollBudget.mk <$> Check.fieldOr fs "max_attempts" 600 (Check.atLeast 1)
    <*> Check.fieldOr fs "delay" 10.0 (Check.nonnegative Check.real)

end PollBudget

structure PollSettings where
  maxAttempts : Nat := 600
  delay : Float := 10.0
  /-- Budgets of single operations, by their names. -/
  overrides : List (String × PollBudget) := []

namespace PollSettings

/-- The budget of an operation: its own, or the default one. -/
def budgetFor (s : PollSettings) (operation : String) : PollBudget :=
  (s.overrides.lookup operation).getD ⟨s.maxAttempts, s.delay⟩

section BudgetFor

variable {s : PollSettings} {operation : String}

/-- An operation that has a budget of its own gets that one. -/
theorem budgetFor_of_lookup {b : PollBudget} (h : s.overrides.lookup operation = some b) :
    s.budgetFor operation = b := by
  rw [budgetFor, h, Option.getD_some]

/-- Every other operation gets the default one. -/
theorem budgetFor_of_lookup_none (h : s.overrides.lookup operation = none) :
    s.budgetFor operation = ⟨s.maxAttempts, s.delay⟩ := by
  rw [budgetFor, h, Option.getD_none]

end BudgetFor

instance : Viewed PollSettings where
  view s := .named "PollerConfig" [("max_attempts", .datum (.int s.maxAttempts)),
    ("delay", .real s.delay),
    ("overrides", .table (s.overrides.map fun o => (o.1, Viewed.view o.2)))]

end PollSettings

end BlockStorage
