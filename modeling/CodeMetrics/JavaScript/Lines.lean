import CodeMetrics.Tree
import CodeMetrics.Text.Blank
/-!
Lines of program text.
-/
namespace CodeMetrics.JavaScript

/-- The rows from one position to another, of which the last counts only when it holds text or is
the only one. -/
def rowsBetween (start stop : Position) : Nat :=
  let rows := stop.row - start.row
  if stop.column = 0 ∧ 0 < rows then rows else rows + 1

def physicalLines (program : Program) : Nat :=
  if Text.isBlank program.source then 0
  else rowsBetween program.root.label.start program.root.label.stop

end CodeMetrics.JavaScript
