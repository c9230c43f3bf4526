import Obligations.Fiscal.Year
import Obligations.Grouping
import Obligations.Query

/-!
# Obligations — the grouped rows of a quarter

Both row sets of a quarter are fetched and grouped, whichever of them is wanted: the awards
through the quarter first, then the program activities of its final period.
-/

namespace Obligations

/-- The entries of both row sets. -/
structure GroupedSets where
  /-- Awards from the start of the year through the quarter. -/
  cumulative : List Entry
  /-- Program activities of the final period of the quarter. -/
  period : List Entry
deriving DecidableEq

namespace GroupedSets

/-- The set a category is drawn from. -/
def select (s : GroupedSets) (category : Category) : List Entry :=
  match category.rowSet with
  | .cumulative => s.cumulative
  | .period => s.period

/-- The rows that pass the filters, grouped by the category. -/
def ofRows (awards : List Row) (programs : List ProgramRow) (f : Filters) (c : Category) :
    Except Failure GroupedSets := do
  let cumulative ← groupEntries awards f c
  let period ← groupEntries (programs.map ProgramRow.toRow) f c
  return ⟨cumulative, period⟩

/-- Asks for the rows of a quarter and groups them. -/
def fetch (s : Source) (c : Category) (f : Filters) (year : Int) (quarter : Nat) :
    Run GroupedSets :=
  match finalPeriod? quarter with
  | none => .fail (.parameter (.noFinalPeriod quarter))
  | some period => do
    let awards ← s.askAwardRows year (.throughQuarter quarter)
    let programs ← s.askProgramRows year (.inPeriod period)
    Run.lift (ofRows awards programs f c)

end GroupedSets

end Obligations
