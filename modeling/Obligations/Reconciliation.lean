import Obligations.Config
import Obligations.Query
import Obligations.Ranking

/-!
# Obligations — reconciliation

What was reported is compared with the control total, and the difference is added as an
entry of its own. A control total is about the whole government, so only requests for a
reconciling category with no other than the base filter keys are compared.
-/

namespace Obligations

/-- A result with the total that stands over it. -/
structure Reconciled where
  results : List Entry
  /-- The control total if the entry of what was not reported was added, and the reported
  total otherwise. -/
  total : Option Amount
deriving DecidableEq

/-- A request for the category with these filters is compared with the control total. -/
def Config.isEligible (c : Config) (category : Category) (f : Filters) : Bool :=
  c.isReconciling category && f.keys == c.baseKeys

/-- Adds the entry of what was not reported, if both totals are there. -/
def addUnreported (name : String) (category : Category) (results : List Entry)
    (expected actual : Option Amount) : Except Failure Reconciled :=
  match expected, actual with
  | some expected, some actual => do
    let missing ← expected.sub actual
    return ⟨rank (results ++ [.unreported category name missing]), some expected⟩
  | _, _ => .ok ⟨results, actual⟩

/-- Reconciles the results of a period. `actual` is the sum of their amounts. -/
def reconcile (c : Config) (s : Source) (category : Category) (f : Filters)
    (results : List Entry) (actual : Option Amount) (year : Int) (period : Nat) : Run Reconciled :=
  if c.isEligible category f then do
    -- only here the control total is asked for
    let expected ← s.askControlTotal year period
    Run.lift (addUnreported c.unreportedName category results expected actual)
  else .pure ⟨results, actual⟩

end Obligations
