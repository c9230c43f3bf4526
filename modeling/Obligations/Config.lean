import Obligations.Filters
import Obligations.Fiscal.Schedule

/-!
# Obligations — configuration

Which categories can be asked for, which of them are reconciled with control totals, which
filter keys a request for the whole government has, how the entry of what was not reported
is called, and when quarters are revealed.

* `Config.IsValid`, `Config.fault?` — what a configuration has to meet, and the first
  thing that it does not;
* `Config.category` — the enabled category a request names.
-/

namespace Obligations

/-- The settings of an explorer. -/
structure Config where
  categories : List Category
  reconciling : List Category
  baseKeys : KeySet
  unreportedName : String
  schedule : RevealSchedule
deriving DecidableEq

namespace Config

/-- The settings that apply unless others are given. -/
def withSchedule (schedule : RevealSchedule) : Config where
  categories := Category.all
  reconciling := [.agency, .budgetFunction, .objectClass]
  baseKeys := .ofList [yearKey, quarterKey]
  unreportedName := "Unreported Data"
  schedule := schedule

/-- The default settings as of a fiscal year: the standard schedule goes on to the next. -/
def default (currentYear : Int) : Config :=
  withSchedule (.standard RevealSchedule.firstReportedYear (currentYear + 1))

/-! ## Validity -/

/-- The text is empty or white space throughout. -/
def isBlankText (s : String) : Bool := s.toList.all isBlank

/-- The first reconciling category that is not enabled. -/
def notEnabled? (c : Config) : Option Category := c.reconciling.find? fun x => x ∉ c.categories

/-- The first key that has to be among the base keys and is not. -/
def missingKey? (c : Config) : Option String := [yearKey, quarterKey].find? fun k => k ∉ c.baseKeys

/-- The first thing that keeps the settings from being used. -/
def fault? (c : Config) : Option ConfigFault :=
  if c.categories = [] then some .noCategories
  else
    -- categories are looked at before keys, and keys before the name
    match c.notEnabled?, c.missingKey? with
    | some category, _ => some (.reconcilingNotEnabled category)
    | none, some key => some (.missingBaseKey key)
    | none, none => if isBlankText c.unreportedName then some .blankName else none

/-- The settings can be used. -/
def IsValid (c : Config) : Prop :=
  c.categories ≠ [] ∧ (∀ x ∈ c.reconciling, x ∈ c.categories) ∧
    yearKey ∈ c.baseKeys ∧ quarterKey ∈ c.baseKeys ∧ isBlankText c.unreportedName = false

/-- Settings without a fault can be used, and only these. -/
theorem fault?_eq_none_iff (c : Config) : c.fault? = none ↔ c.IsValid := by
  have enabled : c.notEnabled? = none ↔ ∀ x ∈ c.reconciling, x ∈ c.categories := by
    simp [notEnabled?]
  have present : c.missingKey? = none ↔ yearKey ∈ c.baseKeys ∧ quarterKey ∈ c.baseKeys := by
    simp [missingKey?]
  unfold IsValid
  rw [← enabled, ← and_assoc (a := yearKey ∈ c.baseKeys), ← present, fault?]
  split
  · simp_all
  · cases c.notEnabled? <;> cases c.missingKey? <;> simp_all

/-- Refuses settings that cannot be used. -/
def validate (c : Config) : Except ConfigFault Unit :=
  match c.fault? with
  | some fault => .error fault
  | none => .ok ()

/-! ## Requests -/

/-- The enabled category of this name. -/
def category (c : Config) : Option String → Except CategoryFault Category
  | none => .error .missing
  | some name => do
    let x ← Category.read name
    if x ∈ c.categories then return x else throw (.disabled x)

/-- Results of the category are compared with control totals. -/
def isReconciling (c : Config) (category : Category) : Bool := category ∈ c.reconciling

end Config

end Obligations
