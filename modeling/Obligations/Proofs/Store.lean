import Obligations.Explorer
import Obligations.Proofs.Grouping.Totals

/-!
# Obligations — what a store answers

A store that answers at all answers from its rows, whatever was asked before.

* `Store.programRowsFor`, `Store.controlAmountsFor` — what a request about the final period
  of its quarter is answered from;
* `Store.awardRows_of_ok`, `Store.programRows_of_ok`, `Store.controlTotal_of_ok` — answers are
  the rows of the store, or the sum of their amounts;
* `Store.exists_control_iff`, `Store.exists_counted_iff` — whether there is anything to answer
  from.
-/

namespace Obligations

/-- The last period of the quarter a request is about. -/
def Inquiry.finalPeriod (q : Inquiry) : Nat := 3 * q.filters.quarter

namespace Store

/-- The program rows that a request is about. -/
def programRowsFor (s : Store) (q : Inquiry) : List Row :=
  (s.programRowsIn q.filters.year (.inPeriod q.finalPeriod)).map ProgramRow.toRow

/-- The parts of the control total that a request is about. -/
def controlAmountsFor (s : Store) (q : Inquiry) : List Amount :=
  (s.controlRowsIn q.filters.year q.finalPeriod).map ControlRow.amount

variable {s : Store} {year : Int}

/-- The store only counts, so what it has served adds up. -/
theorem after_append (s : Store) (first second : List Query) :
    s.after (first ++ second) = (s.after first).after second := by
  simp [after, Nat.add_assoc]

/-- An answer about awards holds the rows that are in scope. -/
theorem awardRows_of_ok {scope : Scope} {rows : List Row}
    (h : s.source.awardRows year scope = .ok rows) : rows = s.awardRowsIn year scope := by
  simp only [source, Source.refusing] at h
  split at h
  · -- a store that is set to fail gives no answer
    exact nomatch h
  · injection h with h
    exact h.symm

theorem programRows_of_ok {scope : Scope} {rows : List ProgramRow}
    (h : s.source.programRows year scope = .ok rows) : rows = s.programRowsIn year scope := by
  simp only [source, Source.refusing] at h
  split at h
  · exact nomatch h
  · injection h with h
    exact h.symm

/-- A control total is the sum of its parts. -/
theorem controlTotal_of_ok {period : Nat} {total : Option Amount}
    (h : s.source.controlTotal year period = .ok total) :
    sumAmounts ((s.controlRowsIn year period).map ControlRow.amount) = .ok total := by
  simp only [source, Source.refusing] at h
  split at h
  · exact nomatch h
  · exact h

/-! ## Rows of a request -/

/-- There is something to compare with if there is a control row of the year and the period. -/
theorem exists_control_iff {s : Store} {q : Inquiry} :
    s.controlAmountsFor q ≠ [] ↔
      ∃ row ∈ s.controlRows, row.year = q.filters.year ∧ row.period = q.finalPeriod := by
  simp [controlAmountsFor, controlRowsIn]

/-- And something to be compared if there is a row of them that passes the filters and has an
entity. -/
theorem exists_counted_iff {s : Store} {q : Inquiry} :
    countedRows (s.programRowsFor q) q.filters q.category ≠ [] ↔
      ∃ row ∈ s.programRows, row.submission.year = q.filters.year ∧
        row.submission.period = q.finalPeriod ∧ q.filters.admits row.toRow = true ∧
          (row.toRow.label? q.category).isSome = true := by
  constructor
  · intro hne
    obtain ⟨_, hmem⟩ := List.exists_mem_of_ne_nil _ hne
    obtain ⟨hrow, hcounted⟩ := List.mem_filter.mp hmem
    obtain ⟨row, hscoped, rfl⟩ := List.mem_map.mp hrow
    obtain ⟨hstored, hscope⟩ := List.mem_filter.mp hscoped
    -- to be in the scope of a period is to have its year and its number
    simp only [Scope.includes, Bool.and_eq_true, beq_iff_eq] at hscope
    rw [Bool.and_eq_true] at hcounted
    exact ⟨row, hstored, hscope.1, hscope.2, hcounted.1, hcounted.2⟩
  · -- such a row is selected, and then it is counted
    rintro ⟨row, hstored, hyear, hperiod, hadmits, hlabel⟩
    have hscope : (Scope.inPeriod q.finalPeriod).includes q.filters.year row.submission = true := by
      simp [Scope.includes, hyear, hperiod]
    have hrow : row.toRow ∈ s.programRowsFor q :=
      List.mem_map_of_mem (List.mem_filter.mpr ⟨hstored, hscope⟩)
    exact List.ne_nil_of_mem (List.mem_filter.mpr ⟨hrow, by rw [hadmits, hlabel]; rfl⟩)

end Store

end Obligations
