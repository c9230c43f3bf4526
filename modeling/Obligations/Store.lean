import Obligations.Entry
import Obligations.Query

/-!
# Obligations — the store

A source that holds its rows in memory (`Store.source`). It can be set to fail, and then
refuses every query with the same message. `Store.served` counts the queries it was asked,
refused ones included; `Store.after` is the store after a list of queries.
-/

namespace Obligations

/-- Rows in memory, with the number of queries that were asked for them. -/
structure Store where
  awardRows : List Row
  programRows : List ProgramRow
  controlRows : List ControlRow
  /-- The message every query is refused with, if the store is set to fail. -/
  failure : Option String
  served : Nat
deriving DecidableEq

namespace Store

def empty : Store := ⟨[], [], [], none, 0⟩

/-- The store, set to refuse every query with `message`. -/
def failing (s : Store) (message : String) : Store := { s with failure := some message }

def addAwardRows (s : Store) (rows : List Row) : Store :=
  { s with awardRows := s.awardRows ++ rows }

def addProgramRows (s : Store) (rows : List ProgramRow) : Store :=
  { s with programRows := s.programRows ++ rows }

def addControlRow (s : Store) (row : ControlRow) : Store :=
  { s with controlRows := s.controlRows ++ [row] }

/-- Why the store refuses a query, if it is set to fail. -/
def refusal (s : Store) (q : Query) : Option Failure :=
  s.failure.map fun message => .source (q.name ++ ": " ++ message)

/-- The rows of awards that belong to the year and scope. -/
def awardRowsIn (s : Store) (year : Int) (scope : Scope) : List Row :=
  s.awardRows.filter fun r => scope.includes year r.submission

/-- The rows of program activities that belong to the year and scope. -/
def programRowsIn (s : Store) (year : Int) (scope : Scope) : List ProgramRow :=
  s.programRows.filter fun r => scope.includes year r.submission

/-- The control rows of a period. -/
def controlRowsIn (s : Store) (year : Int) (period : Nat) : List ControlRow :=
  s.controlRows.filter fun r => r.year == year && r.period == period

/-- The answers of the store while it is not set to fail. -/
def answers (s : Store) : Source where
  awardRows year scope := .ok (s.awardRowsIn year scope)
  programRows year scope := .ok (s.programRowsIn year scope)
  controlTotal year period := sumAmounts ((s.controlRowsIn year period).map ControlRow.amount)

/-- The store as a source, which refuses everything if it is set to fail. -/
def source (s : Store) : Source := s.answers.refusing s.refusal

/-- The store after these queries. Nothing but the count of them changes. -/
def after (s : Store) (queries : List Query) : Store :=
  { s with served := s.served + queries.length }

end Store

end Obligations
