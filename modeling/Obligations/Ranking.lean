import Obligations.Entry
import Obligations.Text.Integer

/-!
# Obligations — ranking

Results are listed by amount, the largest first and entries without an amount last. Equal
amounts are ordered by id: no id first, then the ids that are numbers, by value and then as
text, then the others as text. Entries that agree in both keep their order.

* `Entry.precedes` — the order of two entries;
* `rank` — the entries in that order.
-/

namespace Obligations

/-! ## Order -/

/-- How an id takes part in breaking ties. -/
inductive TieKey where
  | absent
  | number (value : Nat) (id : String)
  | text (id : String)
deriving DecidableEq

namespace TieKey

/-- The key of an id. An id is a number if it is a natural number of 64 bits. -/
def ofId : Option String → TieKey
  | none => absent
  | some id =>
    match Integer.nat64? id with
    | some n => number n id
    | none => text id

/-- No id comes before any, and numbers before texts. -/
def compare : TieKey → TieKey → Ordering
  | absent, absent => .eq
  | absent, _ => .lt
  | number _ _, absent => .gt
  | number m a, number n b => (Ord.compare m n).then (Ord.compare a b)
  | number _ _, text _ => .lt
  | text a, text b => Ord.compare a b
  | text _, _ => .gt

end TieKey

/-- The order of two amounts in a list, the larger first and absent ones last. -/
def compareAmounts : Option Amount → Option Amount → Ordering
  | none, none => .eq
  | none, some _ => .gt
  | some _, none => .lt
  | some a, some b => b.cmp a

namespace Entry

/-- Entries are compared by amount, and by id where the amounts tie. -/
def compare (a b : Entry) : Ordering :=
  (compareAmounts a.amount b.amount).then ((TieKey.ofId a.id).compare (TieKey.ofId b.id))

/-- `a` may stand before `b`. -/
def precedes (a b : Entry) : Bool := (a.compare b).isLE

end Entry

/-! ## Sorting -/

/-- Puts `e` in front of the first entry it may stand before. -/
def placeEntry (e : Entry) : List Entry → List Entry
  | [] => [e]
  | x :: xs => if e.precedes x then e :: x :: xs else x :: placeEntry e xs

/-- The entries in order. Those that tie keep the order they were given in. -/
def rank (es : List Entry) : List Entry := es.foldr placeEntry []

/-- Nothing is lost and nothing else comes in. -/
theorem placeEntry_perm (e : Entry) (es : List Entry) : (placeEntry e es).Perm (e :: es) := by
  induction es with
  | nil => exact .refl _
  | cons x xs ih =>
    rw [placeEntry]
    split
    · exact .refl _
    · exact (ih.cons x).trans (.swap e x xs)

theorem rank_perm (es : List Entry) : (rank es).Perm es := by
  induction es with
  | nil => exact .refl _
  | cons e es ih => exact (placeEntry_perm e _).trans (ih.cons e)

end Obligations
