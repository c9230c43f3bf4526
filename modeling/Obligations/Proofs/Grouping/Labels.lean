import Obligations.Grouping

/-!
# Obligations — what a row is labelled with

For every category there is one place in a row where its entity stands, and a rule how that entity
is identified and shown. The table is written out here as a relation, with a line for each category,
and the label that grouping computes is the one of the table. Everything that is said about groups
of rows is said in terms of this relation.

* `Award.GoesBy`, `Award.goesBy_iff` — the code of an award, said of its identifiers;
* `Row.IsLabelled` — the table;
* `Row.label?_eq_some_iff` — the computed label is the one of the table.
-/

namespace Obligations

/-! ## Codes of awards -/

/-- The code of an award: the first of its PIID, FAIN and URI that is given and not empty. -/
inductive Award.GoesBy (a : Award) : Option String → Prop
  | first {before after : List (Option String)} {code : String} :
      [a.piid, a.fain, a.uri] = before ++ some code :: after →
      (∀ x ∈ before, x = none ∨ x = some "") → code ≠ "" → GoesBy a (some code)
  | nothing : (∀ x ∈ [a.piid, a.fain, a.uri], x = none ∨ x = some "") → GoesBy a none

/-- An identifier is passed over just in case it is missing or empty. -/
theorem filter_nonempty_eq_none_iff {x : Option String} :
    x.filter (· ≠ "") = none ↔ x = none ∨ x = some "" := by
  cases x with
  | none => simp
  | some code => simp

/-- The code that is shown is one the award goes by. -/
theorem Award.goesBy_displayCode? (a : Award) : a.GoesBy a.displayCode? := by
  cases hcode : a.displayCode? with
  | none =>
    have hall := List.findSome?_eq_none_iff.mp hcode
    exact .nothing fun x hx => filter_nonempty_eq_none_iff.mp (hall x hx)
  | some code =>
    -- the identifiers in front of the one that was found have all been passed over
    obtain ⟨before, x, after, hsplit, hx, hbefore⟩ := List.findSome?_eq_some_iff.mp hcode
    obtain ⟨rfl, hne⟩ := Option.filter_eq_some_iff.mp hx
    exact .first hsplit (fun y hy => filter_nonempty_eq_none_iff.mp (hbefore y hy))
      (of_decide_eq_true hne)

/-- An award goes by one code only, the one that is shown. -/
theorem Award.goesBy_iff {a : Award} {code : Option String} :
    a.GoesBy code ↔ code = a.displayCode? := by
  constructor
  · intro h
    cases h with
    | first hsplit hbefore hne =>
      exact (List.findSome?_eq_some_iff.mpr ⟨_, _, _, hsplit,
        Option.filter_eq_some_iff.mpr ⟨rfl, decide_eq_true hne⟩,
        fun x hx => filter_nonempty_eq_none_iff.mpr (hbefore x hx)⟩).symm
    | nothing hall =>
      exact (List.findSome?_eq_none_iff.mpr fun x hx =>
        filter_nonempty_eq_none_iff.mpr (hall x hx)).symm
  · rintro rfl
    exact a.goesBy_displayCode?

/-! ## The table -/

/-- Where the entity of a row along a category stands, and how it is identified and shown. Budget
functions have no id but their code; only federal accounts have a number; an award is listed as
itself, or among the awards of its category under whom it was made to. -/
inductive Row.IsLabelled (r : Row) : Category → Label → Prop
  | budgetFunction {l : BudgetLabel} : r.classification.budgetFunction = some l →
      IsLabelled r .budgetFunction
        { id := l.code, code := some l.code, name := l.title, accountNumber := none }
  | budgetSubfunction {l : BudgetLabel} : r.classification.budgetSubfunction = some l →
      IsLabelled r .budgetSubfunction
        { id := l.code, code := some l.code, name := l.title, accountNumber := none }
  | federalAccount {a : FederalAccount} : r.classification.federalAccount = some a →
      IsLabelled r .federalAccount
        { id := toString a.id, code := some a.mainAccountCode, name := a.title
          accountNumber := some (a.agencyIdentifier ++ "-" ++ a.mainAccountCode) }
  | programActivity {e : Entity} : r.classification.programActivity = some e →
      IsLabelled r .programActivity
        { id := toString e.id, code := some e.code, name := e.name, accountNumber := none }
  | objectClass {e : Entity} : r.classification.objectClass = some e →
      IsLabelled r .objectClass
        { id := toString e.id, code := some e.code, name := e.name, accountNumber := none }
  | agency {e : Entity} : r.classification.agency = some e →
      IsLabelled r .agency
        { id := toString e.id, code := some e.code, name := e.name, accountNumber := none }
  | subtierAgency {e : Entity} : r.classification.subtierAgency = some e →
      IsLabelled r .subtierAgency
        { id := toString e.id, code := some e.code, name := e.name, accountNumber := none }
  | awardingAgency {a : Award} {e : Entity} : r.award = some a → a.awardingAgency = some e →
      IsLabelled r .awardingAgency
        { id := toString e.id, code := some e.code, name := e.name, accountNumber := none }
  | recipient {a : Award} {p : Recipient} : r.award = some a → a.recipient = some p →
      IsLabelled r .recipient
        { id := toString p.id, code := p.uniqueId, name := p.name, accountNumber := none }
  | award {a : Award} {code : Option String} : r.award = some a → a.GoesBy code →
      IsLabelled r .award
        { id := toString a.id, code := code, name := code.getD (toString a.id)
          accountNumber := none }
  | awardCategory {a : Award} {code : Option String} {given : String} :
      r.award = some a → a.category = some given → a.GoesBy code →
      IsLabelled r .awardCategory
        { id := toString a.id, code := code
          name := (a.recipient.map Recipient.name).getD given, accountNumber := none }

variable {r : Row} {c : Category} {label : Label}

/-- What grouping computes stands in the table. -/
theorem Row.isLabelled_of_label? (h : r.label? c = some label) : r.IsLabelled c label := by
  -- one case for each line of the table: the label was read off the place named there
  cases c with
  | budgetFunction =>
    obtain ⟨l, hl, rfl⟩ := Option.map_eq_some_iff.mp h
    exact .budgetFunction hl
  | budgetSubfunction =>
    obtain ⟨l, hl, rfl⟩ := Option.map_eq_some_iff.mp h
    exact .budgetSubfunction hl
  | federalAccount =>
    obtain ⟨a, ha, rfl⟩ := Option.map_eq_some_iff.mp h
    exact .federalAccount ha
  | programActivity =>
    obtain ⟨e, he, rfl⟩ := Option.map_eq_some_iff.mp h
    exact .programActivity he
  | objectClass =>
    obtain ⟨e, he, rfl⟩ := Option.map_eq_some_iff.mp h
    exact .objectClass he
  | agency =>
    obtain ⟨e, he, rfl⟩ := Option.map_eq_some_iff.mp h
    exact .agency he
  | subtierAgency =>
    obtain ⟨e, he, rfl⟩ := Option.map_eq_some_iff.mp h
    exact .subtierAgency he
  -- the categories of awards go through the award, which a row may lack
  | awardingAgency =>
    obtain ⟨e, he, rfl⟩ := Option.map_eq_some_iff.mp h
    obtain ⟨a, ha, hagency⟩ := Option.bind_eq_some_iff.mp he
    exact .awardingAgency ha hagency
  | recipient =>
    obtain ⟨p, hp, rfl⟩ := Option.map_eq_some_iff.mp h
    obtain ⟨a, ha, hrecipient⟩ := Option.bind_eq_some_iff.mp hp
    exact .recipient ha hrecipient
  | award =>
    obtain ⟨a, ha, rfl⟩ := Option.map_eq_some_iff.mp h
    exact .award ha a.goesBy_displayCode?
  | awardCategory =>
    obtain ⟨a, ha, hlabel⟩ := Option.bind_eq_some_iff.mp h
    obtain ⟨given, hgiven, rfl⟩ := Option.map_eq_some_iff.mp hlabel
    exact .awardCategory ha hgiven a.goesBy_displayCode?

/-- **The computed label is the one of the table**, and there is one just in case the table has
one. -/
theorem Row.label?_eq_some_iff : r.label? c = some label ↔ r.IsLabelled c label := by
  constructor
  · exact isLabelled_of_label?
  · intro h
    -- the other way, each line names the place that the label is read off
    cases h with
    | budgetFunction hl | budgetSubfunction hl | federalAccount hl | programActivity hl
    | objectClass hl | agency hl | subtierAgency hl =>
      exact Option.map_eq_some_iff.mpr ⟨_, hl, rfl⟩
    | awardingAgency ha he | recipient ha he =>
      exact Option.map_eq_some_iff.mpr ⟨_, Option.bind_eq_some_iff.mpr ⟨_, ha, he⟩, rfl⟩
    | award ha hcode =>
      -- the table leaves the code open, and there is only one that the award goes by
      obtain rfl := Award.goesBy_iff.mp hcode
      exact Option.map_eq_some_iff.mpr ⟨_, ha, rfl⟩
    | awardCategory ha hgiven hcode =>
      obtain rfl := Award.goesBy_iff.mp hcode
      exact Option.bind_eq_some_iff.mpr ⟨_, ha, Option.map_eq_some_iff.mpr ⟨_, hgiven, rfl⟩⟩

/-- There is a label if and only if the row has an entity of the category. -/
theorem Row.isSome_label?_iff : (r.label? c).isSome = true ↔ ∃ label, r.IsLabelled c label := by
  rw [Option.isSome_iff_exists]
  exact exists_congr fun label => label?_eq_some_iff

/-- Whether a row has an entity is found by computing its label. -/
instance : Decidable (∃ label, r.IsLabelled c label) :=
  decidable_of_iff _ Row.isSome_label?_iff

/-- And so is whether that entity has some property. -/
instance {p : Label → Prop} [DecidablePred p] :
    Decidable (∃ label, r.IsLabelled c label ∧ p label) :=
  decidable_of_iff (∃ label ∈ r.label? c, p label)
    (exists_congr fun _ => and_congr_left fun _ => Row.label?_eq_some_iff)

end Obligations
