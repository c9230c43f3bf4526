import Obligations.Explorer
import Obligations.Proofs.Filters.Entries
import Obligations.Proofs.Filters.Values

/-!
# Obligations — numbers given as text

A filter can be given as a number or as the text of that number. Year, quarter and entities are
each read in their own way, and each way reads numbers and texts apart. They agree all the same.
An integer is written as a numeral, and no two integers are written alike, so from the text of an
integer exactly this integer is read. The text of a double has a point, an exponent or a letter in
it, so no integer is read from it, and none is read from the double.

* `Json.spelled` — a number replaced by its text;
* `Json.numeral_integerChars`, `Json.not_numeral_doubleChars` — what is read from such a text;
* `SameToReaders`, `sameToReaders_spelled` — no reader tells a number from its text;
* `read_mapValues` — values that no reader tells apart can be exchanged in a mapping;
* `numbers_read_as_texts` — so numbers and their texts can, whatever else stands beside them.
-/

namespace Obligations

/-! ## Texts of doubles -/

/-- A decimal that is written out has a point. -/
theorem Decimal.point_mem_positional (d : Decimal) : '.' ∈ d.positional ['.', '0'] := by
  unfold positional
  dsimp only
  split
  · simp
  · split
    · simp
    · simp

/-- A decimal that is written with an exponent has the letter of it. -/
theorem Decimal.e_mem_exponential (d : Decimal) : 'e' ∈ d.exponential := by
  simp [exponential]

namespace Json

/-- The letter is from `null`, which stands for the doubles that are no numbers. -/
theorem exists_mark_doubleChars (x : Float) :
    ∃ c ∈ doubleChars x, c = '.' ∨ c = 'e' ∨ c = 'n' := by
  unfold doubleChars
  dsimp only
  split
  · split
    · exact ⟨'.', List.mem_append_right _ (Decimal.point_mem_positional _), Or.inl rfl⟩
    · exact ⟨'e', List.mem_append_right _ (Decimal.e_mem_exponential _), Or.inr (Or.inl rfl)⟩
  · split
    · exact ⟨'.', by simp, Or.inl rfl⟩
    · exact ⟨'n', by simp, Or.inr (Or.inr rfl)⟩

/-- No integer is read from the text of a double, even if white space around it is passed over. -/
theorem not_numeral_doubleChars {x : Float} {inner : List Char} {i : Int}
    (h : IsPadded inner (doubleChars x)) : ¬ Integer.Numeral inner i := by
  intro hnumeral
  obtain ⟨c, hc, hmark⟩ := exists_mark_doubleChars x
  obtain ⟨before, after, hsplit, hbefore, hafter⟩ := h
  have hsolid : isBlank c = false := by
    rcases hmark with rfl | rfl | rfl <;> decide
  -- the mark is not white space, so it stands in the numeral itself
  have hinner : c ∈ inner := by
    rw [hsplit, List.mem_append, List.mem_append] at hc
    rcases hc with (hc | hc) | hc
    · rw [hbefore c hc] at hsolid
      contradiction
    · exact hc
    · rw [hafter c hc] at hsolid
      contradiction
  rcases hnumeral.digit_or_sign c hinner with hdigit | rfl | rfl
  · rcases hmark with rfl | rfl | rfl
    · exact absurd hdigit (by decide)
    · exact absurd hdigit (by decide)
    · exact absurd hdigit (by decide)
  · exact absurd hmark (by decide)
  · exact absurd hmark (by decide)

/-! ## Texts of integers -/

/-- An integer is written as a numeral for it. -/
theorem numeral_integerChars (n : Int) : Integer.Numeral (integerChars n) n := by
  have hdigits := Integer.isDigits_toDigits n.natAbs
  unfold integerChars
  dsimp only
  -- the sign is the only difference
  split
  · next hneg =>
    have hnumeral := Integer.Numeral.minus hdigits
    have hvalue : -(n.natAbs : Int) = n := by omega
    rw [hvalue] at hnumeral
    exact hnumeral
  · next hneg =>
    have hnumeral := Integer.Numeral.unsigned hdigits
    have hvalue : (n.natAbs : Int) = n := by omega
    rw [hvalue] at hnumeral
    exact hnumeral

/-- Only an integer is written as this integer. -/
theorem eq_integer_of_text {n : Number} {i : Int} (h : n.text = (Number.integer i).text) :
    n = .integer i := by
  have hchars : n.chars = integerChars i := String.ofList_injective h
  have hnumeral : Integer.Numeral n.chars i := hchars ▸ numeral_integerChars i
  cases n with
  | integer j => rw [(numeral_integerChars j).unique hnumeral]
  | double x => exact absurd hnumeral (not_numeral_doubleChars (isPadded_self _))

theorem toList_text (n : Number) : (number n).text.toList = n.chars := String.toList_ofList

/-- The value, with its text in place of a number. -/
def spelled : Json → Json
  | number n => string (number n).text
  | j => j

end Json

namespace Filters

/-! ## Readers -/

variable {j : Json} {y : Int} {q : Nat}

/-- **A year is read from a number and from its text alike.** -/
theorem givesYear_spelled : GivesYear j.spelled y ↔ GivesYear j y := by
  cases j with
  | number n =>
    have htext := Json.toList_text n
    constructor
    · intro h
      -- the text is a numeral with white space around it, of which there is none
      cases h with
      | text hpadded hnumeral =>
        rw [htext] at hpadded
        cases n with
        | integer i =>
          -- from one text one integer is read, and this is the one that was written
          have hread := Integer.signed?_trimBlanks.mpr ⟨_, hpadded, hnumeral⟩
          have hwritten := Integer.signed?_trimBlanks.mpr
            ⟨_, isPadded_self _, Json.numeral_integerChars i⟩
          have hsame : y = i := Option.some.inj (hread.symm.trans hwritten)
          exact hsame ▸ .number y
        | double x => exact absurd hnumeral (Json.not_numeral_doubleChars hpadded)
    · intro h
      cases h with
      | number =>
        refine .text (isPadded_self _) ?_
        rw [htext]
        exact Json.numeral_integerChars y
  | _ => exact Iff.rfl

/-- The texts that give a quarter are the texts of the integers that do. -/
theorem quarterText_iff {s : String} :
    (s, q) ∈ [("1", 1), ("2", 2), ("3", 3), ("4", 4)] ↔
      1 ≤ q ∧ q ≤ 4 ∧ s = (Json.Number.integer q).text := by
  constructor
  · intro h
    simp only [List.mem_cons, Prod.mk.injEq, List.not_mem_nil, or_false] at h
    rcases h with ⟨rfl, rfl⟩ | ⟨rfl, rfl⟩ | ⟨rfl, rfl⟩ | ⟨rfl, rfl⟩
    · exact ⟨by decide, by decide, by decide⟩
    · exact ⟨by decide, by decide, by decide⟩
    · exact ⟨by decide, by decide, by decide⟩
    · exact ⟨by decide, by decide, by decide⟩
  · rintro ⟨hpos, hle, rfl⟩
    -- there are four integers to go through
    have hall : ∀ k ≤ 4, 1 ≤ k →
        ((Json.Number.integer (k : Nat)).text, k) ∈
          [("1", 1), ("2", 2), ("3", 3), ("4", 4)] := by decide
    exact hall q hle hpos

/-- **And so is a quarter**, although of texts there are only four. -/
theorem givesQuarter_spelled : GivesQuarter j.spelled q ↔ GivesQuarter j q := by
  cases j with
  | number n =>
    constructor
    · intro h
      cases h with
      | text hmem =>
        obtain ⟨hpos, hle, htext⟩ := quarterText_iff.mp hmem
        -- a double is never written like this, so the number was the integer
        obtain rfl := Json.eq_integer_of_text htext
        exact .number hpos hle
    · intro h
      cases h with
      | number hpos hle => exact .text (quarterText_iff.mpr ⟨hpos, hle, rfl⟩)
  | _ => exact Iff.rfl

/-- Whatever a filter is about, the same is read from both values. -/
structure SameToReaders (j j' : Json) : Prop where
  year    : readYear j = readYear j'
  quarter : readQuarter j = readQuarter j'
  text    : narrowingValue? j = narrowingValue? j'

theorem SameToReaders.refl (j : Json) : SameToReaders j j := ⟨rfl, rfl, rfl⟩

/-- No reader can tell a number from its text. -/
theorem sameToReaders_spelled (j : Json) : SameToReaders j.spelled j := by
  refine ⟨?_, ?_, ?_⟩
  · -- the same year is given, so also the same fault is found if it is none
    have hvalue : yearValue? j.spelled = yearValue? j := by
      refine Option.ext fun y => ?_
      show yearValue? j.spelled = some y ↔ yearValue? j = some y
      rw [yearValue?_eq_some, yearValue?_eq_some, givesYear_spelled]
    rw [readYear, hvalue, readYear]
  · cases hread : readQuarter j with
    | ok q => exact readQuarter_eq_ok.mpr (givesQuarter_spelled.mpr (readQuarter_eq_ok.mp hread))
    | error fault =>
      -- the only fault there is, so it is enough that neither value gives a quarter
      obtain ⟨rfl, hnone⟩ := readQuarter_eq_error.mp hread
      exact readQuarter_eq_error.mpr ⟨rfl, fun q hq => hnone q (givesQuarter_spelled.mp hq)⟩
  · -- a narrowing takes a text as it stands, and from a number its text
    cases j <;> rfl

/-! ## Mappings -/

section

variable {f : String → Json → Json} {mapping : KeyMap Json}

/-- Values can be exchanged in any number of entries at once. -/
theorem readNarrowing_map (h : ∀ key j, SameToReaders (f key j) j)
    (entries : List (String × Json)) :
    readNarrowing (entries.map fun x => (x.1, f x.1 x.2)) = readNarrowing entries := by
  induction entries with
  | nil => rfl
  | cons entry rest ih =>
    obtain ⟨key, value⟩ := entry
    rw [List.map_cons]
    -- which kind of entry it is, the key alone tells
    rcases kinds_of_key key with hbase | ⟨c, rfl⟩ | hkey
    · rw [readNarrowing_of_base hbase, readNarrowing_of_base hbase, ih]
    · rw [readNarrowing_of_category, readNarrowing_of_category, (h _ value).text, ih]
    · rw [readNarrowing_of_unrecognized hkey, readNarrowing_of_unrecognized hkey, ih]

theorem readQuarterOf_mapValues (h : ∀ key j, SameToReaders (f key j) j) :
    readQuarterOf (mapping.mapValues f) = readQuarterOf mapping := by
  unfold readQuarterOf
  rw [KeyMap.get?_mapValues, KeyMap.get?_mapValues]
  cases mapping.get? yearKey with
  | none => rfl
  | some year =>
    cases mapping.get? quarterKey with
    | none => rfl
    | some quarter => simp only [Option.map_some, (h _ year).year, (h _ quarter).quarter]

/-- Values that are the same to the readers can stand for each other. -/
theorem read_mapValues (h : ∀ key j, SameToReaders (f key j) j) :
    read (some (mapping.mapValues f)) = read (some mapping) := by
  have hentries : readNarrowing (mapping.mapValues f).entries = readNarrowing mapping.entries :=
    readNarrowing_map h mapping.entries
  rw [read, readQuarterOf_mapValues h, hentries, KeyMap.keys_mapValues, read]

end

/-- The mapping, with their texts in place of the numbers under these keys. -/
def spelledAt (keys : KeySet) (mapping : KeyMap Json) : KeyMap Json :=
  mapping.mapValues fun key j => if key ∈ keys then j.spelled else j

/-- So they can be spelled out under any set of keys. -/
theorem read_spelledAt (keys : KeySet) (mapping : KeyMap Json) :
    read (some (spelledAt keys mapping)) = read (some mapping) := by
  refine read_mapValues fun key j => ?_
  split
  · exact sameToReaders_spelled j
  · exact SameToReaders.refl j

end Filters

/-! ## Requests -/

/-- Of the mapping of a request it counts what is read from it. -/
theorem Explorer.explore_congr {filters filters' : Option (KeyMap Json)}
    (hread : Filters.read filters' = Filters.read filters) (e : Explorer) (s : Source)
    (category : Option String) (limit : Option Nat) (now : Instant) :
    e.explore s ⟨category, filters', limit⟩ now = e.explore s ⟨category, filters, limit⟩ now := by
  have hcheck : e.check ⟨category, filters', limit⟩ = e.check ⟨category, filters, limit⟩ := by
    rw [check, hread, check]
  rw [explore, hcheck, explore]

/-- **Numbers and their texts are interchangeable in filters.** With texts in place of some of the
numbers, the same filters are read or the same fault is reported, with the same keys passed over;
and whatever explorer is asked, the run is the same. -/
theorem numbers_read_as_texts (keys : KeySet) (filters : Option (KeyMap Json)) :
    Filters.read (filters.map (Filters.spelledAt keys)) = Filters.read filters ∧
    ∀ (e : Explorer) (s : Source) (category : Option String) (limit : Option Nat) (now : Instant),
      e.explore s ⟨category, filters.map (Filters.spelledAt keys), limit⟩ now =
        e.explore s ⟨category, filters, limit⟩ now := by
  have hread : Filters.read (filters.map (Filters.spelledAt keys)) = Filters.read filters := by
    cases filters with
    | none => rfl
    | some mapping => exact Filters.read_spelledAt keys mapping
  exact ⟨hread, Explorer.explore_congr hread⟩

end Obligations
