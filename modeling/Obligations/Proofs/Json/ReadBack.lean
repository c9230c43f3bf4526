import Obligations.Json.Reader
import Obligations.Json.Writer
import Obligations.Proofs.Text.Numeral

/-!
# Obligations — values read back

What is written as JSON is read back as the value it was written from, whatever the texts in it
are, as long as it holds integers of 64 bits and no doubles and is not nested too deep. Each part
of the writer has its counterpart in the reader: an escaped character is one piece of a text,
digits stand in front of something that is no digit, and a value ends where the comma or the
bracket behind it begins.

* `textLiteral?_quoted` — texts;
* `numberLiteral?_integerChars`, `json_toDigits` — integers;
* `Plain`, `value?_of_plain` — values, by induction over what they are made of;
* `ofText?_text` — the whole text of a value.
-/

namespace Obligations.Json

/-! ## Texts -/

/-- What an escaped character is read as: a control character without a letter of its own is given
by its number. -/
def pieceOf (c : Char) : Piece :=
  if c.toNat < 0x20 ∧ c ∉ ['\n', '\r', '\t', '\x08', '\x0c'] then .unit c.toNat else .char c

/-- A control character is written with four digits to base sixteen, of which two are zero. -/
theorem unit?_control : ∀ n < 0x20,
    unit? '0' '0' (Nat.digitChar (n / 16)) (Nat.digitChar (n % 16)) = some n := by
  decide

/-- Each way to escape a character is read as one piece, the one that stands for the character. -/
theorem pieces?_escaped (done : List Piece) (c : Char) (rest : List Char) :
    pieces? done (escaped c ++ rest) = pieces? (pieceOf c :: done) rest := by
  unfold escaped
  -- one case for each letter behind a backslash, one for numbers, one for the character itself
  split_ifs with hquote hback hline hreturn htab hbell hform hcontrol
  · subst hquote; rfl
  · subst hback; rfl
  · subst hline; rfl
  · subst hreturn; rfl
  · subst htab; rfl
  · subst hbell; rfl
  · subst hform; rfl
  · have hpiece : pieceOf c = .unit c.toNat := by
      rw [pieceOf, if_pos (by simp [*])]
    simp only [List.cons_append, List.nil_append]
    rw [pieces?, unit?_control _ hcontrol, hpiece]
  · have hpiece : pieceOf c = .char c := if_neg fun h => hcontrol h.1
    rw [hpiece, List.singleton_append, pieces?, if_neg hcontrol] <;> simp_all

/-- A number that is no half of a pair is joined as a character. -/
theorem joined?_unit {n : Nat} (hhigh : isHighSurrogate n = false) (hlow : isLowSurrogate n = false)
    (done : List Char) (ps : List Piece) :
    joined? done (.unit n :: ps) = joined? (Char.ofNat n :: done) ps := by
  -- whatever comes next, this number does not wait for it
  cases ps with
  | nil => simp [joined?, hhigh, hlow]
  | cons p ps => cases p <;> simp [joined?, hhigh, hlow]

/-- The pieces of a text are joined to the text. -/
theorem joined?_map_pieceOf (done cs : List Char) :
    joined? done (cs.map pieceOf) = some (done.reverse ++ cs) := by
  induction cs generalizing done with
  | nil => simp [joined?]
  | cons c cs ih =>
    -- one more piece is one more character
    have hstep :
        joined? done (pieceOf c :: cs.map pieceOf) = joined? (c :: done) (cs.map pieceOf) := by
      unfold pieceOf
      split
      · next h =>
        -- control characters are far below the numbers of pairs
        have hhigh : isHighSurrogate c.toNat = false := by
          simp [isHighSurrogate]
          omega
        have hlow : isLowSurrogate c.toNat = false := by
          simp [isLowSurrogate]
          omega
        rw [joined?_unit hhigh hlow, Char.ofNat_toNat]
      · rfl
    rw [List.map_cons, hstep, ih]
    simp

/-- A text is taken to pieces up to the quote behind it, since an escaped character holds no quote
of its own. -/
theorem pieces?_flatMap (done : List Piece) (cs rest : List Char) :
    pieces? done (cs.flatMap escaped ++ '"' :: rest) =
      some (done.reverse ++ cs.map pieceOf, rest) := by
  -- on the characters; what is done so far grows by one piece each
  induction cs generalizing done with
  | nil => simp [pieces?]
  | cons c cs ih =>
    rw [List.flatMap_cons, List.append_assoc, pieces?_escaped, ih]
    simp

/-- **Every text is read back**, whatever characters it is made of. -/
theorem textLiteral?_quoted (s : String) (rest : List Char) :
    textLiteral? (s.toList.flatMap escaped ++ '"' :: rest) = some (some s, rest) := by
  rw [textLiteral?, pieces?_flatMap]
  show some ((joined? [] ([].reverse ++ _)).map String.ofList, rest) = _
  rw [List.reverse_nil, List.nil_append, joined?_map_pieceOf]
  simp

/-! ## Numbers -/

/-- What stands behind a number does not go on with it. -/
def EndsNumber (rest : List Char) : Prop :=
  ∀ c ∈ rest.head?, c.isDigit = false ∧ c ≠ '.' ∧ c ≠ 'e' ∧ c ≠ 'E'

variable {rest : List Char}

theorem EndsNumber.endsDigits (h : EndsNumber rest) : EndsDigits rest := fun c hc => (h c hc).1

/-- Digits are read up to the end of them. -/
theorem someDigits?_append {ds : List Char} (hne : ds ≠ []) (hds : ∀ c ∈ ds, c.isDigit = true)
    (hrest : EndsDigits rest) : someDigits? (ds ++ rest) = some (ds, rest) := by
  obtain ⟨htake, hdrop⟩ := span_digits hds hrest
  rw [someDigits?, htake, hdrop]
  -- there is at least one digit
  cases ds with
  | nil => contradiction
  | cons d ds => rfl

/-- A number is read back from its digits, and a zero is one digit only. -/
theorem wholeDigits?_toDigits (n : Nat) (hrest : EndsDigits rest) :
    wholeDigits? (Nat.toDigits 10 n ++ rest) = some (Nat.toDigits 10 n, rest) := by
  -- a zero in front stands for the number zero and for no other
  by_cases hn : n = 0
  · subst hn
    cases rest with
    | nil => rfl
    | cons c rest => exact if_neg (Bool.eq_false_iff.mp (hrest c rfl))
  · have hdigits := Integer.isDigits_toDigits n
    have hread := someDigits?_append hdigits.ne_nil hdigits.digits hrest
    unfold wholeDigits?
    split
    · next hzero =>
      -- there is no zero in front
      have hhead := congrArg List.head? hzero
      rw [List.head?_append_of_ne_nil _ hdigits.ne_nil] at hhead
      exact absurd hhead (Integer.head?_toDigits hn)
    · exact hread

theorem fractionDigits?_of_ends (hrest : EndsNumber rest) :
    fractionDigits? rest = some ([], rest) := by
  unfold fractionDigits?
  -- a fraction would begin with a point
  split
  · exact absurd rfl (hrest '.' rfl).2.1
  · rfl

theorem exponentPart?_of_ends (hrest : EndsNumber rest) :
    exponentPart? rest = some (none, rest) := by
  unfold exponentPart?
  -- and an exponent with its letter
  split
  · exact absurd rfl (hrest 'e' rfl).2.2.1
  · exact absurd rfl (hrest 'E' rfl).2.2.2
  · rfl

/-- The sign is read off from the first character. -/
theorem head?_integerChars (n : Int) (rest : List Char) :
    ((integerChars n ++ rest).head? == some '-') = decide (n < 0) := by
  unfold integerChars
  by_cases hn : n < 0
  · rw [if_pos hn, decide_eq_true hn]
    rfl
  · have hdigits := Integer.isDigits_toDigits n.natAbs
    rw [if_neg hn, decide_eq_false hn, List.head?_append_of_ne_nil _ hdigits.ne_nil,
      beq_eq_false_iff_ne]
    -- the sign is not a digit
    intro hhead
    exact absurd (hdigits.digits '-' (List.mem_of_head? hhead)) (by decide)

/-- What is left behind the sign are the digits of the magnitude. -/
theorem drop_sign_integerChars (n : Int) (rest : List Char) :
    (if decide (n < 0) then (integerChars n ++ rest).drop 1 else integerChars n ++ rest) =
      Nat.toDigits 10 n.natAbs ++ rest := by
  unfold integerChars
  -- the sign is the first character, if there is one
  by_cases hn : n < 0
  · rw [decide_eq_true hn, if_pos rfl, if_pos hn]
    rfl
  · rw [decide_eq_false hn, if_neg Bool.false_ne_true, if_neg hn]

/-- **An integer is read back in its parts**: a sign, digits, and nothing else. -/
theorem numberLiteral?_integerChars (n : Int) (hrest : EndsNumber rest) :
    numberLiteral? (integerChars n ++ rest) =
      some (⟨decide (n < 0), Nat.toDigits 10 n.natAbs, [], none⟩, rest) := by
  unfold numberLiteral?
  simp only [head?_integerChars, drop_sign_integerChars, Option.bind_eq_bind, Option.bind_some,
    wholeDigits?_toDigits n.natAbs hrest.endsDigits, fractionDigits?_of_ends hrest,
    exponentPart?_of_ends hrest]
  rfl

/-- An integer of 64 bits, signed or unsigned. -/
def IsWord (n : Int) : Prop := -9223372036854775808 ≤ n ∧ n < 18446744073709551616

/-- Of these parts the integer is made again, if it has 64 bits; beyond that it would become a
double. -/
theorem json_toDigits {n : Int} (h : IsWord n) :
    NumberLiteral.json ⟨decide (n < 0), Nat.toDigits 10 n.natAbs, [], none⟩ =
      number (.integer n) := by
  obtain ⟨hlow, hhigh⟩ := h
  -- there is neither a fraction nor an exponent, so it may be an integer
  have hinteger : NumberLiteral.integer? ⟨decide (n < 0), Nat.toDigits 10 n.natAbs, [], none⟩ =
      some n := by
    unfold NumberLiteral.integer?
    rw [Nat.ofDigitChars_ten_toDigits]
    simp only [ne_eq, not_true_eq_false, Option.isSome_none, Bool.false_eq_true, or_self, if_false,
      decide_eq_true_eq]
    -- a negative integer has to be a signed word, the others an unsigned one
    by_cases hn : n < 0
    · have hvalue : -(n.natAbs : Int) = n := by omega
      have hsize : isInt64 n = true := by
        rw [isInt64, decide_eq_true_eq]
        omega
      rw [if_pos hn, hvalue, if_pos ⟨by omega, hsize⟩]
    · have hsize : n.natAbs < size64 := by
        rw [size64]
        omega
      rw [if_neg hn, if_pos hsize]
      congr
      omega
  rw [NumberLiteral.json, hinteger]

/-! ## Values -/

/-- The value is made of texts, integers of 64 bits and keywords, in no more than `room`
containers inside each other. -/
inductive Plain : (room : Nat) → Json → Prop
  | null {room : Nat} : Plain room .null
  | bool {room : Nat} (b : Bool) : Plain room (.bool b)
  | integer {room : Nat} {n : Int} : IsWord n → Plain room (.number (.integer n))
  | string {room : Nat} (s : String) : Plain room (.string s)
  | array {room : Nat} {items : List Json} :
      (∀ j ∈ items, Plain room j) → Plain (room + 1) (.array items)
  | object {room : Nat} {members : List (String × Json)} :
      (∀ m ∈ members, Plain room m.2) → Plain (room + 1) (.object members)

/-- The value is read from its text, if there are enough calls, and what stands behind is left. -/
def ReadsBack (room : Nat) (j : Json) : Prop :=
  ∀ fuel rest, j.chars.length ≤ fuel → EndsNumber rest →
    value? room fuel (j.chars ++ rest) = some (j, rest)

section

variable {room fuel : Nat} {j : Json} {c : Char} {cs : List Char}

theorem skipSpace_cons (h : isSpace c = false) (cs : List Char) :
    skipSpace (c :: cs) = c :: cs :=
  List.dropWhile_cons_of_neg (Bool.eq_false_iff.mp h)

/-- An integer begins with a digit or a minus sign. -/
theorem head_integerChars (n : Int) :
    ∃ c cs, integerChars n = c :: cs ∧ (c.isDigit = true ∨ c = '-') := by
  unfold integerChars
  by_cases hn : n < 0
  · rw [if_pos hn]
    exact ⟨'-', _, rfl, Or.inr rfl⟩
  · rw [if_neg hn]
    have hdigits := Integer.isDigits_toDigits n.natAbs
    obtain ⟨c, cs, hcs⟩ := List.exists_cons_of_ne_nil hdigits.ne_nil
    exact ⟨c, cs, hcs, Or.inl (hdigits.digits c (by simp [hcs]))⟩

/-- Numbers begin like no other value. -/
theorem ne_of_isDigit (hc : c.isDigit = true ∨ c = '-') :
    ∀ x ∈ [']', '"', '[', '{', 'n', 't', 'f', ' ', '\n', '\t', '\r'], c ≠ x := by
  rintro x hx rfl
  simp only [List.mem_cons, List.not_mem_nil, or_false] at hx
  rcases hx with rfl | rfl | rfl | rfl | rfl | rfl | rfl | rfl | rfl | rfl | rfl
  all_goals exact absurd hc (by decide)

theorem isSpace_of_isDigit (hc : c.isDigit = true ∨ c = '-') : isSpace c = false := by
  have hne := ne_of_isDigit hc
  simp only [List.forall_mem_cons] at hne
  simp [isSpace, hne]

/-- A value begins with a character that is not white space and closes no array. -/
theorem Plain.head (h : Plain room j) :
    ∃ c cs, j.chars = c :: cs ∧ isSpace c = false ∧ c ≠ ']' := by
  -- every value has a first character of its own
  cases h with
  | null => exact ⟨_, _, rfl, by decide, by decide⟩
  | bool b => cases b <;> exact ⟨_, _, rfl, by decide, by decide⟩
  | @integer _ n _ =>
    obtain ⟨c, cs, hcs, hc⟩ := head_integerChars n
    exact ⟨c, cs, hcs, isSpace_of_isDigit hc, ne_of_isDigit hc _ (by decide)⟩
  | string s => exact ⟨_, _, rfl, by decide, by decide⟩
  | array _ => exact ⟨_, _, rfl, by decide, by decide⟩
  | object _ => exact ⟨_, _, rfl, by decide, by decide⟩

/-- So a value that begins with one of these is read as a number. -/
theorem value?_number (hc : c.isDigit = true ∨ c = '-') :
    value? room (fuel + 1) (c :: cs) = (numberLiteral? (c :: cs)).map fun p => (p.1.json, p.2) := by
  have hne := ne_of_isDigit hc
  rw [value?, skipSpace_cons (isSpace_of_isDigit hc)]
  split
  case h_1 h => exact nomatch h
  -- the other branches of the reader are for other first characters
  case h_8 => rfl
  all_goals
    next h => exact absurd (List.cons.inj h).1 (hne _ (by decide))

/-- A value that begins with a quote is read as a text. -/
theorem value?_string (s : String) (rest : List Char) :
    value? room (fuel + 1) (quoted s ++ rest) = some (.string s, rest) := by
  have happend : quoted s ++ rest = '"' :: (s.toList.flatMap escaped ++ '"' :: rest) := by
    simp [quoted]
  rw [happend, value?, skipSpace_cons (by decide)]
  simp only [textLiteral?_quoted]
  rfl

/-- Behind an opening bracket items are read, unless the array is closed at once. -/
theorem value?_array (hspace : skipSpace cs = cs) (hopen : cs.head? ≠ some ']') :
    value? room (fuel + 1) ('[' :: cs) =
      (items? (room - 1) fuel [] cs).map fun p => (atDepth room (array p.1), p.2) := by
  rw [value?, skipSpace_cons (by decide)]
  simp only [hspace]
  -- the reader looks for a bracket that closes the array at once
  split
  · exact absurd rfl hopen
  · rfl

/-- Behind an opening brace members are read, unless the object is closed at once. -/
theorem value?_object (hspace : skipSpace cs = cs) (hopen : cs.head? ≠ some '}') :
    value? room (fuel + 1) ('{' :: cs) =
      (members? (room - 1) fuel (some []) cs).map fun p =>
        (atDepth room (p.1.elim unreadable object), p.2) := by
  rw [value?, skipSpace_cons (by decide)]
  simp only [hspace]
  split
  · exact absurd rfl hopen
  · rfl

/-! ## Items and members -/

variable {rest : List Char} {done : List Json} {k : String} {entries : List (String × Json)}

/-- A comma behind an item asks for another one. -/
theorem items?_comma (h : value? room fuel cs = some (j, ',' :: rest)) :
    items? room (fuel + 1) done cs = items? room fuel (j :: done) rest := by
  rw [items?, h]
  rfl

/-- A bracket behind an item ends the array. -/
theorem items?_close (h : value? room fuel cs = some (j, ']' :: rest)) :
    items? room (fuel + 1) done cs = some ((j :: done).reverse, rest) := by
  rw [items?, h]
  rfl

/-- A member is a quoted key, a colon and a value; a comma asks for another one. -/
theorem members?_comma (h : value? room fuel cs = some (j, ',' :: rest)) :
    members? room (fuel + 1) (some entries) (quoted k ++ ':' :: cs) =
      members? room fuel (some ((k, j) :: entries)) rest := by
  -- the key is a text, which is read up to its quote
  have happend : quoted k ++ ':' :: cs = '"' :: (k.toList.flatMap escaped ++ '"' :: ':' :: cs) := by
    simp [quoted]
  rw [happend, members?, skipSpace_cons (by decide)]
  simp only [textLiteral?_quoted, Option.bind_eq_bind, Option.bind_some,
    skipSpace_cons (by decide : isSpace ':' = false), h,
    skipSpace_cons (by decide : isSpace ',' = false), Option.map_some]

/-- And a brace ends the object. -/
theorem members?_close (h : value? room fuel cs = some (j, '}' :: rest)) :
    members? room (fuel + 1) (some entries) (quoted k ++ ':' :: cs) =
      some (some ((k, j) :: entries).reverse, rest) := by
  have happend : quoted k ++ ':' :: cs = '"' :: (k.toList.flatMap escaped ++ '"' :: ':' :: cs) := by
    simp [quoted]
  rw [happend, members?, skipSpace_cons (by decide)]
  simp only [textLiteral?_quoted, Option.bind_eq_bind, Option.bind_some,
    skipSpace_cons (by decide : isSpace ':' = false), h,
    skipSpace_cons (by decide : isSpace '}' = false), Option.map_some]

theorem endsNumber_cons (h : c.isDigit = false ∧ c ≠ '.' ∧ c ≠ 'e' ∧ c ≠ 'E') (rest : List Char) :
    EndsNumber (c :: rest) := by
  intro x hx
  obtain rfl : c = x := Option.some.inj hx
  exact h

theorem itemChars_cons (j j' : Json) (js : List Json) :
    itemChars (j :: j' :: js) = j.chars ++ ',' :: itemChars (j' :: js) := rfl

theorem memberChars_cons (k : String) (j : Json) (m : String × Json) (ms : List (String × Json)) :
    memberChars ((k, j) :: m :: ms) =
      quoted k ++ ':' :: (j.chars ++ ',' :: memberChars (m :: ms)) := by
  simp [memberChars]

/-- If each item is read back, so are all of them up to the bracket. Each takes a call of its own,
and its text is at least one character long. -/
theorem items?_itemChars {items : List Json} (hne : items ≠ [])
    (hitems : ∀ j ∈ items, ReadsBack room j) (hfuel : (itemChars items).length + 1 ≤ fuel)
    (rest : List Char) :
    items? room fuel done (itemChars items ++ ']' :: rest) =
      some (done.reverse ++ items, rest) := by
  -- on the items; the last one is followed by a bracket, the others by a comma
  induction items generalizing fuel done with
  | nil => contradiction
  | cons j js ih =>
    -- there is fuel for this item, since it has a text
    obtain ⟨fuel, rfl⟩ : ∃ n, fuel = n + 1 := ⟨fuel - 1, by omega⟩
    have hread := hitems j List.mem_cons_self
    cases js with
    | nil =>
      have hlast := hread fuel (']' :: rest) (by simpa [itemChars] using hfuel)
        (endsNumber_cons (by decide) rest)
      rw [itemChars, items?_close hlast]
      simp
    | cons j' js =>
      rw [itemChars_cons, List.length_append, List.length_cons] at hfuel
      have hfirst := hread fuel (',' :: (itemChars (j' :: js) ++ ']' :: rest)) (by omega)
        (endsNumber_cons (by decide) _)
      rw [itemChars_cons, List.append_assoc, List.cons_append, items?_comma hfirst,
        ih (List.cons_ne_nil _ _) (fun x hx => hitems x (List.mem_cons_of_mem _ hx)) (by omega)]
      simp

theorem members?_memberChars {members : List (String × Json)} (hne : members ≠ [])
    (hmembers : ∀ m ∈ members, ReadsBack room m.2)
    (hfuel : (memberChars members).length + 1 ≤ fuel) (rest : List Char) :
    members? room fuel (some entries) (memberChars members ++ '}' :: rest) =
      some (some (entries.reverse ++ members), rest) := by
  -- as for items, with the key and the colon in front of each value
  induction members generalizing fuel entries with
  | nil => contradiction
  | cons m ms ih =>
    obtain ⟨k, j⟩ := m
    obtain ⟨fuel, rfl⟩ : ∃ n, fuel = n + 1 := ⟨fuel - 1, by omega⟩
    have hread : ReadsBack room j := hmembers (k, j) List.mem_cons_self
    cases ms with
    | nil =>
      simp only [memberChars, List.length_append, List.length_cons] at hfuel
      have hlast := hread fuel ('}' :: rest) (by omega) (endsNumber_cons (by decide) rest)
      rw [memberChars, List.append_assoc, List.cons_append, members?_close hlast]
      simp
    | cons m ms =>
      simp only [memberChars_cons, List.length_append, List.length_cons] at hfuel
      have hfirst := hread fuel (',' :: (memberChars (m :: ms) ++ '}' :: rest)) (by omega)
        (endsNumber_cons (by decide) _)
      rw [memberChars_cons, List.append_assoc, List.cons_append, List.append_assoc,
        List.cons_append, members?_comma hfirst,
        ih (List.cons_ne_nil _ _) (fun x hx => hmembers x (List.mem_cons_of_mem _ hx)) (by omega)]
      simp

/-! ## Whole values -/

/-- No white space is written in front of a value, and no bracket that would close an array. -/
theorem skipSpace_chars (h : Plain room j) (rest : List Char) :
    skipSpace (j.chars ++ rest) = j.chars ++ rest ∧ (j.chars ++ rest).head? ≠ some ']' := by
  obtain ⟨c, cs, hcs, hspace, hne⟩ := h.head
  rw [hcs, List.cons_append]
  exact ⟨skipSpace_cons hspace _, fun h => hne (Option.some.inj h)⟩

/-- So an array with items is not taken for an empty one. -/
theorem skipSpace_itemChars (h : Plain room j) (js : List Json) (rest : List Char) :
    skipSpace (itemChars (j :: js) ++ rest) = itemChars (j :: js) ++ rest ∧
      (itemChars (j :: js) ++ rest).head? ≠ some ']' := by
  -- the text of the items begins with that of the first
  cases js with
  | nil => exact skipSpace_chars h rest
  | cons j' js =>
    rw [itemChars_cons, List.append_assoc]
    exact skipSpace_chars h _

/-- Nor is an object with members, which begins with the quote of a key. -/
theorem skipSpace_memberChars (m : String × Json) (ms : List (String × Json)) (rest : List Char) :
    skipSpace (memberChars (m :: ms) ++ rest) = memberChars (m :: ms) ++ rest ∧
      (memberChars (m :: ms) ++ rest).head? ≠ some '}' := by
  obtain ⟨cs, hcs⟩ : ∃ cs, memberChars (m :: ms) = '"' :: cs := by
    cases ms <;> exact ⟨_, rfl⟩
  rw [hcs, List.cons_append]
  exact ⟨skipSpace_cons (by decide) _, fun h => absurd (Option.some.inj h) (by decide)⟩

/-- A value is not empty, so there is a call to make. -/
theorem readsBack_of_succ (hne : j.chars ≠ [])
    (h : ∀ fuel rest, j.chars.length ≤ fuel + 1 → EndsNumber rest →
      value? room (fuel + 1) (j.chars ++ rest) = some (j, rest)) : ReadsBack room j := by
  intro fuel rest hfuel hrest
  have hpos := List.length_pos_iff.mpr hne
  -- there are at least as many calls as characters
  obtain ⟨fuel, rfl⟩ : ∃ n, fuel = n + 1 := ⟨fuel - 1, by omega⟩
  exact h fuel rest hfuel hrest

/-- What is made of such values is read from the readings of its parts. -/
theorem value?_of_plain (h : Plain room j) : ReadsBack room j := by
  induction h with
  | null => exact readsBack_of_succ (by simp [chars]) fun _ _ _ _ => rfl
  | bool b => cases b <;> exact readsBack_of_succ (by simp [chars]) fun _ _ _ _ => rfl
  | @integer _ n hn =>
    -- an integer is told from other values by its first character
    obtain ⟨c, cs, hcs, hc⟩ := head_integerChars n
    have hchars : (number (.integer n)).chars = integerChars n := rfl
    refine readsBack_of_succ (by simp [hchars, hcs]) fun fuel rest _ hrest => ?_
    have hread := numberLiteral?_integerChars n hrest
    rw [hcs, List.cons_append] at hread
    rw [hchars, hcs, List.cons_append, value?_number hc, hread, Option.map_some, json_toDigits hn]
  | string s =>
    exact readsBack_of_succ (by simp [chars, quoted]) fun _ rest _ _ => value?_string s rest
  -- the induction hypothesis is for one container less, as the reader counts
  | @array room items hitems ih =>
    refine readsBack_of_succ (by simp [chars]) fun fuel rest hfuel _ => ?_
    have hchars : (array items).chars ++ rest = '[' :: (itemChars items ++ ']' :: rest) := by
      simp [chars]
    have hlength : (array items).chars.length = (itemChars items).length + 2 := by
      simp [chars]
    rw [hlength] at hfuel
    rw [hchars]
    cases items with
    | nil => rfl
    | cons j js =>
      obtain ⟨hspace, hopen⟩ :=
        skipSpace_itemChars (hitems j List.mem_cons_self) js (']' :: rest)
      rw [value?_array hspace hopen, Nat.add_sub_cancel,
        items?_itemChars (List.cons_ne_nil _ _) ih (by omega)]
      rfl
  -- objects are read like arrays, with keys
  | @object room members hmembers ih =>
    refine readsBack_of_succ (by simp [chars]) fun fuel rest hfuel _ => ?_
    have hchars : (object members).chars ++ rest = '{' :: (memberChars members ++ '}' :: rest) := by
      simp [chars]
    have hlength : (object members).chars.length = (memberChars members).length + 2 := by
      simp [chars]
    rw [hlength] at hfuel
    rw [hchars]
    cases members with
    | nil => rfl
    | cons m ms =>
      obtain ⟨hspace, hopen⟩ := skipSpace_memberChars m ms ('}' :: rest)
      rw [value?_object hspace hopen, Nat.add_sub_cancel,
        members?_memberChars (List.cons_ne_nil _ _) ih (by omega)]
      rfl

/-- The text of such a value is read as the value. -/
theorem ofText?_text (h : Plain maxDepth j) : ofText? j.text = some j := by
  have hread := value?_of_plain h (2 * j.chars.length + 2) [] (by omega) (fun c hc => nomatch hc)
  rw [List.append_nil] at hread
  rw [ofText?, text, String.toList_ofList, ofChars?, hread]
  rfl

end

end Obligations.Json
