import Obligations.Calendar.Text
import Obligations.Proofs.Text.Numeral

/-!
# Obligations — dates and instants read back

A date is read from the text that it is written as, and so is an instant. The one exception is an
instant inside a leap second that is not the last of its minute: as text it would be the second
after it. No text is read as such an instant, so what was read once is read back always.

* `digitsUpTo?_append`, `twoDigits?_zeroPadded`, `year?_yearChars` — numbers in front of a text;
* `Date.ofText?_text` — dates;
* `Instant.IsPlain`, `Instant.ofText?_text`, `Instant.isPlain_of_ofText?` — instants.
-/

namespace Obligations

/-! ## Numbers -/

section

variable {ds rest : List Char} {n width : Nat} {c : Char}

/-- Digits are not white space, so skipping it stops in front of them. -/
theorem skipBlanks_digits (h : Integer.IsDigits ds n) (rest : List Char) :
    skipBlanks (ds ++ rest) = ds ++ rest :=
  skipBlanks_of_solid h.ne_nil (fun c hc => Integer.isBlank_of_isDigit (h.digits c hc)) rest

/-- Digits are read up to the width, or up to what is no digit. -/
theorem digitsUpTo?_append (h : Integer.IsDigits ds n) (hlength : ds.length ≤ width)
    (hrest : ds.length = width ∨ EndsDigits rest) :
    digitsUpTo? width (ds ++ rest) = some (n, rest) := by
  -- of what follows, only as much is looked at as the width leaves room for
  have hends : EndsDigits (rest.take (width - ds.length)) := by
    rcases hrest with hfull | hrest
    · rw [hfull, Nat.sub_self]
      intro c hc
      exact nomatch hc
    · intro c hc
      rw [List.head?_take] at hc
      split at hc
      · exact nomatch hc
      · exact hrest c hc
  unfold digitsUpTo?
  rw [List.take_append, List.take_of_length_le hlength, (span_digits h.digits hends).1]
  have hne := h.ne_nil
  cases ds with
  | nil => contradiction
  | cons d ds => simp [h.value_eq]

/-- What is padded to two digits is read as two digits, whatever follows. -/
theorem twoDigits?_zeroPadded (h : n < 100) (rest : List Char) :
    twoDigits? (zeroPadded 2 n ++ rest) = some (n, rest) := by
  have hdigits := Integer.isDigits_zeroPadded 2 n
  have hlength : (zeroPadded 2 n).length = 2 := Integer.length_zeroPadded (by decide) h
  rw [twoDigits?, skipBlanks_digits hdigits]
  exact digitsUpTo?_append hdigits (Nat.le_of_eq hlength) (Or.inl hlength)

/-- A sign between two parts is passed over. -/
theorem after?_cons (h : isBlank c = false) (cs : List Char) : after? c (c :: cs) = some cs := by
  rw [after?, skipBlanks_cons h]
  exact if_pos rfl

/-- A year is read back whatever its size: those outside of four digits are written with a sign. -/
theorem year?_yearChars (y : Int) (hrest : EndsDigits rest) :
    year? (yearChars y ++ rest) = some (y, rest) := by
  have hdigits := Integer.isDigits_zeroPadded 4 y.natAbs
  have hany : digitsUpTo? (zeroPadded 4 y.natAbs ++ rest).length (zeroPadded 4 y.natAbs ++ rest) =
      some (y.natAbs, rest) :=
    digitsUpTo?_append hdigits (by simp) (Or.inr hrest)
  unfold yearChars
  split_ifs with hneg hlarge
  -- behind a sign there are as many digits as it takes
  · have hvalue : -(y.natAbs : Int) = y := by omega
    rw [List.cons_append, year?, skipBlanks_cons (by decide)]
    simp only [hany, Option.map_some, hvalue]
  · have hvalue : (y.natAbs : Int) = y := by omega
    rw [List.cons_append, year?, skipBlanks_cons (by decide)]
    simp only [hany, Option.map_some, hvalue]
  · have hvalue : (y.natAbs : Int) = y := by omega
    -- without a sign the year has four digits and no more
    have hsmall : y.natAbs < tenTo 4 := by
      have hlimit : tenTo 4 = 10000 := rfl
      omega
    have hlength : (zeroPadded 4 y.natAbs).length = 4 :=
      Integer.length_zeroPadded (by decide) hsmall
    have hfour : digitsUpTo? 4 (zeroPadded 4 y.natAbs ++ rest) = some (y.natAbs, rest) :=
      digitsUpTo?_append hdigits (Nat.le_of_eq hlength) (Or.inl hlength)
    rw [year?, skipBlanks_digits hdigits]
    split
    · -- digits do not begin with a sign, so the reader looks for four of them
      next hcs => exact absurd rfl (hdigits.head_ne hcs).2
    · next hcs => exact absurd rfl (hdigits.head_ne hcs).1
    · rw [hfour, Option.map_some, hvalue]

end

/-! ## Dates -/

/-- A date is read back from the beginning of a text, with what follows left over. -/
theorem datePart?_chars (d : Date) (rest : List Char) :
    datePart? (d.chars ++ rest) = some (d, rest) := by
  have hmonth : d.month < 100 := Nat.lt_of_le_of_lt d.month_le (by decide)
  have hday : d.day < 100 :=
    Nat.lt_of_le_of_lt (Nat.le_trans d.day_le (Date.monthLength_le _ _)) (by decide)
  -- the year ends at the dash behind it
  have hdash (cs : List Char) : EndsDigits ('-' :: cs) := by
    intro c hc
    obtain rfl : '-' = c := Option.some.inj hc
    decide
  unfold datePart? Date.chars
  -- one part after the other, each with the rest of the text behind it
  simp only [List.append_assoc, List.cons_append, year?_yearChars _ (hdash _),
    after?_cons (by decide : isBlank '-' = false), twoDigits?_zeroPadded hmonth,
    twoDigits?_zeroPadded hday, Date.of?_self, Option.bind_eq_bind, Option.bind_some]
  rfl

/-- **Every date is read back from its text.** -/
theorem Date.ofText?_text (d : Date) : Date.ofText? d.text = some d := by
  have hread := datePart?_chars d []
  rw [List.append_nil] at hread
  rw [ofText?, text, String.toList_ofList, hread]
  rfl

/-! ## Instants -/

/-- Only the last second of a minute is lengthened by a leap second. -/
def Instant.IsPlain (t : Instant) : Prop :=
  t.nano < Instant.nanosPerSecond ∨ t.second % 60 = 59

theorem Instant.isPlain_midnight (d : Date) : (Instant.midnight d).IsPlain := by
  have hpos : 0 < Instant.nanosPerSecond := by
    decide
  exact Or.inl hpos

/-- Up to nine digits behind a point are a number of nanoseconds, with zeros for those that are
missing. -/
theorem fraction?_digits {ds rest : List Char} {n : Nat} (h : Integer.IsDigits ds n)
    (hlength : ds.length ≤ 9) (hrest : EndsDigits rest) :
    fraction? ('.' :: (ds ++ rest)) = some (n * tenTo (9 - ds.length), rest) := by
  obtain ⟨htake, hdrop⟩ := span_digits h.digits hrest
  have hne := h.ne_nil
  rw [fraction?, htake, hdrop]
  cases ds with
  | nil => contradiction
  | cons d ds => simp only [List.take_of_length_le hlength, h.value_eq]

/-- A fraction is written with as many digits as it needs, in groups of three. -/
theorem fraction?_fractionChars {nano : Nat} (h : nano < Instant.nanosPerSecond)
    {rest : List Char} (hrest : EndsDigits rest) (hpoint : rest.head? ≠ some '.') :
    fraction? (fractionChars nano ++ rest) = some (nano, rest) := by
  -- the digits of one width, whichever of the three it is
  have hwritten (width value : Nat) (hpos : 0 < width) (hle : width ≤ 9)
      (hexact : value * tenTo (9 - width) = nano) (hsmall : value < tenTo width) :
      fraction? ('.' :: zeroPadded width value ++ rest) = some (nano, rest) := by
    have hlength := Integer.length_zeroPadded hpos hsmall
    have hread := fraction?_digits (Integer.isDigits_zeroPadded width value)
      (hlength.trans_le hle) hrest
    rw [hlength, hexact] at hread
    exact hread
  unfold fractionChars
  split_ifs with hzero hmillis hmicros
  · -- no point and no digits
    rw [hzero, List.nil_append]
    unfold fraction?
    split
    · exact absurd rfl hpoint
    · rfl
  · -- milliseconds, microseconds or nanoseconds, as coarse as they can be
    exact hwritten 3 _ (by decide) (by decide)
      (Nat.div_mul_cancel (Nat.dvd_of_mod_eq_zero hmillis)) (Nat.div_lt_of_lt_mul h)
  · exact hwritten 6 _ (by decide) (by decide)
      (Nat.div_mul_cancel (Nat.dvd_of_mod_eq_zero hmicros)) (Nat.div_lt_of_lt_mul h)
  · exact hwritten 9 _ (by decide) (by decide) (Nat.mul_one nano) h

/-- The time of day of an instant, read from hours, minutes and seconds. -/
theorem timePart?_chars {second nano : Nat} (hsecond : second < 86400)
    (hnano : nano < 2 * Instant.nanosPerSecond)
    (hplain : nano < Instant.nanosPerSecond ∨ second % 60 = 59) {rest : List Char}
    (hrest : EndsDigits rest) (hpoint : rest.head? ≠ some '.') :
    timePart? (zeroPadded 2 (second / 3600) ++ ':' :: zeroPadded 2 (second / 60 % 60)
        ++ ':' :: zeroPadded 2 (second % 60 + nano / Instant.nanosPerSecond)
        ++ fractionChars (nano % Instant.nanosPerSecond) ++ rest) =
      some ((second, nano), rest) := by
  have hlimit : Instant.nanosPerSecond = 1000000000 := rfl
  have hpart : nano % Instant.nanosPerSecond < Instant.nanosPerSecond := Nat.mod_lt _ (by decide)
  have hfraction := fraction?_fractionChars hpart hrest hpoint
  -- sixty seconds are shown exactly inside a leap second, which is the last of its minute
  have hshown : second % 60 + nano / Instant.nanosPerSecond ≤ 60 := by
    rw [hlimit] at hnano hplain ⊢
    omega
  -- hours, minutes and seconds add up to the second of the day again
  have hread : (if second % 60 + nano / Instant.nanosPerSecond = 60 then
        (second / 3600 * 3600 + second / 60 % 60 * 60 + 59,
          nano % Instant.nanosPerSecond + Instant.nanosPerSecond)
      else (second / 3600 * 3600 + second / 60 % 60 * 60 +
          (second % 60 + nano / Instant.nanosPerSecond), nano % Instant.nanosPerSecond)) =
      (second, nano) := by
    rw [hlimit] at hnano hplain ⊢
    split_ifs with hleap
    · congr 1 <;> omega
    · congr 1 <;> omega
  unfold timePart?
  simp only [List.append_assoc, List.cons_append,
    twoDigits?_zeroPadded (by omega : second / 3600 < 100),
    twoDigits?_zeroPadded (by omega : second / 60 % 60 < 100),
    twoDigits?_zeroPadded (by omega : second % 60 + nano / Instant.nanosPerSecond < 100),
    after?_cons (by decide : isBlank ':' = false), hfraction, Option.bind_eq_bind,
    Option.bind_some]
  rw [if_pos ⟨by omega, by omega, hshown⟩, hread]

/-- **Every plain instant is read back from its text.** It is written in universal time, so no
offset is subtracted. -/
theorem Instant.ofText?_text {t : Instant} (h : t.IsPlain) : Instant.ofText? t.text = some t := by
  have hend : EndsDigits ['Z'] := by
    intro c hc
    obtain rfl : 'Z' = c := Option.some.inj hc
    decide
  have htime := timePart?_chars t.second_lt t.nano_lt h hend (by decide)
  -- with an offset of zero the day stays the same
  have hlocal : Instant.ofLocal? t.date t.second t.nano 0 = some t := by
    have hsecond := t.second_lt
    unfold Instant.ofLocal?
    simp only [Int.sub_zero]
    rw [if_neg (by omega), if_neg (by omega), Int.toNat_natCast, Instant.of?,
      dif_pos ⟨t.second_lt, t.nano_lt⟩]
  -- the text of an instant is that of its date and that of its time
  have hchars : t.chars = t.date.chars ++ 'T' ::
      (zeroPadded 2 (t.second / 3600) ++ ':' :: zeroPadded 2 (t.second / 60 % 60)
        ++ ':' :: zeroPadded 2 (t.second % 60 + t.nano / Instant.nanosPerSecond)
        ++ fractionChars (t.nano % Instant.nanosPerSecond) ++ ['Z']) := by
    simp [Instant.chars]
  rw [Instant.ofText?, Instant.text, String.toList_ofList, hchars]
  simp only [datePart?_chars, Option.bind_eq_bind, Option.bind_some]
  rw [if_pos (Or.inl trivial), htime]
  exact hlocal

/-! ## What is read -/

/-- A fraction is less than a second, however many digits it is written with. -/
theorem fraction?_lt {cs rest : List Char} {f : Nat} (h : fraction? cs = some (f, rest)) :
    f < Instant.nanosPerSecond := by
  unfold fraction? at h
  split at h
  · next cs =>
    cases hds : cs.takeWhile Char.isDigit with
    | nil =>
      rw [hds] at h
      contradiction
    | cons d ds =>
      rw [hds] at h
      obtain ⟨hvalue, -⟩ := Prod.mk.inj (Option.some.inj h)
      -- the digits after the ninth are passed over
      have hkept : Integer.IsDigits ((d :: ds).take 9)
          (Nat.ofDigitChars 10 ((d :: ds).take 9) 0) :=
        ⟨by simp, fun c hc => List.mem_takeWhile_imp (hds ▸ List.mem_of_mem_take hc), rfl⟩
      have hlength : ((d :: ds).take 9).length ≤ 9 := List.length_take_le _ _
      -- the digits that are kept and the zeros for the others are nine
      calc f = Nat.ofDigitChars 10 ((d :: ds).take 9) 0 * tenTo (9 - ((d :: ds).take 9).length) :=
            hvalue.symm
        _ < tenTo ((d :: ds).take 9).length * tenTo (9 - ((d :: ds).take 9).length) :=
            Nat.mul_lt_mul_of_pos_right hkept.lt (tenTo_pos _)
        _ = tenTo 9 := by rw [← tenTo_add, Nat.add_sub_cancel' hlength]
  · injection h with h
    injection h with h
    rw [← h]
    decide

/-- Hours and minutes make whole minutes, of less than a day. -/
theorem offsetDigits?_mod {cs rest : List Char} {k : Nat} (h : offsetDigits? cs = some (k, rest)) :
    k % 60 = 0 ∧ k < 86400 := by
  simp only [offsetDigits?, Option.bind_eq_bind, Option.bind_eq_some_iff] at h
  obtain ⟨_, -, _, -, h⟩ := h
  split at h
  · injection h with h
    injection h with h
    omega
  · contradiction

theorem offset?_mod {cs rest : List Char} {o : Int} (h : offset? cs = some (o, rest)) :
    o % 60 = 0 ∧ o.natAbs < 86400 := by
  -- a letter, a sign with hours and minutes, or the three letters spelled out
  unfold offset? at h
  split at h
  · injection h with h
    injection h with h
    omega
  · injection h with h
    injection h with h
    omega
  · obtain ⟨⟨k, _⟩, hk, h⟩ := Option.map_eq_some_iff.mp h
    injection h with h
    have hmod := offsetDigits?_mod hk
    omega
  · obtain ⟨⟨k, _⟩, hk, h⟩ := Option.map_eq_some_iff.mp h
    injection h with h
    have hmod := offsetDigits?_mod hk
    omega
  · obtain ⟨⟨k, _⟩, hk, h⟩ := Option.map_eq_some_iff.mp h
    injection h with h
    have hmod := offsetDigits?_mod hk
    omega
  · split at h
    · injection h with h
      injection h with h
      omega
    · contradiction

/-- A leap second is read at second 60 only, and kept as a long second 59. -/
theorem timePart?_plain {cs rest : List Char} {second nano : Nat}
    (h : timePart? cs = some ((second, nano), rest)) :
    nano < Instant.nanosPerSecond ∨ second % 60 = 59 := by
  simp only [timePart?, Option.bind_eq_bind, Option.bind_eq_some_iff] at h
  obtain ⟨⟨hour, _⟩, -, _, -, ⟨minute, _⟩, -, _, -, ⟨s, _⟩, -, ⟨f, _⟩, hf, h⟩ := h
  have hlt := fraction?_lt hf
  split at h
  · injection h with h
    injection h with h
    split at h
    · injection h with hsecond _
      right
      omega
    · injection h with _ hnano
      left
      rw [← hnano]
      exact hlt
  · contradiction

namespace Instant

/-- An instant is made of the second and the nanosecond it is asked for. -/
theorem of?_eq_some {d : Date} {second nano : Nat} {t : Instant} (h : of? d second nano = some t) :
    t.second = second ∧ t.nano = nano := by
  unfold of? at h
  split at h
  · injection h with h
    subst h
    exact ⟨rfl, rfl⟩
  · contradiction

/-- An offset of whole minutes leaves the second of the minute as it is. -/
theorem ofLocal?_mod {d : Date} {second nano : Nat} {o : Int} {t : Instant}
    (ho : o % 60 = 0 ∧ o.natAbs < 86400) (h : ofLocal? d second nano o = some t) :
    t.second % 60 = second % 60 ∧ t.nano = nano := by
  simp only [ofLocal?, Option.bind_eq_bind] at h
  -- the instant may fall on the day before or after, or on the same day
  split_ifs at h with hearly hlate
  · obtain ⟨_, -, h⟩ := Option.bind_eq_some_iff.mp h
    obtain ⟨hsecond, hnano⟩ := of?_eq_some h
    exact ⟨by omega, hnano⟩
  · obtain ⟨_, -, h⟩ := Option.bind_eq_some_iff.mp h
    obtain ⟨hsecond, hnano⟩ := of?_eq_some h
    exact ⟨by omega, hnano⟩
  · obtain ⟨hsecond, hnano⟩ := of?_eq_some h
    exact ⟨by omega, hnano⟩

/-- **No text is read as an instant that could not be written.** So whatever was read once is read
back. -/
theorem isPlain_of_ofText? {s : String} {t : Instant} (h : ofText? s = some t) : t.IsPlain := by
  simp only [ofText?, Option.bind_eq_bind, Option.bind_eq_some_iff] at h
  obtain ⟨⟨d, cs⟩, -, h⟩ := h
  split at h
  · contradiction
  · split at h
    · simp only [Option.bind_eq_some_iff] at h
      obtain ⟨⟨⟨second, nano⟩, _⟩, htime, ⟨o, _⟩, ho, h⟩ := h
      split at h
      · obtain ⟨hsecond, hnano⟩ := ofLocal?_mod (offset?_mod ho) h
        rw [IsPlain, hsecond, hnano]
        exact timePart?_plain htime
      · contradiction
    · contradiction

end Instant

end Obligations
