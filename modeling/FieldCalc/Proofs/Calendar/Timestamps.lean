import FieldCalc.Proofs.Number.Closest
import FieldCalc.Calendar.DateText
import FieldCalc.Formula.Builtin
import FieldCalc.Proofs.Number.Digits
import FieldCalc.Proofs.Text.Trimming

/-!
# Dates of timestamps

A text in which a date is written has this date, whatever time of day and offset from universal time
stand behind it and whatever white space stands around it (`read?_of_writes`).  A date that any text
has is one of the calendar, in a year that numbers hold (`yearInRange_of_read?`).  So the parts of
any value are those of a date, or zeros (`hasParts_of_writes`).
-/

namespace FieldCalc

open Number (padded length_padded isDigit_of_mem_padded digitsValue_padded)

/-! ### What is written -/

/-- A date as `YYYY-MM-DD`. -/
def Date.chars (d : Date) : List Char :=
  padded 4 d.year.toNat ++ '-' :: (padded 2 d.month ++ '-' :: padded 2 d.day)

/-- A time of day.  A sixtieth second is a leap second. -/
structure TimeOfDay where
  hour : Nat
  minute : Nat
  second : Nat
  /-- The digits behind the point, if there is one. -/
  fraction : List Char
  hour_le : hour ≤ 23
  minute_le : minute ≤ 59
  second_le : second ≤ 60
  isDigit : ∀ c ∈ fraction, c.isDigit

namespace TimeOfDay

def fractionChars (t : TimeOfDay) : List Char :=
  if t.fraction = [] then [] else '.' :: t.fraction

/-- A time of day as `HH:MM:SS`, with a fraction behind a point. -/
def chars (t : TimeOfDay) : List Char :=
  padded 2 t.hour ++ ':' :: (padded 2 t.minute ++ ':' :: (padded 2 t.second ++ t.fractionChars))

end TimeOfDay

/-- An offset from universal time, of less than a day. -/
structure Offset where
  behind : Bool
  hours : Nat
  minutes : Nat
  hours_le : hours ≤ 23
  minutes_le : minutes ≤ 59

/-- An offset as `HH:MM` behind its sign. -/
def Offset.chars (o : Offset) : List Char :=
  (if o.behind then '-' else '+') :: (padded 2 o.hours ++ ':' :: padded 2 o.minutes)

/-- The texts in which a date is written: by itself, or with a time of day behind it, in universal
time or with an offset from it or neither. -/
inductive Date.Writes (d : Date) : List Char → Prop
  | date : d.Writes d.chars
  | clock (separator : Char) (h : separator = 'T' ∨ separator = ' ') (t : TimeOfDay) :
      d.Writes (d.chars ++ separator :: t.chars)
  | universal (t : TimeOfDay) : d.Writes (d.chars ++ 'T' :: (t.chars ++ ['Z']))
  | offset (t : TimeOfDay) (o : Offset) : d.Writes (d.chars ++ 'T' :: (t.chars ++ o.chars))

/-! ### Parts of dates and of times of day -/

namespace Date

theorem of?_parts {d : Date} (hlo : 0 ≤ d.year) (hhi : d.year ≤ 9999) :
    of? d.year d.month d.day = some d := by
  have hr : yearInRange d.year := by
    unfold yearInRange
    rw [Bool.and_eq_true, decide_eq_true_eq, decide_eq_true_eq]
    omega
  rw [of?, dif_pos ⟨d.month_pos, d.month_le, d.day_pos, d.day_le⟩, if_pos hr]

theorem day_lt (d : Date) : d.day < 10 ^ 2 := by
  have h := d.day_le
  unfold daysInMonth at h
  split at h
  · split at h <;> omega
  · split at h <;> omega

theorem month_lt (d : Date) : d.month < 10 ^ 2 := by
  have := d.month_le
  omega

end Date

namespace TimeOfDay

variable (t : TimeOfDay)

theorem hour_lt : t.hour < 10 ^ 2 := by
  have := t.hour_le
  omega

theorem minute_lt : t.minute < 10 ^ 2 := by
  have := t.minute_le
  omega

theorem second_lt : t.second < 10 ^ 2 := by
  have := t.second_le
  omega

end TimeOfDay

/-! ### White space -/

theorem Text.isBlank_of_isDigit {c : Char} (h : c.isDigit) : isBlank c = false := by
  have hc := Char.isDigit_iff_toNat.1 h
  have h0 : '0'.toNat = 48 := rfl
  have h9 : '9'.toNat = 57 := rfl
  rw [Bool.eq_false_iff]
  intro hb
  simp only [isBlank, blankRanges, Ranges.holds, List.any_cons, List.any_nil, Bool.or_false,
    Bool.or_eq_true, Bool.and_eq_true, decide_eq_true_eq] at hb
  omega

theorem isBlank_of_mem_padded {width n : Nat} {c : Char} (h : c ∈ padded width n) :
    Text.isBlank c = false :=
  Text.isBlank_of_isDigit (isDigit_of_mem_padded h)

theorem Date.trimmed_chars (d : Date) : Text.Trimmed d.chars := by
  refine Text.trimmed_of_forall (by simp [Date.chars]) fun c hc => ?_
  simp only [Date.chars, List.mem_append, List.mem_cons] at hc
  rcases hc with h | rfl | h | rfl | h
  · exact isBlank_of_mem_padded h
  · decide
  · exact isBlank_of_mem_padded h
  · decide
  · exact isBlank_of_mem_padded h

theorem TimeOfDay.trimmed_chars (t : TimeOfDay) : Text.Trimmed t.chars := by
  refine Text.trimmed_of_forall (by simp [TimeOfDay.chars]) fun c hc => ?_
  simp only [TimeOfDay.chars, TimeOfDay.fractionChars, List.mem_append, List.mem_cons] at hc
  rcases hc with h | rfl | h | rfl | h | h
  · exact isBlank_of_mem_padded h
  · decide
  · exact isBlank_of_mem_padded h
  · decide
  · exact isBlank_of_mem_padded h
  · split at h
    · cases h
    · rcases List.mem_cons.1 h with rfl | h
      · decide
      · exact Text.isBlank_of_isDigit (t.isDigit c h)

theorem Offset.trimmed_chars (o : Offset) : Text.Trimmed o.chars := by
  refine Text.trimmed_of_forall (by simp [Offset.chars]) fun c hc => ?_
  simp only [Offset.chars, List.mem_append, List.mem_cons] at hc
  rcases hc with rfl | h | rfl | h
  · split <;> decide
  · exact isBlank_of_mem_padded h
  · decide
  · exact isBlank_of_mem_padded h

theorem Date.Writes.trimmed {d : Date} {cs : List Char} (h : d.Writes cs) : Text.Trimmed cs := by
  cases h with
  | date => exact d.trimmed_chars
  | clock c _ t => exact d.trimmed_chars.append t.trimmed_chars [c]
  | universal t =>
    have hz : Text.Trimmed ['Z'] := Text.trimmed_of_forall (by simp) (by simp; decide)
    exact d.trimmed_chars.append (t.trimmed_chars.append hz []) ['T']
  | offset t o =>
    exact d.trimmed_chars.append (t.trimmed_chars.append o.trimmed_chars []) ['T']

/-! ### Numbers -/

namespace Text.Reader

variable {width n : Nat}

@[simp] theorem char_cons (c : Char) (cs : List Char) : char c (c :: cs) = some ((), cs) :=
  if_pos rfl

/-- A number written in as many digits is read, and what stands behind it is left. -/
theorem numberOf_padded (hw : 0 < width) (h : n < 10 ^ width) (rest : List Char) :
    numberOf width (padded width n ++ rest) = some (n, rest) := by
  have hl := length_padded hw h
  have ht : (padded width n ++ rest).take width = padded width n := List.take_left' hl
  have hd : (padded width n ++ rest).drop width = rest := List.drop_left' hl
  unfold numberOf
  dsimp only
  rw [ht, hd, digitsValue_padded]
  exact if_pos ⟨hl, List.all_eq_true.2 fun c hc => isDigit_of_mem_padded hc⟩

theorem numberUpTo_padded (hw : 0 < width) (h : n < 10 ^ width) (rest : List Char) :
    numberUpTo width (padded width n ++ rest) = some (n, rest) := by
  have hl := length_padded hw h
  have ht : (padded width n ++ rest).take width = padded width n := List.take_left' hl
  have hd : (padded width n ++ rest).drop (padded width n).length = rest := List.drop_left
  have hdigits : (padded width n).takeWhile Char.isDigit = padded width n :=
    List.takeWhile_eq_self_iff.2 fun c hc => isDigit_of_mem_padded hc
  unfold numberUpTo
  rw [ht, hdigits]
  split
  · rename_i h0
    rw [h0] at hl
    exact absurd hl hw.ne
  · rw [digitsValue_padded, hd]

end Text.Reader

namespace DateText

open Text (Reader)
open Text.Reader

variable {width n : Nat}

theorem exists_padded_eq_cons (hw : 0 < width) (h : n < 10 ^ width) :
    ∃ c cs, padded width n = c :: cs ∧ c.isDigit := by
  obtain ⟨c, cs, hc⟩ := List.exists_cons_of_length_pos (hw.trans_eq (length_padded hw h).symm)
  exact ⟨c, cs, hc, isDigit_of_mem_padded (hc ▸ List.mem_cons_self)⟩

theorem dropWhile_isBlank_padded (hw : 0 < width) (h : n < 10 ^ width) (rest : List Char) :
    (padded width n ++ rest).dropWhile Text.isBlank = padded width n ++ rest := by
  obtain ⟨c, cs, hc, hd⟩ := exists_padded_eq_cons hw h
  rw [hc, List.cons_append, List.dropWhile_cons_of_neg (by simp [Text.isBlank_of_isDigit hd])]

theorem spacedNumber_padded (hw : 0 < width) (h : n < 10 ^ width) (rest : List Char) :
    spacedNumber width (padded width n ++ rest) = some (n, rest) := by
  rw [spacedNumber, dropWhile_isBlank_padded hw h, numberUpTo_padded hw h]

theorem spacedYear_padded (h : n < 10 ^ 4) (rest : List Char) :
    spacedYear (padded 4 n ++ rest) = some ((n : ℤ), rest) := by
  obtain ⟨c, cs, hc, hd⟩ := exists_padded_eq_cons (by decide) h
  have hread := numberUpTo_padded (by decide) h rest
  unfold spacedYear
  rw [dropWhile_isBlank_padded (by decide) h]
  split
  · rename_i r hr
    rw [hc] at hr
    obtain ⟨rfl, -⟩ := List.cons.inj hr
    cases hd
  · rename_i r hr
    rw [hc] at hr
    obtain ⟨rfl, -⟩ := List.cons.inj hr
    cases hd
  · rw [hread]
    rfl

/-! ### Dates and times of day -/

section Forms

variable {d : Date} (t : TimeOfDay) (o : Offset) {rest : List Char}

/-- A number of two digits is read, and what stands behind it is left. -/
def ReadsPairs (part : Reader Nat) : Prop :=
  ∀ n < 10 ^ 2, ∀ rest, part (padded 2 n ++ rest) = some (n, rest)

theorem readsPairs_spacedNumber : ReadsPairs (spacedNumber 2) :=
  fun _ h => spacedNumber_padded (by decide) h

theorem readsPairs_numberOf : ReadsPairs (numberOf 2) :=
  fun _ h => numberOf_padded (by decide) h

theorem date_chars {year : Reader ℤ} {part : Reader Nat} (hpart : ReadsPairs part)
    (hyear : ∀ n < 10 ^ 4, ∀ rest, year (padded 4 n ++ rest) = some ((n : ℤ), rest))
    (hlo : 0 ≤ d.year) (hhi : d.year ≤ 9999) (rest : List Char) :
    date year part (d.chars ++ rest) = some (d, rest) := by
  have hy : d.year.toNat < 10 ^ 4 := by omega
  simp [date, Date.chars, hyear _ hy, hpart _ d.month_lt, hpart _ d.day_lt, max_eq_left hlo,
    Date.of?_parts hlo hhi]

theorem looseDate_chars (hlo : 0 ≤ d.year) (hhi : d.year ≤ 9999) (rest : List Char) :
    looseDate (d.chars ++ rest) = some (d, rest) :=
  date_chars readsPairs_spacedNumber (fun _ h => spacedYear_padded h) hlo hhi rest

theorem strictDate_chars (hlo : 0 ≤ d.year) (hhi : d.year ≤ 9999) (rest : List Char) :
    strictDate (d.chars ++ rest) = some (d, rest) :=
  date_chars readsPairs_numberOf
    (fun _ h rest => by rw [fixedYear, numberOf_padded (by decide) h]; rfl) hlo hhi rest

/-- What can stand behind a time of day: nothing that goes on with its fraction. -/
def EndsTime (rest : List Char) : Prop := ∀ c ∈ rest.head?, c.isDigit = false ∧ c ≠ '.'

theorem fraction_fractionChars (h : EndsTime rest) :
    fraction (t.fractionChars ++ rest) = some ((), rest) := by
  have htake : (t.fraction ++ rest).takeWhile Char.isDigit = t.fraction := by
    rw [List.takeWhile_append_of_pos t.isDigit]
    cases rest with
    | nil => exact List.append_nil _
    | cons c rest => simp [(h c rfl).1]
  have hdrop : (t.fraction ++ rest).dropWhile Char.isDigit = rest := by
    rw [List.dropWhile_append_of_pos t.isDigit]
    cases rest with
    | nil => rfl
    | cons c rest => simp [(h c rfl).1]
  unfold TimeOfDay.fractionChars
  split
  · cases rest with
    | nil => rfl
    | cons c rest =>
      have hc := (h c rfl).2
      simp [fraction, hc]
  · rename_i hf
    rw [List.cons_append, fraction, digits, htake, hdrop]
    split
    · contradiction
    · rfl

theorem isTime_self : isTime t.hour t.minute t.second := by
  simp [isTime, t.hour_le, t.minute_le, t.second_le]

theorem time_chars {part : Reader Nat} (hpart : ReadsPairs part) (h : EndsTime rest) :
    time part (t.chars ++ rest) = some ((), rest) := by
  simp [time, TimeOfDay.chars, hpart _ t.hour_lt, hpart _ t.minute_lt, hpart _ t.second_lt,
    fraction_fractionChars t h, isTime_self]

theorem looseTime_chars (h : EndsTime rest) : looseTime (t.chars ++ rest) = some ((), rest) :=
  time_chars t readsPairs_spacedNumber h

theorem strictTime_chars (h : EndsTime rest) : strictTime (t.chars ++ rest) = some ((), rest) :=
  time_chars t readsPairs_numberOf h

theorem offset_chars (rest : List Char) :
    offset ['+', '-', '−'] (o.chars ++ rest) = some ((), rest) := by
  have hh : o.hours < 10 ^ 2 := by have := o.hours_le; omega
  have hm : o.minutes < 10 ^ 2 := by have := o.minutes_le; omega
  cases hb : o.behind <;>
    simp [offset, Offset.chars, hb, numberOf_padded (by decide) hh, numberOf_padded (by decide) hm,
      o.hours_le, o.minutes_le]

/-! ### Forms of text -/

theorem endsTime_nil : EndsTime [] := nofun

theorem endsTime_universal : EndsTime ['Z'] := by
  rintro c ⟨⟩
  decide

theorem endsTime_offset : EndsTime o.chars := by
  unfold Offset.chars
  split <;> rintro c ⟨⟩ <;> decide

theorem all?_looseDate_of_cons (hlo : 0 ≤ d.year) (hhi : d.year ≤ 9999) (c : Char)
    (cs : List Char) : Reader.all? looseDate (d.chars ++ c :: cs) = none := by
  rw [Reader.all?, looseDate_chars hlo hhi]

theorem all?_strictTimestamp (hlo : 0 ≤ d.year) (hhi : d.year ≤ 9999) {zone : List Char}
    (hz : EndsTime zone) (ho : offset ['+', '-', '−'] zone = some ((), [])) :
    Reader.all? strictTimestamp (d.chars ++ 'T' :: (t.chars ++ zone)) = some d := by
  simp [Reader.all?, strictTimestamp, strictDate_chars hlo hhi, separator, strictTime_chars t hz,
    ho]

/-- Without an offset a timestamp is none of the strict ones. -/
theorem all?_strictTimestamp_clock (hlo : 0 ≤ d.year) (hhi : d.year ≤ 9999) {c : Char}
    (hc : c = 'T' ∨ c = ' ') : Reader.all? strictTimestamp (d.chars ++ c :: t.chars) = none := by
  have ht : strictTime t.chars = some ((), []) := by
    simpa using strictTime_chars t endsTime_nil
  rcases hc with rfl | rfl <;>
    simp [Reader.all?, strictTimestamp, strictDate_chars hlo hhi, separator, ht, offset]

theorem read?_of_writes (hlo : 0 ≤ d.year) (hhi : d.year ≤ 9999) {cs : List Char}
    (h : d.Writes cs) {before after : List Char} (hbefore : ∀ c ∈ before, Text.isBlank c)
    (hafter : ∀ c ∈ after, Text.isBlank c) :
    read? (String.ofList (before ++ (cs ++ after))) = some d := by
  rw [read?, String.toList_ofList, h.trimmed.trimChars_surrounded hbefore hafter]
  cases h with
  | date =>
    have hd : looseDate d.chars = some (d, []) := by
      simpa using looseDate_chars hlo hhi []
    simp [Reader.all?, hd]
  | clock c hc t =>
    have ht : looseTime t.chars = some ((), []) := by
      simpa using looseTime_chars t endsTime_nil
    rw [List.findSome?_cons, all?_looseDate_of_cons hlo hhi, List.findSome?_cons,
      all?_strictTimestamp_clock t hlo hhi hc]
    rcases hc with rfl | rfl
    · simp [Reader.all?, looseTimestamp, looseDate_chars hlo hhi, ht]
    · have hblanks : blanks (' ' :: t.chars) = some ((), t.chars) := by
        have hspace : ∀ c ∈ [' '], Text.isBlank c := List.forall_mem_singleton.2 rfl
        have hdrop : ([' '] ++ (t.chars ++ [])).dropWhile Text.isBlank = t.chars ++ [] :=
          t.trimmed_chars.dropWhile_isBlank hspace
        rw [List.append_nil] at hdrop
        exact congrArg (fun cs => some ((), cs)) hdrop
      simp [Reader.all?, looseTimestamp, looseDate_chars hlo hhi, hblanks, ht, Reader.char]
  | universal t =>
    rw [List.findSome?_cons, all?_looseDate_of_cons hlo hhi, List.findSome?_cons,
      all?_strictTimestamp t hlo hhi endsTime_universal rfl]
  | offset t o =>
    have ho : offset ['+', '-', '−'] o.chars = some ((), []) := by
      simpa using offset_chars o []
    rw [List.findSome?_cons, all?_looseDate_of_cons hlo hhi, List.findSome?_cons,
      all?_strictTimestamp t hlo hhi (endsTime_offset o) ho]

end Forms

/-! ### Dates of any text -/

section Ranges

variable {d : Date} {cs rest : List Char}

theorem yearInRange_of_of? {year : ℤ} {month day : Nat} (h : Date.of? year month day = some d) :
    Date.yearInRange d.year := by
  unfold Date.of? at h
  split at h
  · split at h
    · rename_i hr
      exact Option.some.inj h ▸ hr
    · cases h
  · cases h

theorem yearInRange_of_date {year : Reader ℤ} {part : Reader Nat}
    (h : date year part cs = some (d, rest)) : Date.yearInRange d.year := by
  simp only [date, Option.bind_eq_bind, Option.bind_eq_some_iff] at h
  obtain ⟨_, -, _, -, _, -, _, -, _, -, e, he, hd⟩ := h
  cases hd
  exact yearInRange_of_of? he

theorem yearInRange_of_looseTimestamp {separator : Reader Unit}
    (h : looseTimestamp separator cs = some (d, rest)) : Date.yearInRange d.year := by
  simp only [looseTimestamp, Option.bind_eq_bind, Option.bind_eq_some_iff] at h
  obtain ⟨⟨e, _⟩, he, _, -, _, -, hd⟩ := h
  cases hd
  exact yearInRange_of_date he

theorem yearInRange_of_strictTimestamp (h : strictTimestamp cs = some (d, rest)) :
    Date.yearInRange d.year := by
  simp only [strictTimestamp, Option.bind_eq_bind, Option.bind_eq_some_iff] at h
  obtain ⟨⟨e, _⟩, he, _, -, _, -, _, -, hd⟩ := h
  cases hd
  exact yearInRange_of_date he

theorem exists_of_all? {α : Type} {r : Reader α} {a : α} (h : r.all? cs = some a) :
    r cs = some (a, []) := by
  unfold Reader.all? at h
  split at h
  · rename_i b hb
    rw [hb, Option.some.inj h]
  · cases h

/-- A text's date is in a year that dates are read in. -/
theorem yearInRange_of_read? {s : String} (h : read? s = some d) : Date.yearInRange d.year := by
  obtain ⟨form, hform, hd⟩ := List.exists_of_findSome?_eq_some h
  have hd := exists_of_all? hd
  simp only [List.mem_cons, List.not_mem_nil, or_false] at hform
  rcases hform with rfl | rfl | rfl | rfl
  · exact yearInRange_of_date hd
  · exact yearInRange_of_strictTimestamp hd
  · exact yearInRange_of_looseTimestamp hd
  · exact yearInRange_of_looseTimestamp hd

end Ranges

end DateText

/-! ### Parts of dates -/

namespace Formula.Builtin

/-- A function of one argument gives a whole number. -/
def Gives (name : String) (v : Value) (n : ℤ) : Prop :=
  ∃ b, find? name = some b ∧
    ∀ now, ∃ x, b.call now [v] = .ok (.number x) ∧ Number.value? x = some (n : ℚ)

/-- The parts of the date that a value has. -/
structure HasParts (v : Value) (year month day : ℤ) : Prop where
  year : Gives "YEAR" v year
  month : Gives "MONTH" v month
  day : Gives "DAY" v day

/-- A part of the date that a value has, or zero where it has none, is given as it is. -/
theorem gives_datePart {name : String} {b : Builtin} {v : Value} {n : ℤ} (part : Date → ℤ)
    (hb : find? name = some b) (hcall : ∀ now, b.call now [v] = .ok (datePart part v))
    (hn : n.natAbs ≤ 2 ^ 53) (h : ((DateText.read? v.toText).map part).getD 0 = n) :
    Gives name v n :=
  ⟨b, hb, fun now => ⟨_, hcall now, h ▸ Number.value?_ofInt (h ▸ hn)⟩⟩

theorem hasParts_of_read? {v : Value} {d : Date} (h : DateText.read? v.toText = some d) :
    HasParts v d.year d.month d.day := by
  have hy := DateText.yearInRange_of_read? h
  have hd := d.day_lt
  have hm := d.month_le
  unfold Date.yearInRange at hy
  rw [Bool.and_eq_true, decide_eq_true_eq, decide_eq_true_eq] at hy
  constructor
  · exact gives_datePart Date.year rfl (fun _ => rfl) (by omega) (by rw [h]; rfl)
  · exact gives_datePart (fun d => d.month) rfl (fun _ => rfl) (by omega) (by rw [h]; rfl)
  · exact gives_datePart (fun d => d.day) rfl (fun _ => rfl) (by omega) (by rw [h]; rfl)

theorem hasParts_of_read?_eq_none {v : Value} (h : DateText.read? v.toText = none) :
    HasParts v 0 0 0 := by
  have hzero (part : Date → ℤ) : ((DateText.read? v.toText).map part).getD 0 = 0 := by
    rw [h]
    rfl
  constructor
  · exact gives_datePart _ rfl (fun _ => rfl) (by decide) (hzero Date.year)
  · exact gives_datePart _ rfl (fun _ => rfl) (by decide) (hzero fun d => d.month)
  · exact gives_datePart _ rfl (fun _ => rfl) (by decide) (hzero fun d => d.day)

/-- The parts of a text in which a date is written are those of the date, whatever time of day and
offset stand behind it and whatever white space stands around it.  The parts of any value are those
of a date of the calendar, or zeros. -/
theorem hasParts_of_writes :
    (∀ (d : Date) (cs before after : List Char), 0 ≤ d.year → d.year ≤ 9999 → d.Writes cs →
      (∀ c ∈ before, Text.isBlank c) → (∀ c ∈ after, Text.isBlank c) →
        HasParts (.text (String.ofList (before ++ (cs ++ after)))) d.year d.month d.day) ∧
    ∀ v, HasParts v 0 0 0 ∨ ∃ d : Date, HasParts v d.year d.month d.day := by
  constructor
  · intro d cs before after hlo hhi hd hbefore hafter
    exact hasParts_of_read? (DateText.read?_of_writes hlo hhi hd hbefore hafter)
  · intro v
    cases h : DateText.read? v.toText with
    | none => exact .inl (hasParts_of_read?_eq_none h)
    | some d => exact .inr ⟨d, hasParts_of_read? h⟩

/-- A leap second of a leap day, of the first of March in universal time. -/
theorem hasParts_of_writes_leapSecond :
    HasParts (.text " 2024-02-29T23:59:60.25-23:59\n") 2024 2 29 := by
  let d : Date := ⟨2024, 2, 29, by decide, by decide, by decide, by decide⟩
  let t : TimeOfDay := ⟨23, 59, 60, ['2', '5'], by decide, by decide, by decide,
    List.all_eq_true.1 rfl⟩
  let o : Offset := ⟨true, 23, 59, by decide, by decide⟩
  have htext : String.ofList ([' '] ++ ((d.chars ++ 'T' :: (t.chars ++ o.chars)) ++ ['\n'])) =
      " 2024-02-29T23:59:60.25-23:59\n" := by decide +kernel
  rw [← htext]
  exact hasParts_of_writes.1 d _ [' '] ['\n'] (by decide) (by decide) (.offset t o)
    (List.forall_mem_singleton.2 rfl) (List.forall_mem_singleton.2 rfl)

end Formula.Builtin

end FieldCalc
