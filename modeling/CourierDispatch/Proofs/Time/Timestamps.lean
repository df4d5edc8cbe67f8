import CourierDispatch.Bytes
import CourierDispatch.Time.Rfc3339

/-!
# Timestamps read back

Every instant reads back from its text as the instant that the text writes
(`Instant.parse?_toText`): in years of more than four digits or before year
zero, to the nanosecond, and within a leap second. That is the instant itself,
unless it lies in a leap second that does not end a minute
(`Instant.asWritten_eq_self_iff`): there is no second 60 to tell it by, and its
text is that of an instant in the next second.

Reading is far more lenient than writing, so the question at every place is
where it stops. A number of a fixed width stops because its width is used up;
a year behind a sign and the digits of a fraction may go on for as long as
there are digits, and stop because a hyphen or the closing `Z` follows. Both
reasons are in `takeDigits_append`.

The text is also short (`Instant.length_ofText_toText_le`), which whoever
writes it behind its length relies on.
-/

namespace CourierDispatch.Instant

open Nat (ofDigitChars)

/-! ## Digits -/

/-- Digits are taken up to the given width or up to what is no digit. -/
theorem takeDigits_append {ds : List Char} (digits : ∀ c ∈ ds, c.isDigit) {width : Nat}
    (room : ds.length ≤ width) {rest : List Char}
    (stop : ds.length = width ∨ rest.head?.all fun c => !c.isDigit) (acc count : Nat) :
    takeDigits acc count width (ds ++ rest) =
      (ofDigitChars 10 ds acc, count + ds.length, rest) := by
  induction ds generalizing width acc count with
  | nil =>
    cases width with
    | zero => rfl
    | succ width =>
      cases rest with
      | nil => rfl
      | cons c rest =>
        have noDigit : digit? c = none := by
          rcases stop with full | stop
          · simp at full
          · simpa [digit?] using stop
        rw [List.nil_append, takeDigits, noDigit]
        rfl
  | cons c ds ih =>
    cases width with
    | zero => simp at room
    | succ width =>
      obtain ⟨first, others⟩ := List.forall_mem_cons.1 digits
      have value : digit? c = some (c.toNat - 48) := if_pos first
      simp only [List.length_cons, Nat.add_le_add_iff_right, Nat.add_right_cancel_iff] at room stop
      rw [List.cons_append, takeDigits, value]
      simp only [ih others room stop, List.length_cons, Nat.ofDigitChars_cons]
      congr 2
      omega

/-! ## Numbers of a fixed width -/

theorem isDigit_of_mem_padded {width n : Nat} {c : Char} (h : c ∈ padded width n) :
    c.isDigit := by
  simp only [padded, List.mem_append, List.mem_replicate] at h
  rcases h with ⟨-, rfl⟩ | h
  · rfl
  · exact Nat.isDigit_of_mem_toDigits (by decide) (by decide) h

/-- Zeros in front do not change a number. -/
theorem ofDigitChars_padded (width n : Nat) : ofDigitChars 10 (padded width n) 0 = n := by
  rw [padded, Nat.ofDigitChars_append, Nat.ofDigitChars_replicate_zero, Nat.mul_zero,
    Nat.ofDigitChars_ten_toDigits]

theorem length_padded {width n : Nat} (pos : 0 < width) (h : n < 10 ^ width) :
    (padded width n).length = width := by
  have digits := (Nat.length_toDigits_le_iff (by decide) pos).2 h
  simp only [padded, List.length_append, List.length_replicate]
  omega

theorem length_padded_pos (width n : Nat) : 0 < (padded width n).length := by
  have digits := Nat.length_toDigits_pos (b := 10) (n := n)
  simp only [padded, List.length_append, List.length_replicate]
  omega

/-- A number begins with a digit. -/
theorem exists_padded_eq_cons (width n : Nat) :
    ∃ c ds, padded width n = c :: ds ∧ c.isDigit := by
  cases h : padded width n with
  | nil => exact absurd (length_padded_pos width n) (by simp [h])
  | cons c ds =>
    exact ⟨c, ds, rfl, isDigit_of_mem_padded (by rw [h]; exact List.mem_cons_self)⟩

theorem trimStart_padded (width n : Nat) (rest : List Char) :
    Text.trimStart (padded width n ++ rest) = padded width n ++ rest := by
  obtain ⟨c, ds, h, digit⟩ := exists_padded_eq_cons width n
  rw [h, List.cons_append, Text.trimStart_cons (Text.isBlank_of_isDigit digit)]

theorem padded_append_ne {c : Char} (h : c.isDigit = false) (width n : Nat)
    (cs cs' : List Char) : padded width n ++ cs ≠ c :: cs' := by
  obtain ⟨d, ds, hp, digit⟩ := exists_padded_eq_cons width n
  intro same
  rw [hp, List.cons_append, List.cons.injEq] at same
  rw [same.1, h] at digit
  cases digit

/-- **A number that fills its width reads back**, whatever follows it. -/
theorem number?_padded {width n : Nat} (pos : 0 < width) (h : n < 10 ^ width)
    (rest : List Char) : number? width (padded width n ++ rest) = some (n, rest) := by
  have length := length_padded pos h
  unfold number?
  rw [trimStart_padded, takeDigits_append (fun _ => isDigit_of_mem_padded) (Nat.le_of_eq length)
    (.inl length), ofDigitChars_padded]
  simp only [length]
  rw [if_neg (by omega)]

theorem after?_cons {c : Char} (h : Text.isBlank c = false) (rest : List Char) :
    after? c (c :: rest) = some rest := by
  rw [after?, Text.trimStart_cons h]
  exact if_pos rfl

/-! ## Years -/

theorem signed_padded (sign : Int) (n : Nat) (rest : List Char) :
    year?.signed sign (padded 4 n ++ '-' :: rest) = some (sign * n, '-' :: rest) := by
  have digits := length_padded_pos 4 n
  unfold year?.signed
  rw [takeDigits_append (fun _ => isDigit_of_mem_padded) (by simp) (.inr rfl), ofDigitChars_padded]
  dsimp only
  rw [if_neg (by omega)]

/-- **A year reads back** from in front of a hyphen, however many digits it
has. -/
theorem year?_yearText (y : Int) (rest : List Char) :
    year? (yearText y ++ '-' :: rest) = some (y, '-' :: rest) := by
  by_cases small : 0 ≤ y ∧ y ≤ 9999
  · rw [yearText, if_pos small, year?, trimStart_padded]
    split
    · next h => exact absurd h (padded_append_ne rfl _ _ _ _)
    · next h => exact absurd h (padded_append_ne rfl _ _ _ _)
    · rw [number?_padded (by decide) (by omega)]
      simp only [Option.map_some, Option.some.injEq, Prod.mk.injEq, and_true]
      omega
  · rw [yearText, if_neg small, List.cons_append, year?]
    by_cases negative : y < 0
    · rw [if_pos negative, Text.trimStart_cons rfl]
      simp only [signed_padded, Option.some.injEq, Prod.mk.injEq, and_true]
      omega
    · rw [if_neg negative, Text.trimStart_cons rfl]
      simp only [signed_padded, Option.some.injEq, Prod.mk.injEq, and_true]
      omega

/-! ## Fractions -/

theorem fraction?_padded {width f : Nat} (pos : 0 < width) (le : width ≤ 9)
    (h : f < 10 ^ width) :
    fraction? ('.' :: padded width f ++ ['Z']) = some (f * 10 ^ (9 - width), ['Z']) := by
  have length := length_padded pos h
  rw [List.cons_append, fraction?, takeDigits_append (fun _ => isDigit_of_mem_padded)
    (by rw [length]; exact le) (.inr rfl), ofDigitChars_padded, length]
  simp only [Nat.zero_add]
  rw [if_neg (by omega)]
  rfl

/-- **All that a fraction is written as**: nothing for zero, and otherwise the
digits in front of the zeros that it ends in, in groups of three. -/
theorem fractionText_cases {nanos : Nat} (h : nanos < 1000000000) :
    nanos = 0 ∧ fractionText nanos = [] ∨
    ∃ width f, 0 < width ∧ width ≤ 9 ∧ f < 10 ^ width ∧ f * 10 ^ (9 - width) = nanos ∧
      fractionText nanos = '.' :: padded width f := by
  unfold fractionText
  split
  · next zero => exact .inl ⟨zero, rfl⟩
  · split
    · exact .inr ⟨3, nanos / 1000000, by decide, by decide, by omega, by omega, rfl⟩
    · split
      · exact .inr ⟨6, nanos / 1000, by decide, by decide, by omega, by omega, rfl⟩
      · exact .inr ⟨9, nanos, by decide, by decide, by omega, by omega, rfl⟩

/-- **A fraction reads back** from in front of `Z`: the digits left out are
zeros. -/
theorem fraction?_fractionText {nanos : Nat} (h : nanos < 1000000000) :
    fraction? (fractionText nanos ++ ['Z']) = some (nanos, ['Z']) := by
  obtain ⟨zero, text⟩ | ⟨width, f, pos, le, hf, whole, text⟩ := fractionText_cases h
  · rw [text, zero]
    rfl
  · rw [text, fraction?_padded pos le hf, whole]

/-! ## Whole timestamps -/

/-- What a text in the written form reads as. Second 60 is the leap second
behind second 59. -/
theorem parse?_ofList {date : Date} (valid : date.isValid) {hour minute second fraction : Nat}
    (hourLt : hour < 24) (minuteLt : minute < 60) (secondLt : second < 61)
    (fractionLt : fraction < 1000000000) :
    parse? (String.ofList (yearText date.year ++ '-' :: padded 2 date.month ++
      '-' :: padded 2 date.day ++ 'T' :: padded 2 hour ++ ':' :: padded 2 minute ++
      ':' :: padded 2 second ++ fractionText fraction ++ ['Z'])) =
    (ofParts? (date.toDays * 86400 +
        (3600 * hour + 60 * minute + (if second = 60 then 59 else second) : Nat))
      (if second = 60 then 1000000000 + fraction else fraction)).bind fun here =>
        ofParts? here.seconds here.nanos := by
  have parts := valid
  simp only [Date.isValid, Bool.and_eq_true, decide_eq_true_eq] at parts
  have dayLe := Nat.le_trans parts.2 (Date.daysInMonth_le _ _)
  -- Every number but the year has two digits.
  have two : 0 < 2 := by decide
  have monthFits : date.month < 10 ^ 2 := by omega
  have dayFits : date.day < 10 ^ 2 := by omega
  have hourFits : hour < 10 ^ 2 := by omega
  have minuteFits : minute < 10 ^ 2 := by omega
  have secondFits : second < 10 ^ 2 := by omega
  have hyphen : Text.isBlank '-' = false := rfl
  have colon : Text.isBlank ':' = false := rfl
  have utc : offset? (Text.trimStart ['Z']) = some (0, []) := rfl
  -- What is read is put in place before the rest is looked at.
  have taken {α β : Type} {x : Option α} {a : α} (h : x = some a) (f : α → Option β) :
      (x >>= f) = f a := by
    rw [h]
    rfl
  unfold parse?
  simp only [String.toList_ofList, List.append_assoc, List.cons_append,
    ↓taken (year?_yearText _ _), ↓taken (after?_cons hyphen _), ↓taken (after?_cons colon _),
    ↓taken (number?_padded two monthFits _), ↓taken (number?_padded two dayFits _),
    ↓taken (number?_padded two hourFits _), ↓taken (number?_padded two minuteFits _),
    ↓taken (number?_padded two secondFits _), ↓taken (fraction?_fractionText fractionLt),
    ↓taken utc, taken (Eq.refl (some _))]
  have hours : decide (24 ≤ hour) = false := by simpa using hourLt
  have minutes : decide (60 ≤ minute) = false := by simpa using minuteLt
  have seconds : decide (61 ≤ second) = false := by simpa using secondLt
  simp only [hours, minutes, seconds, valid, Text.trimStart,
    List.dropWhile_nil, List.isEmpty_nil]
  by_cases leap : second = 60
  · simp [leap]
  · simp [leap]

/-- The parts that are written make up the instant as it is written. -/
theorem parts_written (i : Instant) :
    let time := (i.seconds % 86400).toNat
    let second := time % 60 + if 1000000000 ≤ i.nanos then 1 else 0
    i.seconds / 86400 * 86400 + ((3600 * (time / 3600) + 60 * (time / 60 % 60) +
        (if second = 60 then 59 else second) : Nat) : Int) = i.asWritten.seconds ∧
      (if second = 60 then 1000000000 + i.nanos % 1000000000 else i.nanos % 1000000000) =
        i.asWritten.nanos := by
  intro time second
  have range := i.nanos_lt
  by_cases leap : i.InLeapSecond
  · have next : second = time % 60 + 1 := congrArg (time % 60 + ·) (if_pos leap)
    unfold InLeapSecond at leap
    by_cases last : i.seconds % 60 = 59
    · -- The leap second ends its minute, and is written as second 60.
      rw [asWritten_of_leapEndsMinute fun _ => last, if_pos (by omega), if_pos (by omega)]
      omega
    · -- The next second has a number of its own, and nothing tells of the leap second.
      obtain ⟨seconds, nanos⟩ := parts_asWritten leap last
      rw [seconds, nanos, if_neg (by omega), if_neg (by omega)]
      omega
  · have same : second = time % 60 + 0 := congrArg (time % 60 + ·) (if_neg leap)
    unfold InLeapSecond at leap
    rw [asWritten_of_leapEndsMinute fun h => absurd h leap, if_neg (by omega), if_neg (by omega)]
    omega

/-- **A timestamp reads back as the instant that it writes.** -/
theorem parse?_toText (i : Instant) : parse? i.toText = some i.asWritten := by
  unfold toText
  rw [parse?_ofList (Date.isValid_ofDays _) (by omega) (by omega) (by split <;> omega)
    (Nat.mod_lt _ (by decide)), Date.toDays_ofDays, i.parts_written.1, i.parts_written.2,
    ofParts?_self, Option.bind_some, ofParts?_self]

/-! ## Timestamps are short -/

/-- The years that instants lie in have at most six digits. -/
theorem natAbs_year_lt (i : Instant) :
    (Date.ofDays (i.seconds / 86400)).year.natAbs < 10 ^ 6 := by
  have first := i.first_le
  have last := i.le_last
  have inEra : ((i.seconds / 86400 + Date.epochOffset) % (Date.eraDays : Int)).toNat <
      Date.eraDays := by
    unfold Date.eraDays
    omega
  obtain ⟨lt, -⟩ := Date.yearStart_yearOfEra inEra
  simp only [Date.ofDays]
  generalize Date.yearOfEra _ = y at lt
  unfold Date.eraDays Date.epochOffset
  split <;> omega

theorem length_padded_le {width n k : Nat} (pos : 0 < k) (le : width ≤ k) (h : n < 10 ^ k) :
    (padded width n).length ≤ k := by
  have digits := (Nat.length_toDigits_le_iff (by decide) pos).2 h
  simp only [padded, List.length_append, List.length_replicate]
  omega

theorem length_yearText_le {y : Int} (h : y.natAbs < 10 ^ 6) : (yearText y).length ≤ 7 := by
  have signed : (padded 4 y.natAbs).length ≤ 6 := length_padded_le (by decide) (by decide) h
  unfold yearText
  split
  · have plain : (padded 4 y.toNat).length ≤ 4 := length_padded_le (by decide) (by decide) (by omega)
    omega
  · rw [List.length_cons]
    omega

theorem length_fractionText_le {nanos : Nat} (h : nanos < 1000000000) :
    (fractionText nanos).length ≤ 10 := by
  obtain ⟨-, text⟩ | ⟨width, f, pos, le, hf, -, text⟩ := fractionText_cases h
  · rw [text]
    exact Nat.zero_le _
  · rw [text, List.length_cons, length_padded pos hf]
    omega

/-- **A timestamp takes at most 132 bytes.** -/
theorem length_ofText_toText_le (i : Instant) : (Bytes.ofText i.toText).length ≤ 132 := by
  refine Nat.le_trans (Bytes.length_ofText_ofList_le _) ?_
  have valid := Date.isValid_ofDays (i.seconds / 86400)
  simp only [Date.isValid, Bool.and_eq_true, decide_eq_true_eq] at valid
  have dayLe := Nat.le_trans valid.2 (Date.daysInMonth_le _ _)
  have year := length_yearText_le i.natAbs_year_lt
  have fraction := length_fractionText_le (Nat.mod_lt i.nanos (show 1000000000 > 0 by decide))
  have two {n : Nat} (h : n < 10 ^ 2) : (padded 2 n).length = 2 := length_padded (by decide) h
  have second : (i.seconds % 86400).toNat % 60 + (if 1000000000 ≤ i.nanos then 1 else 0) <
      10 ^ 2 := by
    split <;> omega
  simp only [List.length_append, List.length_cons, List.length_nil, two second,
    two (show (Date.ofDays (i.seconds / 86400)).month < 10 ^ 2 by omega),
    two (show (Date.ofDays (i.seconds / 86400)).day < 10 ^ 2 by omega),
    two (show (i.seconds % 86400).toNat / 3600 < 10 ^ 2 by omega),
    two (show (i.seconds % 86400).toNat / 60 % 60 < 10 ^ 2 by omega)]
  omega

end CourierDispatch.Instant
