import MeetingLog.Calendar.Date
import MeetingLog.Proofs.Text.Digits

/-!
# Dates read back

A date whose year has at most four digits is read back from what is written of
it. Days that follow one another have growing places in the order of dates.
-/

namespace MeetingLog.Calendar.Date

open MeetingLog.Text

/-- `date.HasFourDigits` means that the year of the date is written with four
digits and no sign. -/
def HasFourDigits (date : Date) : Prop :=
  0 ≤ date.year ∧ date.year < 10000

instance (date : Date) : Decidable date.HasFourDigits :=
  inferInstanceAs (Decidable (_ ∧ _))

theorem readFixed?_fixedDigits {width number : Nat}
    (small : number < 10 ^ width) (rest : List Char) :
    readFixed? width (fixedDigits width number ++ rest) =
      some (number, rest) := by
  have taken := takeDigits_append (isDigit_fixedDigits width number) rest
  rw [length_fixedDigits] at taken
  rw [readFixed?, taken]
  simp only [length_fixedDigits, if_true]
  rw [valueOfDigits_fixedDigits, Nat.mod_eq_of_lt small]

/-- A number is read from as many digits as it is written with. -/
theorem readFixed?_eq_some {width number : Nat} {text rest : List Char}
    (found : readFixed? width text = some (number, rest)) :
    text = fixedDigits width number ++ rest ∧ number < 10 ^ width := by
  obtain ⟨whole, all⟩ := takeDigits_eq width text
  rw [readFixed?] at found
  split at found
  next digits remaining taken =>
  rw [taken] at whole all
  split at found
  · next length =>
      obtain ⟨rfl, rfl⟩ := Prod.mk.inj (Option.some.inj found)
      rw [← length, fixedDigits_valueOfDigits all]
      exact ⟨whole.symm, valueOfDigits_lt all⟩
  · cases found

theorem ofParts?_parts (date : Date) :
    ofParts? date.year (date.month.val + 1) (date.day.val + 1) =
      some date := by
  have month := date.month.isLt
  have day := date.day.isLt
  rw [ofParts?, dif_pos ⟨by omega, by omega⟩, dif_pos ⟨by omega, by omega⟩]
  simp only [Nat.add_sub_cancel, dif_pos date.valid]

theorem ofParts?_eq_some {year : Int} {month day : Nat} {date : Date}
    (found : ofParts? year month day = some date) :
    date.year = year ∧ date.month.val + 1 = month ∧
      date.day.val + 1 = day := by
  unfold ofParts? at found
  split at found
  · next monthBound =>
      split at found
      · next dayBound =>
          split at found
          · obtain rfl := Option.some.inj found
            exact ⟨rfl, Nat.sub_add_cancel monthBound.1,
              Nat.sub_add_cancel dayBound.1⟩
          · cases found
      · cases found
  · cases found

theorem yearLetters_eq {year : Int} (notNegative : 0 ≤ year)
    (small : year < 10000) :
    yearLetters year = fixedDigits 4 year.natAbs := by
  have size : year.natAbs < 10000 := by omega
  have notLess : ¬ year < 0 := by omega
  rw [yearLetters]
  simp only [if_pos size, if_neg notLess]

/-- The parts of a date whose year has four digits fit into their places. -/
theorem HasFourDigits.fits {date : Date} (fourDigits : date.HasFourDigits) :
    date.year.natAbs < 10 ^ 4 ∧ date.month.val + 1 < 10 ^ 2 ∧
      date.day.val + 1 < 10 ^ 2 ∧
      ((date.year.natAbs : Nat) : Int) = date.year := by
  obtain ⟨notNegative, small⟩ := fourDigits
  have month := date.month.isLt
  have day := date.day.isLt
  exact ⟨by omega, by omega, by omega, by omega⟩

theorem readFront?_letters {date : Date} (fourDigits : date.HasFourDigits)
    (rest : List Char) :
    readFront? (date.letters ++ rest) = some (date, rest) := by
  obtain ⟨size, month, day, year⟩ := fourDigits.fits
  have parts : date.letters ++ rest =
      fixedDigits 4 date.year.natAbs ++ ('-' ::
        (fixedDigits 2 (date.month.val + 1) ++ ('-' ::
          (fixedDigits 2 (date.day.val + 1) ++ rest)))) := by
    rw [letters, yearLetters_eq fourDigits.1 fourDigits.2]
    simp only [List.append_assoc, List.cons_append]
  rw [parts, readFront?]
  simp only [readFixed?_fixedDigits size, readFixed?_fixedDigits month,
    readFixed?_fixedDigits day, expectChar?_cons, Option.bind_eq_bind,
    Option.bind_some, year, ofParts?_parts]
  rfl

theorem compactLetters_eq {date : Date} (fourDigits : date.HasFourDigits) :
    date.compactLetters = fixedDigits 4 date.year.natAbs ++
      (fixedDigits 2 (date.month.val + 1) ++
        fixedDigits 2 (date.day.val + 1)) := by
  rw [compactLetters, yearLetters_eq fourDigits.1 fourDigits.2,
    List.append_assoc]

/-- The digits of a date whose year has four digits are eight. -/
theorem compactLetters_digits {date : Date} (fourDigits : date.HasFourDigits) :
    date.compactLetters.length = 8 ∧
      ∀ c ∈ date.compactLetters, isDigit c = true := by
  rw [compactLetters_eq fourDigits]
  constructor
  · simp only [List.length_append, length_fixedDigits]
  · simp only [List.forall_mem_append]
    exact ⟨isDigit_fixedDigits _ _, isDigit_fixedDigits _ _,
      isDigit_fixedDigits _ _⟩

/-- A date is read back from its eight digits, and from nothing else. -/
theorem readCompact?_eq_some_iff {text : List Char} {date : Date} :
    readCompact? text = some date ↔
      date.HasFourDigits ∧ text = date.compactLetters := by
  constructor
  · intro found
    unfold readCompact? at found
    simp only [Option.bind_eq_bind, Option.bind_eq_some_iff, Prod.exists]
      at found
    obtain ⟨year, _, yearRead, month, _, monthRead, day, rest, dayRead, last,
      parts, equality⟩ := found
    split at equality
    · next empty =>
        obtain rfl := Option.some.inj equality
        obtain rfl := List.isEmpty_iff.1 empty
        obtain ⟨rfl, small⟩ := readFixed?_eq_some yearRead
        obtain ⟨rfl, -⟩ := readFixed?_eq_some monthRead
        obtain ⟨rfl, -⟩ := readFixed?_eq_some dayRead
        obtain ⟨yearSame, monthSame, daySame⟩ := ofParts?_eq_some parts
        have fourDigits : last.HasFourDigits := by
          rw [HasFourDigits, yearSame]
          omega
        refine ⟨fourDigits, ?_⟩
        rw [compactLetters_eq fourDigits, yearSame, monthSame, daySame,
          Int.natAbs_natCast, List.append_nil]
    · cases equality
  · rintro ⟨fourDigits, rfl⟩
    obtain ⟨size, month, day, year⟩ := fourDigits.fits
    have parts : date.compactLetters = fixedDigits 4 date.year.natAbs ++
        (fixedDigits 2 (date.month.val + 1) ++
          (fixedDigits 2 (date.day.val + 1) ++ [])) := by
      rw [compactLetters_eq fourDigits, List.append_nil]
    rw [parts, readCompact?]
    simp only [readFixed?_fixedDigits size, readFixed?_fixedDigits month,
      readFixed?_fixedDigits day, Option.bind_eq_bind, Option.bind_some, year,
      ofParts?_parts]
    rfl

theorem feed_not_mem_yearLetters (year : Int) : '\n' ∉ yearLetters year := by
  rw [yearLetters]
  by_cases small : year.natAbs < 10000
  all_goals by_cases negative : year < 0
  all_goals
    simp only [small, negative, if_true, if_false, List.mem_cons,
      feed_not_mem_fixedDigits, feed_not_mem_decimal, or_false]
  all_goals decide

theorem feed_not_mem_letters (date : Date) : '\n' ∉ date.letters := by
  simp only [letters, List.mem_append, List.mem_cons,
    feed_not_mem_yearLetters, feed_not_mem_fixedDigits, false_or, or_false]
  decide

theorem feed_not_mem_compactLetters (date : Date) :
    '\n' ∉ date.compactLetters := by
  simp only [compactLetters, List.mem_append, feed_not_mem_yearLetters,
    feed_not_mem_fixedDigits, or_self, not_false_iff]

/-- Of two dates the later one has no earlier year. -/
theorem year_le_of_rank {first second : Date}
    (earlier : first.rank ≤ second.rank) : first.year ≤ second.year := by
  have firstMonth := first.month.isLt
  have firstDay := first.day.isLt
  have secondMonth := second.month.isLt
  have secondDay := second.day.isLt
  rw [rank, rank] at earlier
  omega

/-! ## Following days -/

theorem rank_next (date : Date) : date.rank < date.next.rank := by
  have month := date.month.isLt
  have day := date.day.isLt
  rw [next]
  split
  · next follows =>
      split
      · simp only [rank]
        omega
      · next tooLate =>
          have bound : daysInMonth date.year date.month.val ≤ 31 := by
            unfold daysInMonth
            split
            · split <;> decide
            all_goals decide
          omega
  · split
    · simp only [rank, firstOfMonth]
      omega
    · simp only [rank, firstOfMonth]
      omega

theorem rank_later (days : Nat) (date : Date) :
    date.rank + (days : Int) ≤ (later days date).rank := by
  induction days generalizing date with
  | zero =>
      rw [later]
      omega
  | succ days inductionHypothesis =>
      have next := rank_next date
      have further := inductionHypothesis date.next
      rw [later]
      omega

theorem later_later (days more : Nat) (date : Date) :
    later more (later days date) = later (days + more) date := by
  induction days generalizing date with
  | zero => rw [later, Nat.zero_add]
  | succ days inductionHypothesis =>
      rw [later, inductionHypothesis, Nat.succ_add, later]

end MeetingLog.Calendar.Date
