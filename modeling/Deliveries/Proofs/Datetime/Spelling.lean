import Mathlib.Data.List.TakeWhile
import Deliveries.Datetime.Reading
import Deliveries.Proofs.Text.Decimal

/-!
# Spellings of datetimes

The texts that denote a datetime have a grammar that does not tell how they are
read: six numbers, with the marks between them and blanks before any of them.
Reading takes as many digits as it may, and so a day of one digit needs a blank
behind it; every other number ends at a mark or with the text.  Reading accepts
exactly the texts whose numbers are those of a day of the calendar and of a time
of day, and no text has both layouts.
-/

namespace Deliveries
namespace Datetime

open Text

/-! ## The grammar -/

/-- Six numbers in the order in which a text spells them. -/
structure Parts where
  year : Int
  month : Int
  day : Int
  hour : Int
  minute : Int
  second : Int
deriving DecidableEq

/-- Numbers of a day of the calendar and of a time of day, in which a minute
may have a leap second. -/
structure Parts.InRange (parts : Parts) : Prop where
  year : -262143 ≤ parts.year ∧ parts.year ≤ 262142
  month : 1 ≤ parts.month ∧ parts.month ≤ 12
  day : 1 ≤ parts.day ∧
    parts.day ≤ Calendar.daysIn parts.year parts.month.toNat
  hour : 0 ≤ parts.hour ∧ parts.hour ≤ 23
  minute : 0 ≤ parts.minute ∧ parts.minute ≤ 59
  second : 0 ≤ parts.second ∧ parts.second ≤ 60

/-- The numbers of a datetime. -/
def parts (datetime : Datetime) : Parts :=
  ⟨datetime.year, datetime.month, datetime.day, datetime.hour,
    datetime.minute, datetime.second⟩

/-- A run of blanks, which may be empty. -/
def Blanks (text : List Char) : Prop :=
  ∀ character ∈ text, isBlank character = true

/-- A year is spelled with up to four digits, or with a sign and any number of
digits right behind it. -/
inductive SpellsYear : List Char -> Int -> Prop where
  | unsigned {digits : List Char} (run : Decimal.Digits digits)
      (short : digits.length ≤ 4) : SpellsYear digits (Decimal.value digits)
  | positive {digits : List Char} (run : Decimal.Digits digits) :
      SpellsYear ('+' :: digits) (Decimal.value digits)
  | negative {digits : List Char} (run : Decimal.Digits digits) :
      SpellsYear ('-' :: digits) (-Decimal.value digits)

/-- Any other number is spelled with one or two digits. -/
inductive SpellsNumber : List Char -> Int -> Prop where
  | digits {digits : List Char} (run : Decimal.Digits digits)
      (short : digits.length ≤ 2) : SpellsNumber digits (Decimal.value digits)

/-- The second is spelled behind a colon, or left out when it is 0. -/
inductive SpellsSecond : List Char -> Int -> Prop where
  | absent : SpellsSecond [] 0
  | present {gap digits : List Char} {second : Int} (blanks : Blanks gap)
      (spelled : SpellsNumber digits second) :
      SpellsSecond (':' :: (gap ++ digits)) second

/-- The numbers up to the minute are spelled with blanks before any of them,
dashes in the date and a colon in the time.  Behind a day of one digit the
blanks must not be missing. -/
inductive SpellsMinute : List Char -> Parts -> Prop where
  | pieces {parts : Parts}
      {beforeYear year beforeMonth month beforeDay day beforeHour hour
        beforeMinute minute : List Char}
      (yearBlanks : Blanks beforeYear)
      (yearSpelled : SpellsYear year parts.year)
      (monthBlanks : Blanks beforeMonth)
      (monthSpelled : SpellsNumber month parts.month)
      (dayBlanks : Blanks beforeDay)
      (daySpelled : SpellsNumber day parts.day)
      (hourBlanks : Blanks beforeHour)
      (hourSpelled : SpellsNumber hour parts.hour)
      (minuteBlanks : Blanks beforeMinute)
      (minuteSpelled : SpellsNumber minute parts.minute)
      (parted : day.length = 1 → beforeHour ≠ []) :
      SpellsMinute
        (beforeYear ++ year ++
          '-' :: beforeMonth ++ month ++
          '-' :: beforeDay ++ day ++
          beforeHour ++ hour ++
          ':' :: beforeMinute ++ minute)
        parts

/-- A text spells six numbers when it spells those up to the minute and then the
second, with nothing behind it. -/
def Spells (text : List Char) (parts : Parts) : Prop :=
  ∃ front back, text = front ++ back ∧ SpellsMinute front parts ∧
    SpellsSecond back parts.second

/-! ## Numbers of datetimes -/

theorem inRange_parts (datetime : Datetime) : datetime.parts.InRange := by
  have year := datetime.year_mem
  have month := datetime.month_mem
  have day := datetime.day_mem
  have hour := datetime.hour_lt
  have minute := datetime.minute_lt
  have second := datetime.second_le
  unfold firstYear lastYear at year
  constructor <;> simp only [parts, Int.toNat_natCast] <;> omega

theorem exists_parts_eq {numbers : Parts} (inRange : numbers.InRange) :
    ∃ datetime : Datetime, datetime.parts = numbers := by
  obtain ⟨year, month, day, hour, minute, second⟩ := numbers
  obtain ⟨yearIn, monthIn, dayIn, hourIn, minuteIn, secondIn⟩ := inRange
  dsimp only at *
  let datetime : Datetime :=
    { year := year, month := month.toNat, day := day.toNat
      hour := hour.toNat, minute := minute.toNat, second := second.toNat
      year_mem := yearIn
      month_mem := by omega
      day_mem := by omega
      hour_lt := by omega
      minute_lt := by omega
      second_le := by omega }
  refine ⟨datetime, ?_⟩
  simp only [datetime, parts, Parts.mk.injEq, true_and]
  omega

theorem ofParts?_eq_some_iff
    {year : Int} {month day hour minute second : Nat} {datetime : Datetime} :
    ofParts? year month day hour minute second = some datetime ↔
      datetime.parts = ⟨year, month, day, hour, minute, second⟩ := by
  constructor
  · intro made
    obtain ⟨rfl, rfl, rfl, rfl, rfl, rfl⟩ := parts_of_ofParts? made
    rfl
  · intro equal
    simp only [parts, Parts.mk.injEq, Int.natCast_inj] at equal
    obtain ⟨rfl, rfl, rfl, rfl, rfl, rfl⟩ := equal
    exact ofParts?_parts datetime

/-! ## Blanks -/

theorem blanks_takeWhile (text : List Char) :
    Blanks (text.takeWhile isBlank) := fun _ => List.mem_takeWhile_imp

/-- A text is the blanks at its start and what follows them. -/
theorem exists_blanks_append (text : List Char) :
    ∃ gap, Blanks gap ∧ text = gap ++ skipBlanks text :=
  ⟨_, blanks_takeWhile text, List.takeWhile_append_dropWhile.symm⟩

theorem Blanks.skipBlanks_append
    {gap : List Char} (blanks : Blanks gap) (text : List Char) :
    skipBlanks (gap ++ text) = skipBlanks text :=
  List.dropWhile_append_of_pos blanks

/-- Blanks end the digits before them. -/
theorem Blanks.endsDigits
    {gap : List Char} (blanks : Blanks gap) (nonempty : gap ≠ [])
    (rest : List Char) : Decimal.EndsDigits (gap ++ rest) := by
  obtain ⟨blank, others, rfl⟩ := List.exists_cons_of_ne_nil nonempty
  have white := blanks blank List.mem_cons_self
  apply Decimal.endsDigits_cons
  by_contra digit
  rw [Bool.not_eq_false] at digit
  rw [Decimal.isBlank_of_isDigit digit] at white
  cases white

/-! ## Components -/

theorem literal?_eq_some_iff
    {expected : Char} {text rest : List Char} :
    literal? expected text = some rest ↔ text = expected :: rest := by
  cases text with
  | nil => exact ⟨nofun, nofun⟩
  | cons character tail => simp [literal?]

/-- A component that is read is spelled with one or two digits behind blanks; if
with one, no other follows. -/
theorem spelled_of_component?
    {text rest : List Char} {number : Nat}
    (read : component? text = some (number, rest)) :
    ∃ gap digits, text = gap ++ digits ++ rest ∧ Blanks gap ∧
      SpellsNumber digits number ∧
      (digits.length = 1 → Decimal.EndsDigits rest) := by
  obtain ⟨gap, blanks, whole⟩ := exists_blanks_append text
  obtain ⟨digits, equal, run, short, stop, rfl⟩ :=
    Decimal.number?_eq_some_iff.mp read
  rw [equal, ← List.append_assoc] at whole
  refine ⟨gap, digits, whole, blanks, .digits run short, ?_⟩
  intro one
  apply stop
  omega

/-- A spelled component is read when no digit follows a single one. -/
theorem component?_of_spelled
    {gap digits rest : List Char} {number : Int}
    (blanks : Blanks gap) (spelled : SpellsNumber digits number)
    (stop : digits.length = 1 → Decimal.EndsDigits rest) :
    component? (gap ++ digits ++ rest) = some (number.toNat, rest) := by
  obtain ⟨run, short⟩ := spelled
  rw [component?, List.append_assoc, blanks.skipBlanks_append,
    run.skipBlanks_append]
  apply Decimal.number?_digits_append run short
  intro few
  have positive := List.length_pos_iff.mpr run.nonempty
  exact stop (by omega)

theorem spelled_of_componentAfter?
    {expected : Char} {text rest : List Char} {number : Nat}
    (read : componentAfter? expected text = some (number, rest)) :
    ∃ gap digits, text = expected :: gap ++ digits ++ rest ∧ Blanks gap ∧
      SpellsNumber digits number ∧
      (digits.length = 1 → Decimal.EndsDigits rest) := by
  obtain ⟨after, mark, component⟩ := Option.bind_eq_some_iff.mp read
  obtain ⟨gap, digits, rfl, others⟩ := spelled_of_component? component
  exact ⟨gap, digits, literal?_eq_some_iff.mp mark, others⟩

theorem componentAfter?_of_spelled
    {expected : Char} {gap digits rest : List Char} {number : Int}
    (blanks : Blanks gap) (spelled : SpellsNumber digits number)
    (stop : digits.length = 1 → Decimal.EndsDigits rest) :
    componentAfter? expected (expected :: gap ++ digits ++ rest) =
      some (number.toNat, rest) := by
  rw [componentAfter?, List.cons_append, List.cons_append,
    literal?_eq_some_iff.mpr rfl, Option.bind_some,
    component?_of_spelled blanks spelled stop]

/-! ## Years -/

/-- A year that is read is spelled behind blanks. -/
theorem spelled_of_year?
    {text rest : List Char} {year : Int}
    (read : year? text = some (year, rest)) :
    ∃ gap spelling, text = gap ++ spelling ++ rest ∧ Blanks gap ∧
      SpellsYear spelling year := by
  obtain ⟨gap, blanks, whole⟩ := exists_blanks_append text
  unfold year? at read
  split at read
  · next after negative =>
    obtain ⟨⟨number, back⟩, unsigned, signed⟩ := Option.map_eq_some_iff.mp read
    cases signed
    obtain ⟨digits, rfl, run, _, _, rfl⟩ :=
      Decimal.number?_eq_some_iff.mp unsigned
    refine ⟨gap, '-' :: digits, ?_, blanks, .negative run⟩
    rw [whole, negative]
    simp
  · next after positive =>
    obtain ⟨⟨number, back⟩, unsigned, signed⟩ := Option.map_eq_some_iff.mp read
    cases signed
    obtain ⟨digits, rfl, run, _, _, rfl⟩ :=
      Decimal.number?_eq_some_iff.mp unsigned
    refine ⟨gap, '+' :: digits, ?_, blanks, .positive run⟩
    rw [whole, positive]
    simp
  · obtain ⟨⟨number, back⟩, unsigned, same⟩ := Option.map_eq_some_iff.mp read
    cases same
    obtain ⟨digits, equal, run, short, _, rfl⟩ :=
      Decimal.number?_eq_some_iff.mp unsigned
    refine ⟨gap, digits, ?_, blanks, .unsigned run short⟩
    rw [whole, equal]
    simp

/-- After a sign a year takes all digits there are. -/
theorem number?_length_append
    {digits rest : List Char} (run : Decimal.Digits digits)
    (stop : Decimal.EndsDigits rest) :
    Decimal.number? (digits ++ rest).length (digits ++ rest) =
      some (Decimal.value digits, rest) := by
  apply Decimal.number?_digits_append run
  · simp
  · exact fun _ => stop

/-- A spelled year is read when no digit follows it. -/
theorem year?_of_spelled
    {gap spelling rest : List Char} {year : Int}
    (blanks : Blanks gap) (spelled : SpellsYear spelling year)
    (stop : Decimal.EndsDigits rest) :
    year? (gap ++ spelling ++ rest) = some (year, rest) := by
  rw [year?, List.append_assoc, blanks.skipBlanks_append]
  cases spelled with
  | unsigned run short =>
    have read := Decimal.number?_digits_append run short fun _ => stop
    rw [run.skipBlanks_append]
    split
    · next after negative =>
      exact absurd negative (run.append_ne_cons (by decide))
    · next after positive =>
      exact absurd positive (run.append_ne_cons (by decide))
    · rw [read, Option.map_some]
  | positive run =>
    rw [List.cons_append, skipBlanks_cons_of_not_blank (by decide)]
    simp only [number?_length_append run stop, Option.map_some]
  | negative run =>
    rw [List.cons_append, skipBlanks_cons_of_not_blank (by decide)]
    simp only [number?_length_append run stop, Option.map_some]

/-! ## Both layouts -/

/-- Reads what both layouts begin with, the numbers up to the minute. -/
def minute? (text : List Char) :
    Option ((Int × Nat × Nat × Nat × Nat) × List Char) := do
  let (year, rest) ← year? text
  let (month, rest) ← componentAfter? '-' rest
  let (day, rest) ← componentAfter? '-' rest
  let (hour, rest) ← component? rest
  let (minute, rest) ← componentAfter? ':' rest
  return ((year, month, day, hour, minute), rest)

theorem Layout.parse?_eq (layout : Layout) (text : List Char) :
    layout.parse? text =
      (minute? text).bind fun ((year, month, day, hour, minute), rest) =>
        (layout.second? rest).bind fun (second, rest) =>
          if rest.isEmpty then
            ofParts? year month day hour minute second
          else
            none := by
  simp only [parse?, minute?, Option.bind_eq_bind, Option.bind_assoc]
  rfl

/-- No text has both layouts: one of them ends where the other goes on. -/
theorem parse?_seconds_or_minutes (text : List Char) :
    Layout.seconds.parse? text = none ∨ Layout.minutes.parse? text = none := by
  rw [Layout.parse?_eq, Layout.parse?_eq]
  cases minute? text with
  | none => exact .inl rfl
  | some read =>
    obtain ⟨numbers, rest⟩ := read
    cases rest with
    | nil => exact .inl rfl
    | cons character tail => exact .inr rfl

/-- What is read up to the minute spells the numbers that are read. -/
theorem spelled_of_minute?
    {text rest : List Char} {year : Int} {month day hour minute : Nat}
    (read : minute? text = some ((year, month, day, hour, minute), rest))
    (second : Int) :
    ∃ front, text = front ++ rest ∧
      SpellsMinute front ⟨year, month, day, hour, minute, second⟩ := by
  simp only [minute?, Option.bind_eq_bind, Option.bind_eq_some_iff,
    Prod.exists] at read
  obtain ⟨_, afterYear, readYear, _, afterMonth, readMonth, _, afterDay,
    readDay, _, afterHour, readHour, _, afterMinute, readMinute, same⟩ := read
  cases same
  obtain ⟨beforeYear, yearText, rfl, yearBlanks, yearSpelled⟩ :=
    spelled_of_year? readYear
  obtain ⟨beforeMonth, monthText, rfl, monthBlanks, monthSpelled, _⟩ :=
    spelled_of_componentAfter? readMonth
  obtain ⟨beforeDay, dayText, rfl, dayBlanks, daySpelled, dayEnds⟩ :=
    spelled_of_componentAfter? readDay
  obtain ⟨beforeHour, hourText, rfl, hourBlanks, hourSpelled, _⟩ :=
    spelled_of_component? readHour
  obtain ⟨beforeMinute, minuteText, rfl, minuteBlanks, minuteSpelled, _⟩ :=
    spelled_of_componentAfter? readMinute
  refine ⟨_, ?_, .pieces yearBlanks yearSpelled monthBlanks monthSpelled
    dayBlanks daySpelled hourBlanks hourSpelled minuteBlanks minuteSpelled ?_⟩
  · simp only [List.append_assoc, List.cons_append]
  · -- Digits of the hour would have been digits of the day.
    rintro one rfl
    obtain ⟨run, _⟩ := hourSpelled
    have ends := dayEnds one
    rw [List.nil_append] at ends
    exact run.not_endsDigits _ ends

/-- A text that spells the numbers up to the minute is read when no digit
follows it. -/
theorem minute?_of_spelled
    {front rest : List Char} {parts : Parts}
    (spelled : SpellsMinute front parts) (stop : Decimal.EndsDigits rest) :
    minute? (front ++ rest) =
      some ((parts.year, parts.month.toNat, parts.day.toNat,
        parts.hour.toNat, parts.minute.toNat), rest) := by
  cases spelled with
  | @pieces _ beforeYear year beforeMonth month beforeDay day beforeHour hour
      beforeMinute minute yearBlanks yearSpelled monthBlanks monthSpelled
      dayBlanks daySpelled hourBlanks hourSpelled minuteBlanks minuteSpelled
      parted =>
    have whole : beforeYear ++ year ++ '-' :: beforeMonth ++ month ++
          '-' :: beforeDay ++ day ++ beforeHour ++ hour ++
          ':' :: beforeMinute ++ minute ++ rest =
        beforeYear ++ year ++ ('-' :: beforeMonth ++ month ++
          ('-' :: beforeDay ++ day ++ (beforeHour ++ hour ++
            (':' :: beforeMinute ++ minute ++ rest)))) := by
      simp only [List.append_assoc, List.cons_append]
    simp only [whole, minute?, Option.bind_eq_bind, Option.bind_eq_some_iff,
      Prod.exists]
    refine ⟨_, _, year?_of_spelled yearBlanks yearSpelled ?_,
      _, _, componentAfter?_of_spelled monthBlanks monthSpelled ?_,
      _, _, componentAfter?_of_spelled dayBlanks daySpelled ?_,
      _, _, component?_of_spelled hourBlanks hourSpelled ?_,
      _, _, componentAfter?_of_spelled minuteBlanks minuteSpelled ?_, rfl⟩
    · exact Decimal.endsDigits_cons (by decide) _
    · exact fun _ => Decimal.endsDigits_cons (by decide) _
    · intro one
      rw [List.append_assoc]
      exact hourBlanks.endsDigits (parted one) _
    · exact fun _ => Decimal.endsDigits_cons (by decide) _
    · exact fun _ => stop

/-! ## Whole texts -/

/-- A second that ends a text is read by one of the layouts. -/
theorem exists_second?_of_spelled
    {back : List Char} {second : Int} (spelled : SpellsSecond back second) :
    Decimal.EndsDigits back ∧
      ∃ layout : Layout, layout.second? back = some (second.toNat, []) := by
  cases spelled with
  | absent => exact ⟨Decimal.endsDigits_nil, .minutes, rfl⟩
  | @present gap digits _ blanks spelled =>
    have read : componentAfter? ':' (':' :: gap ++ digits ++ []) =
        some (second.toNat, []) :=
      componentAfter?_of_spelled blanks spelled fun _ => Decimal.endsDigits_nil
    rw [List.append_nil, List.cons_append] at read
    exact ⟨Decimal.endsDigits_cons (by decide) _, .seconds, read⟩

theorem spelled_of_second?
    {layout : Layout} {back : List Char} {second : Nat}
    (read : layout.second? back = some (second, [])) :
    SpellsSecond back second := by
  cases layout with
  | minutes =>
    cases read
    exact .absent
  | seconds =>
    obtain ⟨gap, digits, rfl, blanks, spelled, _⟩ :=
      spelled_of_componentAfter? read
    rw [List.append_nil, List.cons_append]
    exact .present blanks spelled

/-- What a layout accepts spells the numbers of the datetime. -/
theorem Layout.spells_of_parse?
    {layout : Layout} {text : List Char} {datetime : Datetime}
    (read : layout.parse? text = some datetime) :
    Spells text datetime.parts := by
  rw [parse?_eq, Option.bind_eq_some_iff] at read
  obtain ⟨⟨⟨year, month, day, hour, minute⟩, rest⟩, readFront, read⟩ := read
  obtain ⟨⟨second, after⟩, readBack, made⟩ := Option.bind_eq_some_iff.mp read
  dsimp only at made
  split at made
  · next ended =>
    rw [List.isEmpty_iff] at ended
    subst ended
    rw [ofParts?_eq_some_iff.mp made]
    obtain ⟨front, rfl, spelled⟩ := spelled_of_minute? readFront second
    exact ⟨front, rest, rfl, spelled, spelled_of_second? readBack⟩
  · cases made

/-- A text that spells the numbers of a datetime is accepted by one of the
layouts. -/
theorem exists_layout_of_spells
    {text : List Char} {datetime : Datetime}
    (spells : Spells text datetime.parts) :
    ∃ layout : Layout, layout.parse? text = some datetime := by
  obtain ⟨front, back, rfl, frontSpelled, backSpelled⟩ := spells
  obtain ⟨ends, layout, readBack⟩ := exists_second?_of_spelled backSpelled
  refine ⟨layout, ?_⟩
  have readFront := minute?_of_spelled frontSpelled ends
  rw [Layout.parse?_eq, readFront, Option.bind_some]
  simp only [readBack, Option.bind_some, List.isEmpty_nil, if_true]
  exact ofParts?_parts datetime

/-- A text is read as either layout reads it, whichever comes first. -/
theorem parse?_eq_some_iff_layout
    {text : String} {datetime : Datetime} :
    parse? text = some datetime ↔
      ∃ layout : Layout, layout.parse? text.toList = some datetime := by
  have disjoint := parse?_seconds_or_minutes text.toList
  unfold parse?
  constructor
  · intro read
    cases short : Layout.seconds.parse? text.toList with
    | some other =>
      rw [short] at read
      exact ⟨.seconds, short.trans read⟩
    | none =>
      rw [short] at read
      exact ⟨.minutes, read⟩
  · rintro ⟨layout, read⟩
    cases layout with
    | seconds => rw [read]; rfl
    | minutes =>
      rw [read] at disjoint
      rw [disjoint.resolve_right nofun, read]
      rfl

theorem parse?_eq_some_iff
    {text : String} {datetime : Datetime} :
    parse? text = some datetime ↔ Spells text.toList datetime.parts := by
  rw [parse?_eq_some_iff_layout]
  constructor
  · rintro ⟨layout, read⟩
    exact layout.spells_of_parse? read
  · exact exists_layout_of_spells

/-- Reading accepts exactly the texts that spell numbers in their ranges, as the
datetime of those numbers.  No text has both layouts, so that their order does
not matter. -/
theorem reads_iff_spells (text : String) :
    (∀ numbers : Parts,
      (parse? text).map parts = some numbers ↔
        Spells text.toList numbers ∧ numbers.InRange) ∧
    (Layout.seconds.parse? text.toList = none ∨
      Layout.minutes.parse? text.toList = none) ∧
    (Layout.minutes.parse? text.toList <|>
      Layout.seconds.parse? text.toList) = parse? text := by
  have disjoint := parse?_seconds_or_minutes text.toList
  refine ⟨?_, disjoint, ?_⟩
  · intro numbers
    rw [Option.map_eq_some_iff]
    constructor
    · rintro ⟨datetime, read, rfl⟩
      exact ⟨parse?_eq_some_iff.mp read, inRange_parts datetime⟩
    · rintro ⟨spells, inRange⟩
      obtain ⟨datetime, rfl⟩ := exists_parts_eq inRange
      exact ⟨datetime, parse?_eq_some_iff.mpr spells, rfl⟩
  · unfold parse?
    rcases disjoint with unread | unread
    · rw [unread]
      simp
    · rw [unread]
      simp

/-- Without a blank the day takes both digits, even where one of them would
have left an hour. -/
example :
    (parse? "2024-2-2908:30").map parts = some ⟨2024, 2, 29, 8, 30, 0⟩ ∧
      parse? "2024-2-1:30" = none ∧ parse? "2024-2-18:30" = none := by
  decide +kernel

end Datetime
end Deliveries
