import OpenSearchOperator.Data.Text

/-! Timestamps in the layout of RFC 3339, at whole seconds and in UTC. -/

namespace OpenSearchOperator.Data

/-- A day within a year that begins in March, so that a leap day is the last day
of its year, of its four years, of its century or of its era of 400 years. -/
structure YearDay where
  year : Int
  dayOfYear : Int
  deriving DecidableEq, Repr

structure CivilDate where
  year : Int
  month : Int
  day : Int
  deriving DecidableEq, Repr

def YearDay.ofDays (days : Int) : YearDay :=
  let dayOfEra := days % 146097
  let century := min (dayOfEra / 36524) 3
  let dayOfCentury := dayOfEra - 36524 * century
  let cycle := dayOfCentury / 1461
  let dayOfCycle := dayOfCentury - 1461 * cycle
  let yearOfCycle := min (dayOfCycle / 365) 3
  { year := 400 * (days / 146097) + (100 * century + 4 * cycle + yearOfCycle)
    dayOfYear := dayOfCycle - 365 * yearOfCycle }

def YearDay.toDays (day : YearDay) : Int :=
  let yearOfEra := day.year % 400
  146097 * (day.year / 400) + 36524 * (yearOfEra / 100) + 1461 * (yearOfEra % 100 / 4) +
    365 * (yearOfEra % 4) + day.dayOfYear

theorem YearDay.ofDays_bounds (days : Int) :
    0 ≤ (ofDays days).dayOfYear ∧ (ofDays days).dayOfYear ≤ 365 := by
  simp only [ofDays]
  omega

theorem YearDay.year_digits (era century cycle rest : Int) (centuries : 0 ≤ century ∧ century ≤ 3)
    (cycles : 0 ≤ cycle ∧ cycle ≤ 24) (rests : 0 ≤ rest ∧ rest ≤ 3) :
    let year := 400 * era + (100 * century + 4 * cycle + rest)
    year / 400 = era ∧ year % 400 / 100 = century ∧ year % 400 % 100 / 4 = cycle ∧
      year % 400 % 4 = rest := by
  intro year
  have high : year % 400 = 100 * century + 4 * cycle + rest := by omega
  rw [high]
  omega

theorem YearDay.toDays_ofDays (days : Int) : (ofDays days).toDays = days := by
  simp only [ofDays, toDays]
  have whole : 146097 * (days / 146097) + days % 146097 = days := by omega
  generalize days % 146097 = dayOfEra at *
  have centuries : 0 ≤ min (dayOfEra / 36524) 3 ∧ min (dayOfEra / 36524) 3 ≤ 3 := by omega
  have left : 0 ≤ dayOfEra - 36524 * min (dayOfEra / 36524) 3 ∧
      dayOfEra - 36524 * min (dayOfEra / 36524) 3 ≤ 36524 := by omega
  generalize min (dayOfEra / 36524) 3 = century at *
  have cycles : 0 ≤ (dayOfEra - 36524 * century) / 1461 ∧
      (dayOfEra - 36524 * century) / 1461 ≤ 24 := by omega
  have within : 0 ≤ dayOfEra - 36524 * century - 1461 * ((dayOfEra - 36524 * century) / 1461) := by
    omega
  generalize (dayOfEra - 36524 * century) / 1461 = cycle at *
  have rests : 0 ≤ min ((dayOfEra - 36524 * century - 1461 * cycle) / 365) 3 ∧
      min ((dayOfEra - 36524 * century - 1461 * cycle) / 365) 3 ≤ 3 := by omega
  generalize min ((dayOfEra - 36524 * century - 1461 * cycle) / 365) 3 = rest at *
  obtain ⟨eras, first, second, third⟩ := year_digits (days / 146097) century cycle rest centuries
    cycles rests
  rw [eras, first, second, third]
  omega

/-- January and February are the last two months of the year that began the March before. -/
def CivilDate.ofYearDay (day : YearDay) : CivilDate :=
  let monthOfYear := (5 * day.dayOfYear + 2) / 153
  { year := day.year + (if 10 ≤ monthOfYear then 1 else 0)
    month := if 10 ≤ monthOfYear then monthOfYear - 9 else monthOfYear + 3
    day := day.dayOfYear - (153 * monthOfYear + 2) / 5 + 1 }

def CivilDate.toYearDay (date : CivilDate) : YearDay :=
  let monthOfYear := if date.month ≤ 2 then date.month + 9 else date.month - 3
  { year := date.year - (if date.month ≤ 2 then 1 else 0)
    dayOfYear := (153 * monthOfYear + 2) / 5 + date.day - 1 }

theorem CivilDate.ofYearDay_bounds (day : YearDay) (lower : 0 ≤ day.dayOfYear)
    (upper : day.dayOfYear ≤ 365) : 1 ≤ (ofYearDay day).month ∧ (ofYearDay day).month ≤ 12 ∧
      1 ≤ (ofYearDay day).day ∧ (ofYearDay day).day ≤ 31 := by
  simp only [ofYearDay]
  omega

theorem CivilDate.toYearDay_ofYearDay (day : YearDay) (lower : 0 ≤ day.dayOfYear)
    (upper : day.dayOfYear ≤ 365) : (ofYearDay day).toYearDay = day := by
  obtain ⟨year, dayOfYear⟩ := day
  change 0 ≤ dayOfYear at lower
  change dayOfYear ≤ 365 at upper
  simp only [ofYearDay, toYearDay]
  by_cases late : 10 ≤ (5 * dayOfYear + 2) / 153
  · have early : (5 * dayOfYear + 2) / 153 - 9 ≤ 2 := by omega
    simp only [late, early, if_true]
    congr 1 <;> omega
  · have early : ¬ (5 * dayOfYear + 2) / 153 + 3 ≤ 2 := by omega
    simp only [late, early, if_false]
    congr 1 <;> omega

def civilOfDays (days : Int) : CivilDate := .ofYearDay (.ofDays (days + 719468))

def daysOfCivil (date : CivilDate) : Int := date.toYearDay.toDays - 719468

theorem daysOfCivil_civilOfDays (days : Int) : daysOfCivil (civilOfDays days) = days := by
  have bounds := YearDay.ofDays_bounds (days + 719468)
  rw [daysOfCivil, civilOfDays, CivilDate.toYearDay_ofYearDay _ bounds.1 bounds.2,
    YearDay.toDays_ofDays]
  omega

section Digits

def digitChar (n : Nat) : Char := Char.ofNat (48 + n % 10)

def digitValue (c : Char) : Option Nat :=
  if c.isDigit then some (c.toNat - 48) else none

def pad (n : Nat) : Nat → List Char
  | 0 => []
  | width + 1 => pad (n / 10) width ++ [digitChar n]

def number (characters : List Char) : Option Nat :=
  characters.foldl (fun value c => do return 10 * (← value) + (← digitValue c)) (some 0)

theorem digitValue_digitChar (n : Nat) : digitValue (digitChar n) = some (n % 10) := by
  have digits : ∀ k < 10, digitValue (Char.ofNat (48 + k)) = some k := by decide
  exact digits (n % 10) (by omega)

theorem length_pad {n width : Nat} : (pad n width).length = width := by
  induction width generalizing n with
  | zero => rfl
  | succ width ih => simp [pad, ih]

theorem number_pad (n width : Nat) : number (pad n width) = some (n % 10 ^ width) := by
  induction width generalizing n with
  | zero => simp [pad, number, Nat.mod_one]
  | succ width ih =>
    have rest : number (pad (n / 10) width) = some (n / 10 % 10 ^ width) := ih (n / 10)
    have digits : n % 10 ^ (width + 1) = n % 10 + 10 * (n / 10 % 10 ^ width) := by
      rw [Nat.pow_succ, Nat.mul_comm, Nat.mod_mul]
    rw [number] at rest
    rw [pad, number, List.foldl_append, rest]
    simp [digitValue_digitChar, digits, Nat.add_comm]

end Digits

section Timestamp

def yearText (year : Int) : List Char :=
  if 0 ≤ year ∧ year < 10000 then pad year.toNat 4
  else (if year < 0 then ['-'] else []) ++ (year.natAbs / 10000).repr.toList ++ pad year.natAbs 4

def formatRFC3339 (seconds : Int) : String :=
  let date := civilOfDays (seconds / 86400)
  let second := (seconds % 86400).toNat
  String.ofList (yearText date.year ++ '-' :: pad date.month.toNat 2 ++
    '-' :: pad date.day.toNat 2 ++
    'T' :: pad (second / 3600) 2 ++ ':' :: pad (second / 60 % 60) 2 ++ ':' :: pad (second % 60) 2 ++
    ['Z'])

def readFields : List Char → Option Int
  | [y₃, y₂, y₁, y₀, _, o₁, o₀, _, d₁, d₀, _, h₁, h₀, _, m₁, m₀, _, s₁, s₀, _] => do
      let year ← number [y₃, y₂, y₁, y₀]
      let month ← number [o₁, o₀]
      let day ← number [d₁, d₀]
      let hour ← number [h₁, h₀]
      let minute ← number [m₁, m₀]
      let second ← number [s₁, s₀]
      return daysOfCivil ⟨year, month, day⟩ * 86400 + hour * 3600 + minute * 60 + second
  | _ => none

/-- Accepts the texts that `formatRFC3339` writes, as far as their year has four digits. -/
def parseRFC3339 (text : String) : Option Int := do
  let seconds ← readFields text.toList
  if formatRFC3339 seconds = text then return seconds else none

theorem length_yearText {year : Int} : (yearText year).length = 4 ↔ 0 ≤ year ∧ year < 10000 := by
  rw [yearText]
  by_cases four : 0 ≤ year ∧ year < 10000
  · simp [four, length_pad]
  have more : (year.natAbs / 10000).repr.toList ≠ [] := by
    rw [Nat.toList_repr]
    exact Nat.toDigits_ne_nil
  have longer := List.length_pos_iff.mpr more
  simp only [four, if_false, List.length_append, length_pad, iff_false]
  omega

theorem readFields_length {characters : List Char} {value : Int}
    (read : readFields characters = some value) : characters.length = 20 := by
  rw [readFields.eq_def] at read
  split at read
  · rfl
  · cases read

theorem readFields_format {seconds : Int} (four : 0 ≤ (civilOfDays (seconds / 86400)).year ∧
    (civilOfDays (seconds / 86400)).year < 10000) :
    readFields (formatRFC3339 seconds).toList = some seconds := by
  have bounds := CivilDate.ofYearDay_bounds (YearDay.ofDays (seconds / 86400 + 719468))
    (YearDay.ofDays_bounds _).1 (YearDay.ofDays_bounds _).2
  have back := daysOfCivil_civilOfDays (seconds / 86400)
  rw [formatRFC3339, String.toList_ofList, yearText, if_pos four]
  change 1 ≤ (civilOfDays (seconds / 86400)).month ∧ (civilOfDays (seconds / 86400)).month ≤ 12 ∧
    1 ≤ (civilOfDays (seconds / 86400)).day ∧ (civilOfDays (seconds / 86400)).day ≤ 31 at bounds
  generalize civilOfDays (seconds / 86400) = date at *
  change (do
      let year ← number (pad date.year.toNat 4)
      let month ← number (pad date.month.toNat 2)
      let day ← number (pad date.day.toNat 2)
      let hour ← number (pad ((seconds % 86400).toNat / 3600) 2)
      let minute ← number (pad ((seconds % 86400).toNat / 60 % 60) 2)
      let second ← number (pad ((seconds % 86400).toNat % 60) 2)
      return daysOfCivil ⟨year, month, day⟩ * 86400 + hour * 3600 + minute * 60 + second :
        Option Int) = _
  simp only [number_pad]
  have year : ((date.year.toNat % 10 ^ 4 : Nat) : Int) = date.year := by omega
  have month : ((date.month.toNat % 10 ^ 2 : Nat) : Int) = date.month := by omega
  have day : ((date.day.toNat % 10 ^ 2 : Nat) : Int) = date.day := by omega
  simp only [Option.bind_eq_bind, Option.bind_some, year, month, day, back]
  congr 1
  omega

theorem parseRFC3339_format {seconds value : Int}
    (read : parseRFC3339 (formatRFC3339 seconds) = some value) : value = seconds := by
  have fields : readFields (formatRFC3339 seconds).toList = some value := by
    rw [parseRFC3339, Option.bind_eq_bind, Option.bind_eq_some_iff] at read
    obtain ⟨other, fields, same⟩ := read
    split at same
    · cases same
      exact fields
    · cases same
  have length := readFields_length fields
  have four : 0 ≤ (civilOfDays (seconds / 86400)).year ∧
      (civilOfDays (seconds / 86400)).year < 10000 := by
    rw [← length_yearText]
    rw [formatRFC3339, String.toList_ofList] at length
    simp only [List.length_append, List.length_cons, List.length_nil, length_pad] at length
    omega
  rw [readFields_format four] at fields
  exact (Option.some.inj fields).symm

example : parseRFC3339 (formatRFC3339 1709208000) = some 1709208000 ∧
    formatRFC3339 1709208000 = "2024-02-29T12:00:00Z" := by decide

end Timestamp

end OpenSearchOperator.Data
