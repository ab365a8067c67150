import LayerAudit.Text.Basic

/-! Points in time: from the seconds since the start of 1970 to a date and a time of day. -/

namespace LayerAudit.Report

/-- A day of the calendar. -/
structure Day where
  year : Int
  month : Nat
  day : Nat
  deriving DecidableEq, Repr, Inhabited

/-- The day with a number, counted from the first of January 1970. Years are counted from March, so that a leap day is
the last day of its year, in spans of 400 years. -/
def Day.ofNumber (number : Int) : Day :=
  -- Days from the first of March of the year 0, cut into spans of 400 years.
  let shifted := number + 719468
  let span := shifted.fdiv 146097
  let inSpan := (shifted.fmod 146097).toNat
  -- Leap days come every 4 years, but not every 100, and yet every 400. They are taken out before days make up years.
  let year := (inSpan - inSpan / 1460 + inSpan / 36524 - inSpan / 146096) / 365
  let inYear := inSpan - (365 * year + year / 4 - year / 100)
  -- From March on, five months in a row have 153 days.
  let fromMarch := (5 * inYear + 2) / 153
  let day := inYear - (153 * fromMarch + 2) / 5 + 1
  let month := if fromMarch < 10 then fromMarch + 3 else fromMarch - 9
  -- January and February belong to the next year of the calendar.
  { year := (year : Int) + 400 * span + (if month ≤ 2 then 1 else 0), month, day }

/-- A number with zeros before it up to some width. -/
def padded (width n : Nat) : String :=
  let digits := toString n
  String.ofList (List.replicate (width - digits.length) '0') ++ digits

/-- A year with four digits or more. Years beyond four digits, and those before the year zero, have a sign. -/
def yearText (year : Int) : String :=
  if 0 ≤ year ∧ year ≤ 9999 then padded 4 year.toNat
  else (if year < 0 then "-" else "+") ++ padded 4 year.natAbs

/-- A point in time by the seconds since the start of 1970, in the usual form for universal time. -/
def momentText (seconds : Int) : String :=
  -- Both divisions go down, so that times before 1970 lie in the day that they belong to.
  let day := Day.ofNumber (seconds.fdiv 86400)
  let second := (seconds.fmod 86400).toNat
  let date := Text.joinWith "-" [yearText day.year, padded 2 day.month, padded 2 day.day]
  let time := Text.joinWith ":" [padded 2 (second / 3600), padded 2 (second / 60 % 60), padded 2 (second % 60)]
  date ++ "T" ++ time ++ "Z"

end LayerAudit.Report
