/-!
# Calendar days

Days of the Gregorian calendar, counted from the first of March of the year 0. Years that start in
March put the leap day at the end, so that a date is an era of 146097 days, a year of the era and a
day of the year. `dayNumber` and `ofDayNumber` go between the count and the date.
-/

namespace SiteRouter.Time

/-- Has the year a 29th of February? -/
def isLeapYear (year : Int) : Bool :=
  year % 4 = 0 && (year % 100 != 0 || year % 400 = 0)

/-- How many days the month has. -/
def daysInMonth (year : Int) (month : Nat) : Nat :=
  if month = 2 then (if isLeapYear year then 29 else 28)
  else if [4, 6, 9, 11].contains month then 30
  else 31

/-- How many days the date is after the first of March of the year 0. -/
def dayNumber (year : Int) (month day : Nat) : Int :=
  let y := if month ≤ 2 then year - 1 else year
  let m : Int := if month ≤ 2 then month + 9 else (month : Int) - 3
  y * 365 + y / 4 - y / 100 + y / 400 + (153 * m + 2) / 5 + day - 1

/-- Year, month and day of the date that many days after the first of March of the year 0. -/
def ofDayNumber (n : Int) : Int × Nat × Nat :=
  let era := n / 146097
  let dayOfEra := (n % 146097).toNat
  -- Taking the leap days out makes every year 365 days long.
  let yearOfEra :=
    (dayOfEra - dayOfEra / 1460 + dayOfEra / 36524 - dayOfEra / 146096) / 365
  let dayOfYear := dayOfEra - (365 * yearOfEra + yearOfEra / 4 - yearOfEra / 100)
  -- From March on, any five months have 153 days.
  let monthFromMarch := (5 * dayOfYear + 2) / 153
  let day := dayOfYear - (153 * monthFromMarch + 2) / 5 + 1
  let month := if monthFromMarch < 10 then monthFromMarch + 3 else monthFromMarch - 9
  (era * 400 + yearOfEra + (if month ≤ 2 then 1 else 0), month, day)

end SiteRouter.Time
