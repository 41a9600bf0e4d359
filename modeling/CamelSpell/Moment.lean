import CamelSpell.Number.Digits

/-!
# Points in time

A point in time is written as a date, or as a date with a time of day and a time zone.  Dates are
those of the Gregorian calendar, which is continued into the past.  Its days are counted from
1 March of the year 0, so that a year ends with its leap day; `daysBeforeYear_yearOfDay` says that
the year and the day of the year of a day lead back to that day.
-/

namespace CamelSpell

structure Moment where
  seconds : Int
deriving DecidableEq, Repr

namespace Moment

/-!
## The calendar

Years begin in March, and months are counted from there.  A year of two digits belongs to the
twentieth century; months and days out of range carry over.
-/

def daysBeforeYear (year : Nat) : Nat :=
  365 * year + year / 4 - year / 100 + year / 400

def daysBeforeMonth (month : Nat) : Nat :=
  (153 * month + 2) / 5

/-- The year that begins in March to which a day belongs, and the number of its days before that
day.  Only the last year of four, the last four years of a century and the last century of four
have a day more than the others. -/
def yearOfDay (day : Nat) : Nat × Nat :=
  let rest := day % 146097
  let centuries := min 3 (rest / 36524)
  let rest := rest - 36524 * centuries
  let years := min 3 (rest % 1461 / 365)
  (400 * (day / 146097) + 100 * centuries + 4 * (rest / 1461) + years, rest % 1461 - 365 * years)

theorem daysBeforeYear_eq {a b c d : Nat} (hb : b < 4) (hc : c < 25) (hd : d < 4) :
    daysBeforeYear (400 * a + 100 * b + 4 * c + d) =
      146097 * a + 36524 * b + 1461 * c + 365 * d := by
  have h4 : (400 * a + 100 * b + 4 * c + d) / 4 = 100 * a + 25 * b + c := by omega
  have h100 : (400 * a + 100 * b + 4 * c + d) / 100 = 4 * a + b := by omega
  have h400 : (400 * a + 100 * b + 4 * c + d) / 400 = a := by omega
  simp only [daysBeforeYear, h4, h100, h400]
  omega

theorem daysBeforeYear_yearOfDay (day : Nat) :
    daysBeforeYear (yearOfDay day).1 + (yearOfDay day).2 = day := by
  simp only [yearOfDay]
  generalize hr : day % 146097 = r
  generalize hb : min 3 (r / 36524) = b
  generalize hs : r - 36524 * b = s
  generalize ht : s % 1461 = t
  generalize hd : min 3 (t / 365) = d
  rw [daysBeforeYear_eq (by omega) (by omega) (by omega)]
  omega

def monthOfDay (day : Nat) : Nat :=
  (5 * day + 2) / 153

def dayOfDate (year month day : Nat) : Int :=
  let year := if year < 100 then 1900 + year else year
  let months := 12 * year + month - 3
  daysBeforeYear (months / 12) + daysBeforeMonth (months % 12) + day - 1

def ofParts (year month day hour minute second : Nat) (ahead : Int) : Moment :=
  ⟨86400 * dayOfDate year month day + 3600 * hour + 60 * minute + second - 60 * ahead⟩

/-!
## Reading

Each function takes something from the beginning of a text.  Without a time zone the time is that
of Greenwich.
-/

def after? (c : Char) (s : List Char) : Option (List Char) :=
  match s with
  | d :: rest => if c = d then some rest else none
  | [] => none

def zone? (s : List Char) : Option Int :=
  let isSpace (c : Char) : Bool := c = ' ' || c = '\t'
  if s.isEmpty then some 0
  else
    match s.dropWhile isSpace with
    | ['Z'] => some 0
    | sign :: rest => do
        let (hours, rest) <- Number.digitRun? 1 2 rest
        let minutes <-
          if rest.isEmpty then some 0
          else
            match <- Number.digitRun? 2 2 (<- after? ':' rest) with
            | (minutes, []) => some minutes
            | _ => none
        let ahead : Int := 60 * hours + minutes
        if sign = '+' then some ahead else if sign = '-' then some (-ahead) else none
    | [] => none

def afterDate? (s : List Char) : Option (List Char) :=
  match s with
  | c :: rest =>
      if c = 'T' || c = 't' then some rest
      else if c = ' ' || c = '\t' then some (rest.dropWhile fun d => d = ' ' || d = '\t')
      else none
  | [] => none

def skipFraction (s : List Char) : List Char :=
  match s with
  | '.' :: rest => rest.dropWhile Char.isDigit
  | _ => s

def date? (s : List Char) : Option Moment := do
  let (year, s) <- Number.digitRun? 4 4 s
  let (month, s) <- Number.digitRun? 2 2 (<- after? '-' s)
  let (day, s) <- Number.digitRun? 2 2 (<- after? '-' s)
  if s.isEmpty then some (ofParts year month day 0 0 0 0) else none

def timed? (s : List Char) : Option Moment := do
  let (year, s) <- Number.digitRun? 4 4 s
  let (month, s) <- Number.digitRun? 1 2 (<- after? '-' s)
  let (day, s) <- Number.digitRun? 1 2 (<- after? '-' s)
  let (hour, s) <- Number.digitRun? 1 2 (<- afterDate? s)
  let (minute, s) <- Number.digitRun? 2 2 (<- after? ':' s)
  let (second, s) <- Number.digitRun? 2 2 (<- after? ':' s)
  return ofParts year month day hour minute second (<- zone? (skipFraction s))

def ofText? (s : List Char) : Option Moment :=
  (date? s).or (timed? s)

/-!
## Writing
-/

def padded (width n : Nat) : String :=
  let digits := toString n
  String.ofList (List.replicate (width - digits.length) '0') ++ digits

def weekdays : List String := ["Wed", "Thu", "Fri", "Sat", "Sun", "Mon", "Tue"]

def months : List String :=
  ["Mar", "Apr", "May", "Jun", "Jul", "Aug", "Sep", "Oct", "Nov", "Dec", "Jan", "Feb"]

def text (m : Moment) : String :=
  let day := (m.seconds / 86400).toNat
  let second := (m.seconds % 86400).toNat
  let (year, rest) := yearOfDay day
  let month := monthOfDay rest
  let date := weekdays.getD (day % 7) "" ++ " " ++ months.getD month "" ++ " " ++
    padded 2 (rest - daysBeforeMonth month + 1) ++ " " ++
    padded 4 (if month < 10 then year else year + 1)
  let time := padded 2 (second / 3600) ++ ":" ++ padded 2 (second / 60 % 60) ++ ":" ++
    padded 2 (second % 60)
  date ++ " " ++ time ++ " GMT+0000 (Coordinated Universal Time)"

end Moment
end CamelSpell
