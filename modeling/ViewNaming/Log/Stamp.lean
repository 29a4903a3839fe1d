import ViewNaming.Text.Basic

/-! Time stamps of log lines: the date and the time of day of a moment that is
given in seconds since the start of 1970. -/
namespace ViewNaming.Log

structure Date where
  year : Nat
  month : Nat
  day : Nat
deriving DecidableEq

/-- The date of the given day since the start of 1970. Years are counted from
March, so that a leap day is the last day of its year, in cycles of 400. -/
def Date.ofDays (days : Nat) : Date :=
  let shifted := days + 719468
  let cycle := shifted / 146097
  let dayOfCycle := shifted % 146097
  let yearOfCycle :=
    (dayOfCycle - dayOfCycle / 1460 + dayOfCycle / 36524 - dayOfCycle / 146096) / 365
  let dayOfYear := dayOfCycle - (365 * yearOfCycle + yearOfCycle / 4 - yearOfCycle / 100)
  let monthFromMarch := (5 * dayOfYear + 2) / 153
  let month := if monthFromMarch < 10 then monthFromMarch + 3 else monthFromMarch - 9
  { year := yearOfCycle + cycle * 400 + (if month ≤ 2 then 1 else 0)
    month := month
    day := dayOfYear - (153 * monthFromMarch + 2) / 5 + 1 }

example : Date.ofDays 0 = ⟨1970, 1, 1⟩ := by decide

example : Date.ofDays 19782 = ⟨2024, 2, 29⟩ := by decide

def padded (width n : Nat) : Text :=
  let digits := Text.ofNat n
  List.replicate (width - digits.length) (CodePoint.ofChar '0') ++ digits

def stamp (seconds milliseconds : Nat) : Text :=
  let date := Date.ofDays (seconds / 86400)
  let rest := seconds % 86400
  let dash := Text.ofString "-"
  let colon := Text.ofString ":"
  padded 4 date.year ++ dash ++ padded 2 date.month ++ dash ++ padded 2 date.day
    ++ Text.ofString " " ++ padded 2 (rest / 3600) ++ colon ++ padded 2 (rest / 60 % 60) ++ colon
    ++ padded 2 (rest % 60) ++ Text.ofString "," ++ padded 3 milliseconds

end ViewNaming.Log
