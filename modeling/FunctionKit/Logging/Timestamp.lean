import FunctionKit.Text.Decimal

/-!
# Timestamps

A moment in universal time and its text with milliseconds. The date is counted in the proleptic
Gregorian calendar; a fraction of a second and more stands for a leap second.
-/

namespace FunctionKit.Logging

set_option autoImplicit false

open FunctionKit.Text

structure Timestamp where
  /-- Seconds since the start of the year 1970. -/
  seconds : Int
  /-- Less than two seconds. -/
  nanoseconds : Nat
deriving DecidableEq, Repr

structure Date where
  year : Int
  month : Nat
  day : Nat
deriving DecidableEq, Repr

/-- The date that lies a number of days after the first of January 1970. Years are counted from
March, so that the leap day is the last of its year; 400 of them have 146097 days. -/
def Date.ofDays (days : Int) : Date :=
  let shifted := days + 719468
  let era := shifted.fdiv 146097
  let dayOfEra := (shifted.fmod 146097).toNat
  let yearOfEra := (dayOfEra - dayOfEra / 1460 + dayOfEra / 36524 - dayOfEra / 146096) / 365
  let dayOfYear := dayOfEra - (365 * yearOfEra + yearOfEra / 4 - yearOfEra / 100)
  let monthFromMarch := (5 * dayOfYear + 2) / 153
  let month := if monthFromMarch < 10 then monthFromMarch + 3 else monthFromMarch - 9
  { year := Int.ofNat yearOfEra + era * 400 + (if month ≤ 2 then 1 else 0)
    month
    day := dayOfYear - (153 * monthFromMarch + 2) / 5 + 1 }

/-- Four digits; outside of the years 0 to 9999 with a sign in front. -/
def yearText (year : Int) : List Char :=
  if 0 ≤ year ∧ year ≤ 9999 then digitsPadded 4 year.toNat
  else (if year < 0 then '-' else '+') :: digitsPadded 4 year.natAbs

namespace Timestamp

def text (stamp : Timestamp) : String :=
  let date := Date.ofDays (stamp.seconds.fdiv 86400)
  let secondOfDay := (stamp.seconds.fmod 86400).toNat
  let second := secondOfDay % 60 + stamp.nanoseconds / 1000000000
  let millisecond := stamp.nanoseconds % 1000000000 / 1000000
  String.ofList <|
    yearText date.year ++ '-' :: digitsPadded 2 date.month ++ '-' :: digitsPadded 2 date.day ++
      'T' :: digitsPadded 2 (secondOfDay / 3600) ++ ':' :: digitsPadded 2 (secondOfDay / 60 % 60) ++
      ':' :: digitsPadded 2 second ++ '.' :: digitsPadded 3 millisecond ++ ['Z']

end Timestamp

end FunctionKit.Logging
