import PostgresqlK8s.Backups.Repository
import PostgresqlK8s.Lib.Pattern

/-!
# Restore.Timestamp

The point in time that a restore is asked for.  It is checked against a
regular expression, three substitutions bring its offset and its fraction into
the one form that `fromisoformat` takes, and what that reads is moved to UTC.

Points in time are the microseconds up to them, as the seconds of
`DateTime.toSeconds`.  Moving one out of the years 1 to 9999 raises
`OverflowError`, which is not a `ValueError`.
-/

namespace PostgresqlK8s.Restore

open Backups Pattern

/-! ## the regular expression -/

def isSign (c : Char) : Bool := c == '-' || c == '+'

/-- `\d{n}` -/
def digits (n : Nat) : Pattern := times isDecimal n

/-- `(\.\d{1,6})?` -/
def fractionPattern : Pattern :=
  opt (seqs [lit '.', char isDecimal, atMost isDecimal 5])

/-- `([-+](?:\d{2}|\d{4}|\d{2}:\d{2}))?` -/
def offsetPattern : Pattern :=
  opt (seq (char isSign) (alt (digits 2) (alt (digits 4) (seqs [digits 2, lit ':', digits 2]))))

/-- The regular expression of `_is_psql_timestamp`. -/
def psqlTimestampPattern : Pattern :=
  seqs [digits 4, lit '-', digits 2, lit '-', digits 2, lit ' ',
    digits 2, lit ':', digits 2, lit ':', digits 2, fractionPattern, offsetPattern, endOfText]

/-! ## the substitutions -/

/-- `([-+]\d{2})$` -/
def offsetHoursPattern : Pattern := seqs [char isSign, digits 2, endOfText]

/-- `([-+]\d{2})(\d{2})$` -/
def offsetMinutesPattern : Pattern := seqs [char isSign, digits 2, digits 2, endOfText]

/-- `\.(\d+)` -/
def dotDigitsPattern : Pattern := seqs [lit '.', run isDecimal]

/-- `\1:00` -/
def appendMinutes (matched : List Char) : List Char := matched ++ [':', '0', '0']

/-- `\1:\2` -/
def insertColon (matched : List Char) : List Char := matched.take 3 ++ ':' :: matched.drop 3

/-- `f"{x:06}"` of a text: zeros are put behind it. -/
def fillZeros (l : List Char) : List Char := l ++ List.replicate (6 - l.length) '0'

def fillFraction (matched : List Char) : List Char := '.' :: fillZeros (matched.drop 1)

/-- The three `re.sub` of `_parse_psql_timestamp`. -/
def normalise (text : List Char) : List Char :=
  let t := offsetHoursPattern.sub appendMinutes text
  let t := offsetMinutesPattern.sub insertColon t
  dotDigitsPattern.sub fillFraction t

/-! ## `fromisoformat` -/

/-- A reader of a text, which leaves the rest. -/
abbrev TextReader := StateT (List Char) Option

def readDigits (n : Nat) : TextReader Nat := fun cs =>
  DateTime.readShape (List.replicate n (DateTime.within '0' '9')) cs 0

def readChar (c : Char) : TextReader Unit
  | [] => none
  | c' :: cs => if c' = c then some ((), cs) else none

/-- A time of day. -/
structure IsoTime where
  hour : Nat
  minute : Nat := 0
  second : Nat := 0
  microsecond : Nat := 0
deriving DecidableEq, Repr

/-- A date and time, with the microseconds by which it is ahead of UTC. -/
structure IsoDateTime where
  dateTime : DateTime
  microsecond : Nat
  utcOffset : Option Int
deriving DecidableEq, Repr

/-- All of a text as a number. -/
def readNumber (cs : List Char) : Option Nat := (readDigits cs.length cs).map (·.1)

/-- `[.fff[fff]]`, up to the end. -/
def readIsoFraction : List Char → Option Nat
  | [] => some 0
  | '.' :: cs =>
    if cs.length = 3 then (readNumber cs).map (· * 1000)
    else if cs.length = 6 then readNumber cs
    else none
  | _ => none

/-- `[:SS[.fff[fff]]]`, up to the end. -/
def readIsoSeconds (hour minute : Nat) : List Char → Option IsoTime
  | [] => some { hour, minute }
  | ':' :: cs => do
    let (second, cs) ← readDigits 2 cs
    let microsecond ← readIsoFraction cs
    return { hour, minute, second, microsecond }
  | _ => none

/-- `[:MM[:SS[.fff[fff]]]]`, up to the end. -/
def readIsoMinutes (hour : Nat) : List Char → Option IsoTime
  | [] => some { hour }
  | ':' :: cs => do
    let (minute, cs) ← readDigits 2 cs
    readIsoSeconds hour minute cs
  | _ => none

/-- `HH[:MM[:SS[.fff[fff]]]]`, up to the end. -/
def readIsoTime (cs : List Char) : Option IsoTime := do
  let (hour, cs) ← readDigits 2 cs
  readIsoMinutes hour cs

def IsoTime.microseconds (t : IsoTime) : Nat :=
  ((t.hour * 60 + t.minute) * 60 + t.second) * 1000000 + t.microsecond

/-- `[+HH:MM[:SS[.ffffff]]]`, up to the end. -/
def readIsoOffset : List Char → Option (Option Int)
  | [] => some none
  | sign :: cs =>
    if cs.length = 5 ∨ cs.length = 8 ∨ cs.length = 15 then
      (readIsoTime cs).map fun t =>
        some (if sign = '-' then -(t.microseconds : Int) else t.microseconds)
    else none

/-- The time and the offset, behind the character that follows the date. -/
def readIsoClock : List Char → Option (IsoTime × Option Int)
  | [] => some ({ hour := 0 }, none)
  | _ :: cs => do
    let time ← readIsoTime (cs.takeWhile (!isSign ·))
    let offset ← readIsoOffset (cs.dropWhile (!isSign ·))
    return (time, offset)

/-- The microseconds of a day. -/
def dayMicroseconds : Nat := 24 * 60 * 60 * 1000000

/-- The offset is less than a day, in either direction. -/
def offsetInDay : Option Int → Bool
  | none => true
  | some offset => offset.natAbs < dayMicroseconds

/-- `datetime.fromisoformat`; nothing where it raises `ValueError`. -/
def fromIsoFormat (cs : List Char) : Option IsoDateTime := do
  let (year, cs) ← readDigits 4 cs
  let (_, cs) ← readChar '-' cs
  let (month, cs) ← readDigits 2 cs
  let (_, cs) ← readChar '-' cs
  let (day, cs) ← readDigits 2 cs
  let (time, utcOffset) ← readIsoClock cs
  let dateTime := ⟨year, month, day, time.hour, time.minute, time.second⟩
  if dateTime.isValid && offsetInDay utcOffset then
    return { dateTime, microsecond := time.microsecond, utcOffset }
  else none

/-! ## `_parse_psql_timestamp` -/

def overflowError : PyError := .other "OverflowError"

/-- The first microsecond of the year 1, and the first that is after the year
9999. -/
def minMicroseconds : Int := (DateTime.mk 1 1 1 0 0 0).toSeconds * 1000000

def maxMicroseconds : Int := ((DateTime.mk 9999 12 31 23 59 59).toSeconds + 1) * 1000000

def IsoDateTime.instant (t : IsoDateTime) : Int :=
  t.dateTime.toSeconds * 1000000 + t.microsecond - t.utcOffset.getD 0

/-- The conversion to UTC.  An offset of nothing is `timezone.utc` itself. -/
def IsoDateTime.toUtc (t : IsoDateTime) : Except PyError Int :=
  if t.utcOffset = none ∨ t.utcOffset = some 0 then .ok t.instant
  else if minMicroseconds ≤ t.instant ∧ t.instant < maxMicroseconds then .ok t.instant
  else .error overflowError

/-- `_parse_psql_timestamp`: the microseconds up to the point in time. -/
def parsePsqlTimestamp (timestamp : String) : Except PyError Int :=
  match fromIsoFormat (normalise timestamp.toList) with
  | none => .error (.valueError "Invalid isoformat string")
  | some t => t.toUtc

/-- `_is_psql_timestamp`. -/
def isPsqlTimestamp (timestamp : String) : Except PyError Bool :=
  if !psqlTimestampPattern.isMatch timestamp.toList then .ok false
  else match parsePsqlTimestamp timestamp with
    | .ok _ => .ok true
    | .error (.valueError _) => .ok false
    | .error e => .error e

end PostgresqlK8s.Restore
