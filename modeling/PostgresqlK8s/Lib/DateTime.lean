import PostgresqlK8s.Lib.Decimal
import Mathlib.Data.List.Basic
import Mathlib.Algebra.Ring.Nat

/-!
# DateTime

Points in time to the second, and their texts under a format.

* `strftime fmt t` — the text of `t`;
* `strptime fmt text` — the point in time that a text spells, if it spells
  one.

A directive reads the shapes of a number in a fixed order of preference, as
the alternatives of a regular expression are tried: the first way to read the
whole format counts, and it must use up the text.
-/

/-- A point in time. -/
structure DateTime where
  year : Nat
  month : Nat
  day : Nat
  hour : Nat
  minute : Nat
  second : Nat
deriving DecidableEq, Repr

namespace DateTime

/-- The fields of a point in time. -/
inductive Field
  | year
  | month
  | day
  | hour
  | minute
  | second
deriving DecidableEq, Repr

/-- A piece of a format: a field, or a character that stands for itself. -/
inductive Directive
  | field (f : Field)
  | literal (c : Char)
deriving DecidableEq, Repr

def get (t : DateTime) : Field → Nat
  | .year => t.year
  | .month => t.month
  | .day => t.day
  | .hour => t.hour
  | .minute => t.minute
  | .second => t.second

def put (t : DateTime) (n : Nat) : Field → DateTime
  | .year => { t with year := n }
  | .month => { t with month := n }
  | .day => { t with day := n }
  | .hour => { t with hour := n }
  | .minute => { t with minute := n }
  | .second => { t with second := n }

/-! ## the calendar -/

def isLeap (year : Nat) : Bool := (year % 4 == 0 && year % 100 != 0) || year % 400 == 0

def daysInMonth (year month : Nat) : Nat :=
  if month = 2 then (if isLeap year then 29 else 28)
  else if month ∈ [4, 6, 9, 11] then 30 else 31

/-- Whether the fields name a point in time. -/
def isValid (t : DateTime) : Bool :=
  1 ≤ t.year && 1 ≤ t.month && t.month ≤ 12 && 1 ≤ t.day && t.day ≤ daysInMonth t.year t.month
    && t.hour ≤ 23 && t.minute ≤ 59 && t.second ≤ 59

/-- The days up to a date, from the first day of the calendar on. -/
def ordinal (t : DateTime) : Nat :=
  let years := t.year - 1
  365 * years + years / 4 - years / 100 + years / 400 +
    ((List.range (t.month - 1)).map fun m => daysInMonth t.year (m + 1)).sum + t.day

/-- The seconds up to a point in time. -/
def toSeconds (t : DateTime) : Int :=
  ((t.ordinal * 24 + t.hour) * 60 + t.minute) * 60 + t.second

/-! ## writing -/

/-- A number in at least two digits. -/
def pad (n : Nat) : String := if n < 10 then "0" ++ toString n else toString n

/-- The text of a field; a year is not padded. -/
def Field.format : Field → Nat → String
  | .year, n => toString n
  | _, n => pad n

def strftime (fmt : List Directive) (t : DateTime) : String :=
  fmt.foldr (fun d text => match d with
    | .field f => f.format (t.get f) ++ text
    | .literal c => c.toString ++ text) ""

/-! ## reading -/

/-- A character class that a shape asks for at one position. -/
def within (lo hi : Char) (c : Char) : Bool := lo ≤ c && c ≤ hi

/-- The shapes of a field, in the order in which they are tried. -/
def Field.shapes : Field → List (List (Char → Bool))
  | .year => [[within '0' '9', within '0' '9', within '0' '9', within '0' '9']]
  | .month => [[(· == '1'), within '0' '2'], [(· == '0'), within '1' '9'], [within '1' '9']]
  | .day => [[(· == '3'), within '0' '1'], [within '1' '2', within '0' '9'],
      [(· == '0'), within '1' '9'], [within '1' '9'], [(· == ' '), within '1' '9']]
  | .hour => [[(· == '2'), within '0' '3'], [within '0' '1', within '0' '9'], [within '0' '9']]
  | .minute => [[within '0' '5', within '0' '9'], [within '0' '9']]
  | .second => [[(· == '6'), within '0' '1'], [within '0' '5', within '0' '9'], [within '0' '9']]

/-- The number and the rest of the text, if the text starts with the shape. -/
def readShape : List (Char → Bool) → List Char → Nat → Option (Nat × List Char)
  | [], cs, n => some (n, cs)
  | _ :: _, [], _ => none
  | p :: ps, c :: cs, n =>
      if p c then readShape ps cs (if c.isDigit then 10 * n + (c.toNat - '0'.toNat) else n)
      else none

/-- All ways to read a format at the front of a text, the preferred one first. -/
def readings : List Directive → DateTime → List Char → List (DateTime × List Char)
  | [], t, cs => [(t, cs)]
  | .literal c :: fmt, t, cs =>
      match cs with
      | c' :: cs => if c' = c then readings fmt t cs else []
      | [] => []
  | .field f :: fmt, t, cs =>
      (f.shapes.filterMap fun shape => readShape shape cs 0).flatMap fun r =>
        readings fmt (t.put r.1 f) r.2

def strptime (fmt : List Directive) (text : String) : Option DateTime :=
  match readings fmt ⟨1900, 1, 1, 0, 0, 0⟩ text.toList with
  | (t, []) :: _ => if t.isValid then some t else none
  | _ => none

end DateTime
