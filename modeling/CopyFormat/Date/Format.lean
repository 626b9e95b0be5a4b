import CopyFormat.Date.Calendar
import CopyFormat.Text.Basic

/-!
Date formats: text in which `%` and a letter stand for a part of the date. A number can be
padded otherwise than is usual for it by `-`, `0` or `_` behind the percent sign. A format with
an unknown letter is invalid as a whole.
-/

namespace CopyFormat.Date

/-- How a number is padded to its width. -/
inductive Padding
  | none
  | zeros
  | blanks
  deriving DecidableEq, Repr

/-- How the hours and minutes of an offset are separated and cut. -/
inductive OffsetForm
  | plain
  | colon
  | colonSeconds
  | hours
  deriving DecidableEq, Repr

inductive Item
  | text (t : Text)
  | number (width : Nat) (padding : Padding) (value : Moment → Int)
  | name (value : Moment → Text)

namespace Item

def months : List String :=
  ["January", "February", "March", "April", "May", "June", "July", "August", "September",
    "October", "November", "December"]

def days : List String :=
  ["Monday", "Tuesday", "Wednesday", "Thursday", "Friday", "Saturday", "Sunday"]

def nameOf (names : List String) (letters n : Nat) : Text :=
  ((names[n]?.getD "").toList).take letters

/-- A number with leading characters up to a width. -/
def padded (width : Nat) (padding : Padding) (n : Int) : Text :=
  let digits := Text.ofNat n.natAbs
  let sign : Text := if n < 0 then ['-'] else []
  let missing := width - (sign.length + digits.length)
  match padding with
  | .none => sign ++ digits
  | .zeros => sign ++ List.replicate missing '0' ++ digits
  | .blanks => List.replicate missing ' ' ++ sign ++ digits

/-- A year; one with more than four digits has a sign. -/
def year (padding : Padding) (n : Int) : Text :=
  if n > 9999 then '+' :: padded 0 .none n else padded 4 padding n

/-- How far the clock is ahead of universal time. -/
def offset (form : OffsetForm) (seconds : Int) : Text :=
  let sign := if seconds < 0 then '-' else '+'
  let n := seconds.natAbs
  -- A form without seconds shows the nearest minute.
  let rounded := match form with
    | .plain | .colon => (n + 30) / 60 * 60
    | _ => n
  let two := fun (k : Nat) => padded 2 .zeros k
  sign :: two (rounded / 3600) ++
    match form with
    | .plain => two (rounded / 60 % 60)
    | .colon => ':' :: two (rounded / 60 % 60)
    | .colonSeconds => ':' :: two (rounded / 60 % 60) ++ ':' :: two (rounded % 60)
    | .hours => []

/-- The offset as the name of a time zone: seconds are shown when there are any. -/
def zone (seconds : Int) : Text :=
  offset (if seconds % 60 = 0 then .colon else .colonSeconds) seconds

def fraction (digits : Nat) (m : Moment) : Text :=
  padded digits .zeros (m.nanosecond / Nat.pow 10 (9 - digits) : Nat)

/-- As many of the nanoseconds, in groups of three digits, as are needed to be exact, behind a
point. -/
def exactFraction (m : Moment) : Text :=
  if m.nanosecond = 0 then []
  else if m.nanosecond % 1000000 = 0 then '.' :: fraction 3 m
  else if m.nanosecond % 1000 = 0 then '.' :: fraction 6 m
  else '.' :: fraction 9 m

def halfDay (m : Moment) : Text := Text.lit (if m.hour < 12 then "AM" else "PM")

/-- The number that a letter stands for, with its usual width and padding. -/
def number? : Char → Option Item
  | 'C' => some (.number 2 .zeros fun m => m.year / 100)
  | 'y' => some (.number 2 .zeros fun m => m.year % 100)
  | 'q' => some (.number 1 .none fun m => (m.month - 1) / 3 + 1)
  | 'm' => some (.number 2 .zeros fun m => m.month)
  | 'd' => some (.number 2 .zeros fun m => m.day)
  | 'e' => some (.number 2 .blanks fun m => m.day)
  | 'w' => some (.number 1 .none fun m => m.weekdayFromSunday)
  | 'u' => some (.number 1 .none fun m => m.weekday + 1)
  | 'U' => some (.number 2 .zeros fun m => m.weekFromSunday)
  | 'W' => some (.number 2 .zeros fun m => m.weekFromMonday)
  | 'g' => some (.number 2 .zeros fun m => m.isoWeek.1 % 100)
  | 'V' => some (.number 2 .zeros fun m => m.isoWeek.2)
  | 'j' => some (.number 3 .zeros fun m => m.dayOfYear)
  | 'H' => some (.number 2 .zeros fun m => m.hour)
  | 'k' => some (.number 2 .blanks fun m => m.hour)
  | 'I' => some (.number 2 .zeros fun m => m.hour12)
  | 'l' => some (.number 2 .blanks fun m => m.hour12)
  | 'M' => some (.number 2 .zeros fun m => m.minute)
  | 'S' => some (.number 2 .zeros fun m => m.second)
  | 'f' => some (.number 9 .zeros fun m => m.nanosecond)
  | 's' => some (.number 1 .none fun m => m.timestamp)
  | _ => none

def year? : Char → Option (Moment → Int)
  | 'Y' => some fun m => m.year
  | 'G' => some fun m => m.isoWeek.1
  | _ => none

/-- What a letter stands for that is no number. -/
def name? : Char → Option Item
  | 'A' => some (.name fun m => nameOf days 9 m.weekday)
  | 'a' => some (.name fun m => nameOf days 3 m.weekday)
  | 'B' => some (.name fun m => nameOf months 9 (m.month - 1))
  | 'b' | 'h' => some (.name fun m => nameOf months 3 (m.month - 1))
  | 'p' => some (.name halfDay)
  | 'P' => some (.name fun m => (halfDay m).map Char.toLower)
  | 'Z' => some (.name fun m => zone m.offset)
  | 'z' => some (.name fun m => offset .plain m.offset)
  | 'n' => some (.text ['\n'])
  | 't' => some (.text ['\t'])
  | '%' => some (.text ['%'])
  | _ => none

/-- The format that a letter is short for. -/
def shorthand? : Char → Option String
  | 'D' | 'x' => some "%m/%d/%y"
  | 'F' => some "%Y-%m-%d"
  | 'R' => some "%H:%M"
  | 'T' | 'X' => some "%H:%M:%S"
  | 'r' => some "%I:%M:%S %p"
  | 'v' => some "%e-%b-%Y"
  | 'c' => some "%a %b %e %H:%M:%S %Y"
  | '+' => some "%Y-%m-%dT%H:%M:%S%.f%:z"
  | _ => none

/-- The padding that a character asks for. -/
def padding? : Char → Option Padding
  | '-' => some .none
  | '0' => some .zeros
  | '_' => some .blanks
  | _ => none

/-- A number of digits of a second, as a character writes it. -/
def places? : Char → Option Nat
  | '3' => some 3
  | '6' => some 6
  | '9' => some 9
  | _ => none

/-- The number or year that a letter stands for, padded as asked. -/
def paddedItem? (padding : Padding) (c : Char) : Option Item :=
  match number? c, year? c with
  | some (.number width _ value), _ => some (.number width padding value)
  | _, some value => some (.name fun m => year padding (value m))
  | _, _ => none

def letter? (c : Char) : Option Item :=
  (number? c).or (((year? c).map fun value => .name fun m => year .zeros (value m)).or (name? c))

/-- The part that a text behind a percent sign starts with, and what follows it. -/
def behindPercent? : Text → Option (Item × Text)
  | ':' :: ':' :: ':' :: 'z' :: r => some (.name fun m => offset .hours m.offset, r)
  | ':' :: ':' :: 'z' :: r => some (.name fun m => offset .colonSeconds m.offset, r)
  | ':' :: 'z' :: r => some (.name fun m => offset .colon m.offset, r)
  | '.' :: 'f' :: r => some (.name exactFraction, r)
  | '.' :: d :: 'f' :: r => (places? d).map fun n => (.name fun m => '.' :: fraction n m, r)
  | c :: d :: r =>
      match padding? c with
      | some p => (paddedItem? p d).map fun i => (i, r)
      | none =>
          match places? c with
          | some n => if d = 'f' then some (.name (fraction n), r) else none
          | none => (letter? c).map fun i => (i, d :: r)
  | [c] => (letter? c).map fun i => (i, [])
  | [] => none

/-- The format with the letters written out that are short for others. -/
def writtenOut : Text → Text
  | '%' :: c :: r =>
      (match shorthand? c with
        | some long => long.toList
        | none => ['%', c]) ++ writtenOut r
  | c :: r => c :: writtenOut r
  | [] => []

/-- The parts of a format. Each takes at least one character, so the number, which bounds them,
can be the length of the format. -/
def parse? : Nat → Text → Option (List Item)
  | _, [] => some []
  | 0, _ :: _ => none
  | fuel + 1, '%' :: r => do
      let (item, r') ← behindPercent? r
      return item :: (← parse? fuel r')
  | fuel + 1, c :: r => (parse? fuel r).map (.text [c] :: ·)

def render (m : Moment) : Item → Text
  | .text t => t
  | .number width padding value => padded width padding (value m)
  | .name value => value m

end Item

def format? (t : Text) (m : Moment) : Option Text :=
  let t := Item.writtenOut t
  (Item.parse? t.length t).map fun items => items.flatMap (Item.render m)

def Moment.iso (m : Moment) : Text := (format? (Text.lit "%Y-%m-%d") m).getD []

end CopyFormat.Date
