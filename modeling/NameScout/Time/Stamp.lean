import NameScout.Decimal.Reading
import NameScout.Text.Blank
import NameScout.Time.Calendar
import NameScout.Time.Instant

namespace NameScout.Instant

def padded (width n : Nat) : List Char :=
  let ds := Nat.toDigits 10 n
  List.replicate (width - ds.length) '0' ++ ds

/-- Four digits within the years 0 to 9999, and a sign with at least four digits outside. -/
def yearChars (year : Int) : List Char :=
  if 0 ≤ year ∧ year ≤ 9999 then padded 4 year.toNat
  else (if year < 0 then '-' else '+') :: padded 4 year.natAbs

def fractionChars (nano : Nat) : List Char :=
  if nano = 0 then []
  else if nano % 1000000 = 0 then '.' :: padded 3 (nano / 1000000)
  else if nano % 1000 = 0 then '.' :: padded 6 (nano / 1000)
  else '.' :: padded 9 nano

def stampChars (t : Instant) : List Char :=
  let date := Date.ofDays (t.second / 86400)
  let clock := t.secondOfDay.toNat
  let extra := if t.inLeapSecond then 1 else 0
  yearChars date.year ++ '-' :: padded 2 date.month ++ '-' :: padded 2 date.day
    ++ 'T' :: padded 2 (clock / 3600) ++ ':' :: padded 2 (clock / 60 % 60)
    ++ ':' :: padded 2 (clock % 60 + extra) ++ fractionChars (t.nano % 1000000000) ++ ['Z']

def stamp (t : Instant) : String :=
  String.ofList t.stampChars

def readUpTo (most : Nat) (cs : List Char) : Option (Nat × List Char) :=
  match (cs.take most).takeWhile (Decimal.digitValue? · |>.isSome) with
  | [] => none
  | ds => some (Decimal.digitsValue ds, cs.drop ds.length)

def readMark (mark : Char) (cs : List Char) : Option (List Char) :=
  match Text.trimStart cs with
  | c :: cs => if c = mark then some cs else none
  | [] => none

def readTwo (cs : List Char) : Option (Nat × List Char) :=
  readUpTo 2 (Text.trimStart cs)

/-- A year of up to four digits, or a sign and any number of them. -/
def readYear (cs : List Char) : Option (Int × List Char) :=
  match Text.trimStart cs with
  | '-' :: cs => (readUpTo cs.length cs).map fun (n, rest) => (-(n : Int), rest)
  | '+' :: cs => (readUpTo cs.length cs).map fun (n, rest) => ((n : Int), rest)
  | cs => (readUpTo 4 cs).map fun (n, rest) => ((n : Int), rest)

/-- A fraction of a second; digits after the ninth are passed over. -/
def readFraction : List Char → Option (Nat × List Char)
  | '.' :: cs => (readUpTo 9 cs).map fun (n, rest) =>
      let count := cs.length - rest.length
      (n * Nat.pow 10 (9 - count), rest.dropWhile (Decimal.digitValue? · |>.isSome))
  | cs => some (0, cs)

def twoDigits? : List Char → Option (Nat × List Char)
  | a :: b :: cs => do return (10 * (← Decimal.digitValue? a) + (← Decimal.digitValue? b), cs)
  | _ => none

def signedOffset (negative : Bool) (cs : List Char) : Option (Int × List Char) := do
  let (hours, cs) ← twoDigits? cs
  let (minutes, cs) ← twoDigits? (cs.dropWhile fun c => c == ':' || Text.isBlank c)
  if 60 ≤ minutes then none
  let seconds : Int := hours * 3600 + minutes * 60
  return (if negative then -seconds else seconds, cs)

def readOffset (cs : List Char) : Option (Int × List Char) :=
  match Text.trimStart cs with
  | 'Z' :: cs | 'z' :: cs => some (0, cs)
  | '+' :: cs => signedOffset false cs
  | '-' :: cs | '\u2212' :: cs => signedOffset true cs
  | u :: t :: c :: cs =>
      if [u.toLower, t.toLower, c.toLower] = ['u', 't', 'c'] then some (0, cs) else none
  | _ => none

def ofClock? (date : Date) (hour minute second nano : Nat) (offset : Int) : Option Instant :=
  if 23 < hour ∨ 59 < minute ∨ 60 < second ∨ offset ≤ -86400 ∨ 86400 ≤ offset then none
  else
    let clock : Int := hour * 3600 + minute * 60 + min second 59
    of? (date.toDays * 86400 + clock - offset)
      (if second = 60 then nano + 1000000000 else nano)

/-- A moment in the notation of RFC 3339, relaxed: white space may stand between the parts,
a space may part date and time, numbers may lack leading zeros. -/
def ofStamp? (text : String) : Option Instant := do
  let (year, cs) ← readYear text.toList
  let (month, cs) ← readTwo (← readMark '-' cs)
  let (day, cs) ← readTwo (← readMark '-' cs)
  let cs ← match cs with
    | 'T' :: cs | 't' :: cs | ' ' :: cs => some cs
    | _ => none
  let (hour, cs) ← readTwo cs
  let (minute, cs) ← readTwo (← readMark ':' cs)
  let (second, cs) ← readTwo (← readMark ':' cs)
  let (nano, cs) ← readFraction cs
  let (offset, cs) ← readOffset cs
  if !(Text.trimStart cs).isEmpty then none
  let date ← Date.of? year month day
  ofClock? date hour minute second nano offset

end NameScout.Instant
