import CardFile.Text.Utf8

/-!
Dates as cards carry them. A date is three numbers that need not name a day: reading trusts every
octet to be a digit, and writing moves each number into its range. Days of the calendar are counted
by the Gregorian rule in both directions of time.
-/
namespace CardFile

structure Date where
  year : Int
  month : Int
  day : Int
  deriving DecidableEq

namespace Date

/-- The number that octets spell in base ten, where octets that are no digits count by their
distance from `0`. -/
def number (octets : List UInt8) : Int :=
  octets.foldl (fun n b => n * 10 + (b.toNat - 0x30)) 0

/-- Reads `YYYY-MM-DD` or `YYYYMMDD`, told apart by their length in octets. A text of any other
length gives a date of zeros. -/
def parse (s : String) : Date :=
  match Text.Utf8.encode s.toList with
  | [a, b, c, d, _, e, f, _, g, h] => ⟨number [a, b, c, d], number [e, f], number [g, h]⟩
  | [a, b, c, d, e, f, g, h] => ⟨number [a, b, c, d], number [e, f], number [g, h]⟩
  | _ => ⟨0, 0, 0⟩

def clampTo (low high n : Int) : Int :=
  max low (min high n)

def clamp (d : Date) : Date :=
  ⟨clampTo 1000 9999 d.year, clampTo 1 12 d.month, clampTo 1 31 d.day⟩

def padded (width n : Nat) : List Char :=
  let digits := Nat.toDigits 10 n
  List.replicate (width - digits.length) '0' ++ digits

def toText (d : Date) : String :=
  let c := d.clamp
  String.ofList (padded 4 c.year.toNat ++ '-' :: padded 2 c.month.toNat ++
    '-' :: padded 2 c.day.toNat)

def isLeap (year : Int) : Bool :=
  year % 4 == 0 && (year % 100 != 0 || year % 400 == 0)

def monthLengths (year : Int) : List Int :=
  [31, if isLeap year then 29 else 28, 31, 30, 31, 30, 31, 31, 30, 31, 30, 31]

def firstYear : Int := -262143
def lastYear : Int := 262142

def isDay (d : Date) : Bool :=
  firstYear ≤ d.year && d.year ≤ lastYear && 1 ≤ d.month && 1 ≤ d.day &&
    match (monthLengths d.year)[d.month.toNat - 1]? with
    | some length => d.day ≤ length
    | none => false

/-- The number of a day, counted from the last day before year 1. -/
def dayNumber (d : Date) : Int :=
  let past := d.year - 1
  past * 365 + past / 4 - past / 100 + past / 400 +
    ((monthLengths d.year).take (d.month.toNat - 1)).foldl (· + ·) d.day

end Date

end CardFile
