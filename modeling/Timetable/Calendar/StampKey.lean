import Timetable.Calendar.Moment
/-!
# Stamp keys

The key of a minute is the sixteen bytes of `YYYY-MM-DD HH:MM`. Comparing keys byte by byte
compares minutes without building dates. Numbers too wide for their place lose their leading
digits, so that a key can be made of any numbers.

## Main definitions

- `StampKey.of` — the key of a year, month, day, hour and minute
- `StampKey.le` — the order of keys, byte by byte from the front
- `StampKey.day` — the part of a key that stands for the day
- `Moment.key` — the key of a moment's minute
-/

namespace Timetable

abbrev StampKey := List UInt8

namespace StampKey

/-- The last `width` decimal digits of a number, as ASCII bytes. -/
def digitBytes : Nat → Nat → List UInt8
  | 0, _ => []
  | width + 1, n => digitBytes width (n / 10) ++ [UInt8.ofNat (48 + n % 10)]

def of (year month day hour minute : Nat) : StampKey :=
  digitBytes 4 year ++ 45 :: digitBytes 2 month ++ 45 :: digitBytes 2 day ++
    32 :: digitBytes 2 hour ++ 58 :: digitBytes 2 minute

/-- The order of byte sequences: the first difference decides, and a beginning comes before
the whole. -/
def le : List UInt8 → List UInt8 → Bool
  | [], _ => true
  | _ :: _, [] => false
  | a :: as, b :: bs => if a = b then le as bs else a < b

/-- The bytes `YYYY-MM-DD` of a key. -/
def day (key : StampKey) : List UInt8 :=
  key.take 10

end StampKey

def Moment.key (t : Moment) : StampKey :=
  StampKey.of t.date.year.toNat t.date.month t.date.day t.hour t.minute

end Timetable
