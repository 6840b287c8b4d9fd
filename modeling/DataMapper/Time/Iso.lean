import DataMapper.Time.Calendar
import DataMapper.Text.Quote

namespace DataMapper

/-- Why a text is not a date, time or date and time. -/
inductive TimeError
  | badText
  | yearOutOfRange (year : Int)
  | monthOutOfRange
  | dayOutOfRange
  | hourOutOfRange
  | minuteOutOfRange
  | secondOutOfRange
  | microOutOfRange
  | offsetOutOfRange (offset : Span)
  deriving DecidableEq

/-- The message of a failed read of `text`. -/
def TimeError.message (text : String) : TimeError → String
  | .badText => "Invalid isoformat string: " ++ Text.quote text
  | .yearOutOfRange y => "year " ++ toString y ++ " is out of range"
  | .monthOutOfRange => "month must be in 1..12"
  | .dayOutOfRange => "day is out of range for month"
  | .hourOutOfRange => "hour must be in 0..23"
  | .minuteOutOfRange => "minute must be in 0..59"
  | .secondOutOfRange => "second must be in 0..59"
  | .microOutOfRange => "microsecond must be in 0..999999"
  | .offsetOutOfRange sp =>
    "offset must be a timedelta strictly between -timedelta(hours=24) and timedelta(hours=24), not " ++
      sp.describe ++ "."

namespace Iso

def byteAt (bs : ByteArray) (i : Int) : Nat :=
  if 0 ≤ i then
    let j := i.toNat
    if h : j < bs.size then bs[j].toNat else 0
  else 0

def isDigitByte (b : Nat) : Bool := 48 ≤ b && b ≤ 57

def digits (bs : ByteArray) (p : Int) (acc : Nat) : Nat → Option (Nat × Int)
  | 0 => some (acc, p)
  | n+1 =>
    let b := byteAt bs p
    if isDigitByte b then digits bs (p+1) (acc*10+(b-48)) n else none

/-- A date read from text, before its range is checked. -/
structure RawDate where
  year : Int
  month : Int
  day : Int

def fromWeek (y : Int) (week day : Nat) : Except Int RawDate :=
  let first := ordinalOf y 1 1
  let wd := (first+6) % 7
  let longYear := wd = 3 ∨ (wd = 2 ∧ isLeap y)
  if (week = 0 ∨ week ≥ 53) ∧ ¬(week = 53 ∧ longYear) then .error (-2)
  else if day = 0 ∨ day ≥ 8 then .error (-3)
  else
    let (yy, mm, dd) := ofOrdinal (weekOneMonday y + (week-1)*7 + day - 1)
    .ok ⟨yy, mm, dd⟩

/-- Reads the date part within the first `len` bytes. -/
def readDate (bs : ByteArray) (len : Int) : Except Int RawDate := do
  let some (year, p) := digits bs 0 0 4 | .error (-1)
  let sep := byteAt bs p == 45
  let p := if sep then p+1 else p
  if byteAt bs p == 87 then
    let some (week, p) := digits bs (p+1) 0 2 | .error (-3)
    if p < len then
      if sep && byteAt bs p != 45 then .error (-2)
      else
        let p := if sep then p+1 else p
        let some (day, _) := digits bs p 0 1 | .error (-4)
        match fromWeek year week day with
        | .ok d => .ok d
        | .error e => .error (e-3)
    else
      match fromWeek year week 1 with
      | .ok d => .ok d
      | .error e => .error (e-3)
  else
    let some (month, p) := digits bs p 0 2 | .error (-1)
    if sep && byteAt bs p != 45 then .error (-2)
    else
      let p := if sep then p+1 else p
      let some (day, _) := digits bs p 0 2 | .error (-1)
      .ok ⟨year, month, day⟩

/-- Clock fields read from text. -/
structure RawClock where
  hour : Nat := 0
  minute : Nat := 0
  second : Nat := 0
  micro : Nat := 0

def fractionScale : Nat → Nat
  | 1 => 100000
  | 2 => 10000
  | 3 => 1000
  | 4 => 100
  | 5 => 10
  | _ => 1

def skipDigits (bs : ByteArray) (p : Int) : Nat → Int
  | 0 => p
  | n+1 => if isDigitByte (byteAt bs p) then skipDigits bs (p+1) n else p

def readFraction (bs : ByteArray) (p stop : Int) (c : RawClock) : Except Int (Nat × RawClock) := do
  let remain := (stop-p).toNat
  let take := min remain 6
  let some (us, p) := digits bs p 0 take | .error (-3)
  let us := if take < 6 then us * fractionScale take else us
  let p := skipDigits bs p bs.size
  .ok ((if byteAt bs p != 0 then 1 else 0), { c with micro := us })

/-- Reads `HH[:MM[:SS[.f…]]]` between `start` and `stop`. Result 1 means more text follows. -/
def readClock (bs : ByteArray) (start stop : Int) : Except Int (Nat × RawClock) := do
  let set (c : RawClock) (i v : Nat) : RawClock :=
    if i = 0 then { c with hour := v } else if i = 1 then { c with minute := v } else { c with second := v }
  let rec loop (fuel : Nat) (i : Nat) (p : Int) (hasSep : Bool) (c : RawClock) :
      Except Int (Nat × RawClock) :=
    match fuel with
    | 0 => readFraction bs p stop c
    | fuel+1 =>
      match digits bs p 0 2 with
      | none => .error (-3)
      | some (v, p) =>
        let c := set c i v
        let ch := byteAt bs p
        let p := p+1
        let hasSep := if i = 0 then ch == 58 else hasSep
        if p ≥ stop then .ok ((if ch != 0 then 1 else 0), c)
        else if hasSep && ch == 58 then loop fuel (i+1) p hasSep c
        else if ch == 46 || ch == 44 then readFraction bs p stop c
        else if !hasSep then loop fuel (i+1) (p-1) hasSep c
        else .error (-4)
  loop 3 0 start true {}

/-- The offset found after a time: `none` for none, else seconds and microseconds. -/
def readTime (bs : ByteArray) (start len : Int) : Except Int (RawClock × Option (Int × Int)) := do
  let stop := start+len
  let isTzByte (b : Nat) : Bool := b == 90 || b == 43 || b == 45
  let rec findTz (fuel : Nat) (q : Int) : Int :=
    match fuel with
    | 0 => q
    | fuel+1 => if isTzByte (byteAt bs q) then q else if q+1 < stop then findTz fuel (q+1) else q+1
  let tz := findTz (bs.size+1) start
  let (rc, clock) ← readClock bs start tz
  if tz = stop then
    if rc = 1 then .error (-5) else .ok (clock, none)
  else if byteAt bs tz == 90 then
    if byteAt bs (tz+1) != 0 then .error (-5) else .ok (clock, some (0, 0))
  else
    let sign : Int := if byteAt bs tz == 45 then -1 else 1
    match readClock bs (tz+1) stop with
    | .error _ => .error (-5)
    | .ok (rc2, o) =>
      if rc2 ≠ 0 then .error (-5)
      else .ok (clock, some (sign*(o.hour*3600+o.minute*60+o.second), sign*o.micro))

/-- Where the date part of a date and time ends, from the shape of its first bytes. -/
def separatorAt (bs : ByteArray) (len : Int) : Int :=
  if len = 7 then 7
  else if byteAt bs 4 == 45 then
    if byteAt bs 5 == 87 then
      if len < 8 then -1
      else if len > 8 && byteAt bs 8 == 45 then
        if len = 9 then -1
        else if len > 10 && isDigitByte (byteAt bs 10) then 8
        else 10
      else 8
    else 10
  else if byteAt bs 4 == 87 then
    let idx := skipDigits bs 7 bs.size
    let idx := if idx > len then len else idx
    if idx < 9 then idx else if idx % 2 = 0 then 7 else 8
  else 8

/-- The offset of a read time zone, checked to lie strictly within one day. -/
def offsetOf : Option (Int × Int) → Except TimeError (Option Offset)
  | none => .ok none
  | some (secs, us) =>
    if secs = 0 then .ok (some Offset.utc)
    else
      let total := secs*1000000 + us
      let sp := Span.ofMicros total
      if (sp.days = -1 ∧ sp.seconds = 0 ∧ sp.micros < 1) ∨ sp.days < -1 ∨ sp.days ≥ 1 then
        .error (.offsetOutOfRange sp)
      else .ok (some ⟨total⟩)

def checkDate (d : RawDate) : Except TimeError Date :=
  if d.year < 1 ∨ d.year > 9999 then .error (.yearOutOfRange d.year)
  else if d.month < 1 ∨ d.month > 12 then .error .monthOutOfRange
  else if d.day < 1 ∨ d.day > daysInMonth d.year d.month.toNat then .error .dayOutOfRange
  else .ok ⟨d.year.toNat, d.month.toNat, d.day.toNat⟩

def checkClock (c : RawClock) (o : Option Offset) : Except TimeError TimeOfDay :=
  if c.hour > 23 then .error .hourOutOfRange
  else if c.minute > 59 then .error .minuteOutOfRange
  else if c.second > 59 then .error .secondOutOfRange
  else if c.micro > 999999 then .error .microOutOfRange
  else .ok ⟨c.hour, c.minute, c.second, c.micro, o⟩

end Iso

open Iso in
def Date.ofIso (s : String) : Except TimeError Date :=
  let bs := s.toUTF8
  let len : Int := bs.size
  if len = 7 ∨ len = 8 ∨ len = 10 then
    match readDate bs len with
    | .ok d => checkDate d
    | .error _ => .error .badText
  else .error .badText

open Iso in
def TimeOfDay.ofIso (s : String) : Except TimeError TimeOfDay :=
  let bs := s.toUTF8
  let (start, len) : Int × Int := if byteAt bs 0 == 84 then (1, bs.size-1) else (0, bs.size)
  match readTime bs start len with
  | .error _ => .error .badText
  | .ok (c, tz) => do
    let o ← offsetOf tz
    checkClock c o

open Iso in
/-- Reads a date and an optional time after a separator. -/
def DateTime.ofIso (s : String) : Except TimeError DateTime :=
  let bs := s.toUTF8
  let len : Int := bs.size
  let sep := separatorAt bs len
  let dateLen : Int := if sep < 0 then 4294967296 else sep
  match readDate bs dateLen with
  | .error _ => .error .badText
  | .ok d =>
    let timePart : Except Int (RawClock × Option (Int × Int)) :=
      if len > sep then readTime bs (sep+1) (len-sep-1) else .ok ({}, none)
    match timePart with
    | .error _ => .error .badText
    | .ok (c, tz) => do
      let o ← offsetOf tz
      let date ← checkDate d
      let time ← checkClock c o
      .ok ⟨date, time⟩

end DataMapper
