
namespace DataMapper

/-- A span of time in days, seconds (`0 ≤ seconds < 86400`) and microseconds
(`0 ≤ micros < 10⁶`), normalised from a total of microseconds. -/
structure Span where
  days : Int
  seconds : Nat
  micros : Nat
  deriving DecidableEq

namespace Span

def ofMicros (total : Int) : Span :=
  let d := total.fdiv 86400000000
  let r := (total - d*86400000000).toNat
  ⟨d, r / 1000000, r % 1000000⟩

def totalMicros (s : Span) : Int := s.days*86400000000 + s.seconds*1000000 + s.micros

def describe (s : Span) : String :=
  let parts :=
    (if s.days ≠ 0 then [s!"days={s.days}"] else []) ++
    (if s.seconds ≠ 0 then [s!"seconds={s.seconds}"] else []) ++
    (if s.micros ≠ 0 then [s!"microseconds={s.micros}"] else [])
  "datetime.timedelta(" ++ (if parts.isEmpty then "0" else ", ".intercalate parts) ++ ")"

end Span

/-- A fixed offset from UTC, in microseconds; strictly within one day. -/
structure Offset where
  micros : Int
  deriving DecidableEq

/-- A calendar date. -/
structure Date where
  year : Nat
  month : Nat
  day : Nat
  deriving DecidableEq

/-- A time of day, with an offset when it is aware. -/
structure TimeOfDay where
  hour : Nat
  minute : Nat
  second : Nat
  micro : Nat
  offset : Option Offset
  deriving DecidableEq

/-- A date with a time of day. -/
structure DateTime where
  date : Date
  time : TimeOfDay
  deriving DecidableEq

def isLeap (y : Int) : Bool := y % 4 == 0 && (y % 100 != 0 || y % 400 == 0)

def daysInMonth (y : Int) (m : Nat) : Nat :=
  match m with
  | 1 | 3 | 5 | 7 | 8 | 10 | 12 => 31
  | 4 | 6 | 9 | 11 => 30
  | 2 => if isLeap y then 29 else 28
  | _ => 0

def daysBeforeMonth (y : Int) (m : Nat) : Nat :=
  (List.range (m-1)).foldl (fun acc i => acc + daysInMonth y (i+1)) 0

def daysBeforeYear (y : Int) : Int :=
  let p := y-1
  p*365 + p.tdiv 4 - p.tdiv 100 + p.tdiv 400

def ordinalOf (y : Int) (m d : Nat) : Int := daysBeforeYear y + daysBeforeMonth y m + d

/-- The date of a day number (day 1 is 0001-01-01), through the 400-, 100-, 4- and 1-year
cycles. -/
def ofOrdinal (n : Int) : Int × Nat × Nat :=
  let n0 := n-1
  let n400 := n0.fdiv 146097
  let r400 := n0 - n400*146097
  let n100 := r400 / 36524
  let r100 := r400 - n100*36524
  let n4 := r100 / 1461
  let r4 := r100 - n4*1461
  let n1 := r4 / 365
  let r1 := r4 - n1*365
  let year := n400*400 + n100*100 + n4*4 + n1 + 1
  if n1 = 4 ∨ n100 = 4 then (year-1, 12, 31)
  else
    let dayOfYear := r1.toNat
    let rec findMonth : Nat → Nat → Nat × Nat
      | 0, _ => (12, 1)
      | fuel+1, m =>
        let before := daysBeforeMonth year (m+1)
        if m ≥ 12 ∨ dayOfYear < before then (m, dayOfYear - daysBeforeMonth year m + 1)
        else findMonth fuel (m+1)
    let (mo, d) := findMonth 12 1
    (year, mo, d)

def weekOneMonday (y : Int) : Int :=
  let first := ordinalOf y 1 1
  let wd := (first+6) % 7
  let monday := first - wd
  if wd > 3 then monday+7 else monday

def pad (width : Nat) (n : Nat) : String :=
  let ds := toString n
  String.ofList (List.replicate (width-ds.length) '0') ++ ds

namespace Date

def isoText (d : Date) : String := s!"{pad 4 d.year}-{pad 2 d.month}-{pad 2 d.day}"

def ordinal (d : Date) : Int := ordinalOf d.year d.month d.day

end Date

namespace Offset

/-- `±HH:MM`, with `:SS` and `.ffffff` when they are not zero. -/
def isoText (o : Offset) : String :=
  let sign := if o.micros < 0 then "-" else "+"
  let t := o.micros.natAbs
  let s := t / 1000000
  let us := t % 1000000
  let hh := s / 3600
  let mm := (s / 60) % 60
  let ss := s % 60
  sign ++ pad 2 hh ++ ":" ++ pad 2 mm ++
    (if ss ≠ 0 ∨ us ≠ 0 then ":" ++ pad 2 ss else "") ++
    (if us ≠ 0 then "." ++ pad 6 us else "")

def utc : Offset := ⟨0⟩

def describe (o : Offset) : String :=
  if o.micros = 0 then "datetime.timezone.utc"
  else "datetime.timezone(" ++ (Span.ofMicros o.micros).describe ++ ")"

end Offset

namespace TimeOfDay

def isoText (t : TimeOfDay) : String :=
  s!"{pad 2 t.hour}:{pad 2 t.minute}:{pad 2 t.second}" ++
    (if t.micro ≠ 0 then "." ++ pad 6 t.micro else "") ++
    (match t.offset with | some o => o.isoText | none => "")

def micros (t : TimeOfDay) : Int :=
  ((t.hour*3600 + t.minute*60 + t.second)*1000000 + t.micro : Nat)

end TimeOfDay

namespace DateTime

def isoTextWith (sep : String) (dt : DateTime) : String :=
  dt.date.isoText ++ sep ++ dt.time.isoText

def isoText (dt : DateTime) : String := dt.isoTextWith "T"

def wallMicros (dt : DateTime) : Int := (dt.date.ordinal-1)*86400000000 + dt.time.micros

def utcMicros (dt : DateTime) : Int :=
  dt.wallMicros - (match dt.time.offset with | some o => o.micros | none => 0)

def epochMicros (dt : DateTime) : Int := dt.utcMicros - (ordinalOf 1970 1 1 - 1)*86400000000

end DateTime

end DataMapper
