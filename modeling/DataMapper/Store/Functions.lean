import DataMapper.Store.Operators
import DataMapper.Store.Format
import DataMapper.Store.Expr
import DataMapper.Store.Table

namespace DataMapper.Store

def textChars (d : Datum) : List Char := ((d.asText?).getD "").toList

/-- Characters taken from a list by the rules of `substr`: a start counted from one (or from
the end when negative) and an optional length (taken backwards when negative). -/
def substrRange (len : Nat) (p1 : Int) (p2? : Option Int) : Nat × Nat :=
  let (p2, negative) := match p2? with
    | some p => if p < 0 then (-p, true) else (p, false)
    | none => ((len : Int) + 1, false)
  let (p1, p2) :=
    if p1 < 0 then
      let p1 := p1 + len
      if p1 < 0 then (0, max (p2 + p1) 0) else (p1, p2)
    else if p1 > 0 then (p1 - 1, p2)
    else if p2 > 0 then (p1, p2 - 1) else (p1, p2)
  let (p1, p2) :=
    if negative then
      let p1 := p1 - p2
      if p1 < 0 then (0, p2 + p1) else (p1, p2)
    else (p1, p2)
  (p1.toNat, p2.toNat)

def dropFront (set : List Char) (cs : List Char) : List Char := cs.dropWhile set.contains

def replaceAll (pat rep : List Char) : Nat → List Char → List Char
  | 0, cs => cs
  | _, [] => []
  | f + 1, c :: cs =>
    if pat.isPrefixOf (c :: cs) then rep ++ replaceAll pat rep f ((c :: cs).drop pat.length)
    else c :: replaceAll pat rep f cs

def firstPlace {α : Type} [BEq α] (pat : List α) (cs : List α) : Nat :=
  match (List.range (cs.length + 1)).find? fun i => pat.isPrefixOf (cs.drop i) with
  | some i => if pat.length + i ≤ cs.length then i + 1 else 0
  | none => 0

def hexText (bytes : List UInt8) : String :=
  let digit (n : Nat) : Char := if n < 10 then Char.ofNat (48 + n) else Char.ofNat (55 + n)
  String.ofList (bytes.flatMap fun b => [digit (b.toNat / 16), digit (b.toNat % 16)])

def bytesOf : Datum → List UInt8
  | .blob b => b
  | d => ((d.asText?).getD "").toUTF8.toList

/-- A double written so that reading it back gives it again: fifteen significant digits when
they suffice, else twenty in the exponent style. The two zeros count as one number, so a
negative zero is written as a zero. -/
def exactRealText (x : Binary64) : String :=
  let short := realText x
  let back := (Numeral.read short).real
  if back == x || (x.toRatio?.isSome && back.toRatio? == x.toRatio?) then short
  else writeReal { style := .exponent, precision := some 20, altForm2 := true } x

def quoteText : Datum → String
  | .null => "NULL"
  | .integer n => toString n
  | .real x => exactRealText x
  | .text s => "'" ++ String.intercalate "''" (s.splitOn "'") ++ "'"
  | .blob b => "X'" ++ hexText b ++ "'"

/-- Rounds a double to some decimal places, halves away from zero. -/
def roundTo (x : Binary64) (places : Nat) : Binary64 :=
  let outside : Bool := match x.toRatio? with
    | some (n, d) => decide (n.natAbs > 4503599627370496 * d)
    | none => true
  if outside then x
  else if places == 0 then
    let half := Binary64.ofDecimal (x.isNeg && !(x.toRatio?.map (·.1 == 0)).getD false) 5 (-1)
    match (x.add half).truncate? with
    | some i => Binary64.ofInt i
    | none => x
  else
    (Numeral.read (writeReal { style := .fixed, precision := some places, altForm2 := true } x)).real

/-- The largest of a list of values, or the smallest, under a collation: the first of equal
greatest values, or the last of equal least ones. -/
def extremeOf (coll : Collation) (greatest : Bool) : List Datum → Datum
  | [] => .null
  | d :: more =>
    more.foldl (fun best x =>
      let c := best.compareIn coll x
      if greatest then (if c == .lt then x else best) else (if c != .lt then x else best)) d

/-- What the connection tells functions: rows changed by the last statement, rows changed
in all, and the key of the last inserted row. -/
structure Session where
  changes : Int := 0
  totalChanges : Int := 0
  lastKey : Int := 0

def signOf (d : Datum) : Datum :=
  match d.numericValue? with
  | some v =>
    let x := asReal v
    match x.toRatio? with
    | some (n, _) => .integer (if n < 0 then -1 else if n > 0 then 1 else 0)
    | none => if x.isNaN then .null else .integer (if x.isNeg then -1 else 1)
  | none => .null

/-- The scalar functions on evaluated arguments; `coll` is the collation of the first argument
that has one, for `min`, `max` and `nullif`. -/
def scalarFn (session : Session) (name : String) (coll : Collation) (args : List Datum) :
    Except StoreError Datum :=
  match upperName name, args with
  | "ABS", [.null] => .ok .null
  | "ABS", [.integer n] =>
    if n == int64Min then .error (.failed "integer overflow") else .ok (.integer n.natAbs)
  | "ABS", [d] =>
    let x := d.toReal
    let negative : Bool := match x.toRatio? with
      | some (n, _) => decide (n < 0)
      | none => x.isNeg && x.isInf
    .ok (realResult (if negative then x.negate else x))
  | "LENGTH", [.null] => .ok .null
  | "LENGTH", [.blob b] => .ok (.integer b.length)
  | "LENGTH", [d] => .ok (.integer (textChars d).length)
  | "LOWER", [.null] => .ok .null
  | "LOWER", [d] => .ok (.text (String.ofList ((textChars d).map Char.toLower)))
  | "UPPER", [.null] => .ok .null
  | "UPPER", [d] => .ok (.text (String.ofList ((textChars d).map Char.toUpper)))
  | "TYPEOF", [d] => .ok (.text d.typeName)
  | "NULLIF", [a, b] => .ok (if a.compareIn coll b == .eq then .null else a)
  | "INSTR", [a, b] =>
    if a.isNull || b.isNull then .ok .null
    else match a, b with
      | .blob x, .blob y => .ok (.integer (firstPlace y x))
      | _, _ => .ok (.integer (firstPlace (textChars b) (textChars a)))
  | "SUBSTR", x :: rest => substr x rest
  | "SUBSTRING", x :: rest => substr x rest
  | "TRIM", d :: rest => trim d rest true true
  | "LTRIM", d :: rest => trim d rest true false
  | "RTRIM", d :: rest => trim d rest false true
  | "REPLACE", [x, y, z] =>
    if x.isNull || y.isNull || z.isNull then .ok .null
    else
      let pat := textChars y
      if pat.isEmpty then .ok (.text (String.ofList (textChars x)))
      else
        let cs := textChars x
        .ok (.text (String.ofList (replaceAll pat (textChars z) (cs.length + 1) cs)))
  | "ROUND", x :: rest =>
    match rest with
    | [.null] => .ok .null
    | _ =>
      let n := match rest with
        | [p] => min 30 (max 0 (toInt32 p.toInt))
        | _ => 0
      if x.isNull then .ok .null else .ok (realResult (roundTo x.toReal n.toNat))
  | "MIN", ds => .ok (if ds.any (·.isNull) then .null else extremeOf coll false ds)
  | "MAX", ds => .ok (if ds.any (·.isNull) then .null else extremeOf coll true ds)
  | "HEX", [d] => .ok (.text (hexText (bytesOf d)))
  | "QUOTE", [d] => .ok (.text (quoteText d))
  | "UNICODE", [d] =>
    match (textChars d).head? with
    | some c => .ok (.integer c.toNat)
    | none => .ok .null
  | "CHAR", ds => .ok (.text (String.ofList (ds.map fun d =>
      let n := d.toInt
      if 0 ≤ n && n ≤ 1114111 && n.toNat.isValidChar then Char.ofNat n.toNat
      else Char.ofNat 65533)))
  | "GLOB", [p, x] =>
    if p.isNull || x.isNull then .ok .null else .ok (ofBool (globMatch (textChars p) (textChars x)))
  | "LIKE", p :: x :: rest =>
    if p.isNull || x.isNull then .ok .null
    else
      match rest with
      | [e] =>
        match textChars e with
        | [c] => .ok (ofBool (likeMatch (some c) (textChars p) (textChars x)))
        | _ => .error (.failed "ESCAPE expression must be a single character")
      | _ => .ok (ofBool (likeMatch none (textChars p) (textChars x)))
  | "SIGN", [d] => .ok (signOf d)
  | "ZEROBLOB", [d] =>
    let n := d.toInt
    if n > 1000000000 then .error (.failed "string or blob too big")
    else .ok (.blob (List.replicate n.toNat 0))
  | "LIKELY", [d] => .ok d
  | "UNLIKELY", [d] => .ok d
  | "LIKELIHOOD", d :: _ => .ok d
  | "PRINTF", ds => .ok (printfValue ds)
  | "FORMAT", ds => .ok (printfValue ds)
  | "CHANGES", [] => .ok (.integer session.changes)
  | "TOTAL_CHANGES", [] => .ok (.integer session.totalChanges)
  | "LAST_INSERT_ROWID", [] => .ok (.integer session.lastKey)
  | _, _ => .error (.failed ("no such function: " ++ name))
where
  substr (x : Datum) (rest : List Datum) : Except StoreError Datum :=
    if x.isNull || rest.any (·.isNull) then .ok .null
    else
      let p1 := (rest.head?.map Datum.toInt).getD 0
      let p2 := (rest.drop 1).head?.map Datum.toInt
      match x with
      | .blob b =>
        let (s, n) := substrRange b.length p1 p2
        .ok (.blob ((b.drop s).take n))
      | _ =>
        let cs := textChars x
        let (s, n) := substrRange cs.length p1 p2
        .ok (.text (String.ofList ((cs.drop s).take n)))
  trim (d : Datum) (rest : List Datum) (front back : Bool) : Except StoreError Datum :=
    if d.isNull || rest.any (·.isNull) then .ok .null
    else
      let set := match rest with
        | [s] => textChars s
        | _ => [' ']
      let cs := textChars d
      let cs := if front then dropFront set cs else cs
      let cs := if back then (dropFront set cs.reverse).reverse else cs
      .ok (.text (String.ofList cs))

/-- A running sum: the double sum, the integer sum while every value is an integer, whether a
value was not an integer, whether the integer sum overflowed, and the count of values. -/
structure Running where
  real : Binary64 := Binary64.zero
  int : Int := 0
  approx : Bool := false
  overflow : Bool := false
  count : Nat := 0

/-- Adds one value to a sum; a text counts by the number it wholly reads as, or as a double
zero when it is not a number. -/
def Running.add (s : Running) (d : Datum) : Running :=
  match d with
  | .null => s
  | _ =>
    match d.numericValue? with
    | some (.inl n) =>
      let i := s.int + n
      let overflow := s.overflow || (!s.approx && !fitsInt64 i)
      { s with real := s.real.add (Binary64.ofInt n), int := if s.approx || overflow then s.int else i,
               count := s.count + 1, overflow, approx := s.approx || overflow }
    | some (.inr x) => { s with real := s.real.add x, approx := true, count := s.count + 1 }
    | none => { s with real := s.real.add d.toReal, approx := true, count := s.count + 1 }

def distinctIn (coll : Collation) (ds : List Datum) : List Datum :=
  ds.foldl (fun acc d => if acc.any (·.sameIn coll d) then acc else acc ++ [d]) []

/-- An aggregate over the argument values of the rows it sees: `count` with no arguments
counts rows. `coll` is the collation of the first argument, for `min`, `max` and dropping
duplicates. -/
def aggregateFn (name : String) (distinct : Bool) (coll : Collation) (rows : List (List Datum)) :
    Except StoreError Datum :=
  let firsts := rows.map fun r => r.headD .null
  let vals := if distinct then distinctIn coll firsts else firsts
  match upperName name with
  | "COUNT" =>
    if rows.all (·.isEmpty) then .ok (.integer rows.length)
    else .ok (.integer (vals.filter (!·.isNull)).length)
  | "SUM" =>
    let s := vals.foldl Running.add {}
    if s.count == 0 then .ok .null
    else if s.overflow then .error (.failed "integer overflow")
    else if s.approx then .ok (realResult s.real) else .ok (.integer s.int)
  | "TOTAL" => .ok (realResult (vals.foldl Running.add {}).real)
  | "AVG" =>
    let s := vals.foldl Running.add {}
    if s.count == 0 then .ok .null
    else
      match s.real.div? (Binary64.ofInt s.count) with
      | some r => .ok (realResult r)
      | none => .ok .null
  | "MIN" => .ok (best (vals.filter (!·.isNull)) false)
  | "MAX" => .ok (best (vals.filter (!·.isNull)) true)
  | "GROUP_CONCAT" =>
    let pieces := rows.filterMap fun r =>
      match r with
      | v :: rest =>
        if v.isNull then none
        else some ((v.asText?).getD "", match rest with
          | [sep] => (sep.asText?).getD ""
          | _ => ",")
      | [] => none
    let pieces := if distinct then
        pieces.foldl (fun acc p => if acc.any (·.1 == p.1) then acc else acc ++ [p]) []
      else pieces
    match pieces with
    | [] => .ok .null
    | (v, _) :: more =>
      let text := more.foldl (fun acc (x, sep) => acc ++ sep ++ x) v
      .ok (if text.isEmpty then .null else .text text)
  | _ => .error (.failed ("no such function: " ++ name))
where
  best (ds : List Datum) (greatest : Bool) : Datum :=
    match ds with
    | [] => .null
    | d :: more =>
      more.foldl (fun b x =>
        let c := b.compareIn coll x
        if greatest then (if c == .lt then x else b) else (if c == .gt then x else b)) d

theorem distinctIn_nil (coll : Collation) : distinctIn coll [] = [] := rfl

end DataMapper.Store
