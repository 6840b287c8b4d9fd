import DataMapper.Store.Datum

namespace DataMapper.Store

/-- The flags and sizes of one conversion. -/
structure Conversion where
  leftJustify : Bool := false
  signChar : Option Char := none
  alternate : Bool := false
  altForm2 : Bool := false
  zeroPad : Bool := false
  thousands : Bool := false
  width : Nat := 0
  precision : Option Nat := none

abbrev Formatting := StateM (List Datum)

def takeArg : Formatting (Option Datum) := do
  match ← get with
  | [] => pure none
  | a :: rest => set rest; pure (some a)

def intArg : Formatting Int := do pure (((← takeArg).map Datum.toInt).getD 0)

def realArg : Formatting Binary64 := do pure (((← takeArg).map Datum.toReal).getD Binary64.zero)

def textArg : Formatting (Option String) := do pure ((← takeArg).bind Datum.asText?)

def toInt32 (n : Int) : Int :=
  let m := n % Int.pow 2 32
  if m ≥ Int.pow 2 31 then m - Int.pow 2 32 else m

def byteSize (c : Char) : Nat := (String.singleton c).utf8ByteSize

def takeBytes (n : Nat) : List Char → List Char
  | [] => []
  | c :: cs => if byteSize c ≤ n then c :: takeBytes (n - byteSize c) cs else []

def padded (cv : Conversion) (byChars : Bool) (body : List Char) : List Char :=
  let size := if byChars then body.length else body.foldl (fun n c => n + byteSize c) 0
  if size < cv.width then
    let pad := List.replicate (cv.width - size) ' '
    if cv.leftJustify then body ++ pad else pad ++ body
  else body

/-- The digits of a number in a base, upper or lower case, at least one. -/
def radixDigits (base : Nat) (upper : Bool) (n : Nat) : List Char :=
  go n (n + 1) []
where
  /-- The digits before the ones already written. -/
  go (n : Nat) : Nat → List Char → List Char
    | 0, acc => acc
    | f + 1, acc =>
      let acc := (if n % base < 10 then Char.ofNat (48 + n % base)
        else Char.ofNat ((if upper then 55 else 87) + n % base)) :: acc
      if n / base == 0 || base < 2 then acc else go (n / base) f acc

def groupThousands (ds : List Char) : List Char :=
  let rev := ds.reverse
  let grouped := rev.zipIdx.flatMap fun (c, i) => if i > 0 && i % 3 == 0 then [',', c] else [c]
  grouped.reverse

def ordinalSuffix (n : Nat) : List Char :=
  let x := n % 10
  let x := if x ≥ 4 || (n / 10) % 10 == 1 then 0 else x
  match x with
  | 1 => ['s', 't']
  | 2 => ['n', 'd']
  | 3 => ['r', 'd']
  | _ => ['t', 'h']

/-- An integer conversion: the magnitude in a base, with a sign for signed conversions. -/
def integerText (cv : Conversion) (letter : Char) (v : Int) : List Char :=
  let signed := letter == 'd' || letter == 'i' || letter == 'r'
  let split : Nat × Option Char :=
    if signed then (if v < 0 then (v.natAbs, some '-') else (v.toNat, cv.signChar))
    else ((v % Int.pow 2 64).toNat, none)
  let (magnitude, signPart) := split
  let radix : Nat × Bool × List Char := match letter with
    | 'x' => (16, false, ['0', 'x'])
    | 'X' => (16, true, ['0', 'X'])
    | 'p' => (16, true, ['0', 'x'])
    | 'o' => (8, false, ['0'])
    | _ => (10, false, [])
  let (base, upper, alt) := radix
  let alternate := cv.alternate && magnitude != 0
  let thousands := cv.thousands && (letter == 'd' || letter == 'i' || letter == 'u')
  let precision := cv.precision.getD 0
  let precision :=
    if cv.zeroPad && (precision : Int) < (cv.width : Int) - (if signPart.isSome then 1 else 0) then
      cv.width - (if signPart.isSome then 1 else 0)
    else precision
  let digits := radixDigits base upper magnitude
  let digits := if letter == 'r' then digits ++ ordinalSuffix magnitude else digits
  let digits := List.replicate (precision - digits.length) '0' ++ digits
  let digits := if thousands then groupThousands digits else digits
  let withSign := signPart.toList ++ digits
  if alternate then alt ++ withSign else withSign

/-- A text with its quote characters doubled, taken up to a precision (in characters with the
`!` flag, else in bytes), quoted when asked. -/
def quotedText (cv : Conversion) (q : Char) (quote : Bool) (text : Option String) : List Char :=
  let body := (text.getD (if quote then "NULL" else "(NULL)")).toList
  let body := match cv.precision with
    | some p => if cv.altForm2 then body.take p else takeBytes p body
    | none => body
  let escaped := body.flatMap fun c => if c == q then [c, c] else [c]
  if quote && text.isSome then q :: escaped ++ [q] else escaped

/-- The text of one conversion, or `none` when its letter ends the output. -/
def convert (cv : Conversion) (letter : Char) : Formatting (Option (List Char)) := do
  match letter with
  | 'd' | 'i' | 'u' | 'x' | 'X' | 'o' | 'p' | 'r' =>
    let v ← intArg
    pure (some (padded cv false (integerText cv letter v)))
  | 'f' | 'e' | 'E' | 'g' | 'G' =>
    let x ← realArg
    let style : RealStyle := match letter with
      | 'f' => .fixed
      | 'e' | 'E' => .exponent
      | _ => .general
    let spec : RealSpec :=
      { style := style, precision := some (cv.precision.getD 6),
        upper := letter == 'E' || letter == 'G', alternate := cv.alternate,
        altForm2 := cv.altForm2, zeroPad := cv.zeroPad, leftJustify := cv.leftJustify,
        signChar := cv.signChar, width := cv.width }
    let text := writeReal spec x
    pure (some (padded cv false text.toList))
  | 's' | 'z' =>
    let body := ((← textArg).getD "").toList
    let body := match cv.precision with
      | some p => if cv.altForm2 then body.take p else takeBytes p body
      | none => body
    pure (some (padded cv cv.altForm2 body))
  | 'c' =>
    let ch := match ← textArg with
      | some s => s.toList.headD (Char.ofNat 0)
      | none => Char.ofNat 0
    let copies := max 1 (cv.precision.getD 1)
    pure (some (padded cv true (List.replicate copies ch)))
  | 'q' => pure (some (padded cv cv.altForm2 (quotedText cv '\'' false (← textArg))))
  | 'Q' => pure (some (padded cv cv.altForm2 (quotedText cv '\'' true (← textArg))))
  | 'w' => pure (some (padded cv cv.altForm2 (quotedText cv '"' false (← textArg))))
  | '%' => pure (some (padded cv false ['%']))
  | 'n' => pure (some [])
  | _ => pure none

/-- Reads the flags, width, precision and length letters of a conversion, from the character
after its `%`; gives the conversion, its letter (none when the text ended first) and the text
after it. -/
def readConversion : Nat → Conversion → List Char →
    Formatting (Conversion × Option Char × List Char)
  | 0, cv, cs => pure (cv, none, cs)
  | _ + 1, cv, [] => pure (cv, none, [])
  | f + 1, cv, c :: rest =>
    match c with
    | '-' => readConversion f { cv with leftJustify := true } rest
    | '+' => readConversion f { cv with signChar := some '+' } rest
    | ' ' => readConversion f { cv with signChar := some ' ' } rest
    | '#' => readConversion f { cv with alternate := true } rest
    | '!' => readConversion f { cv with altForm2 := true } rest
    | '0' => readConversion f { cv with zeroPad := true } rest
    | ',' => readConversion f { cv with thousands := true } rest
    | 'l' =>
      match rest with
      | 'l' :: more => pure (cv, more.head?, more.drop 1)
      | _ => pure (cv, rest.head?, rest.drop 1)
    | '*' => do
      let w := toInt32 (← intArg)
      let width := if w < 0 then (if w ≥ -2147483647 then w.natAbs else 0) else w.toNat
      let cv := { cv with leftJustify := cv.leftJustify || w < 0, width := width }
      match rest with
      | '.' :: _ | 'l' :: _ => readConversion f cv rest
      | _ => pure (cv, rest.head?, rest.drop 1)
    | '.' =>
      match rest with
      | '*' :: more => do
        let p := toInt32 (← intArg)
        let given : Option Nat :=
          if p < 0 then (if p ≥ -2147483647 then some p.natAbs else none) else some p.toNat
        let cv := { cv with precision := given }
        match more with
        | 'l' :: _ => readConversion f cv more
        | _ => pure (cv, more.head?, more.drop 1)
      | _ =>
        let ds := rest.takeWhile Char.isDigit
        let more := rest.dropWhile Char.isDigit
        let cv := { cv with precision := some (digitsValue ds % Nat.pow 2 31) }
        match more with
        | 'l' :: _ => readConversion f cv more
        | _ => pure (cv, more.head?, more.drop 1)
    | _ =>
      if c.isDigit then
        let ds := c :: rest.takeWhile Char.isDigit
        let more := rest.dropWhile Char.isDigit
        let cv := { cv with width := digitsValue ds % Nat.pow 2 31 }
        match more with
        | '.' :: _ | 'l' :: _ => readConversion f cv more
        | _ => pure (cv, more.head?, more.drop 1)
      else pure (cv, some c, rest)

/-- Writes a format text, consuming arguments, until it ends or a conversion stops it;
`none` when nothing at all was written, not even an empty piece. -/
def formatText : Nat → List Char → Formatting (Option (List Char))
  | 0, _ => pure none
  | _ + 1, [] => pure none
  | f + 1, c :: rest =>
    if c != '%' then do
      let lit := (c :: rest).takeWhile (· != '%')
      pure (some (lit ++ ((← formatText f ((c :: rest).dropWhile (· != '%'))).getD [])))
    else
      match rest with
      | [] => pure (some ['%'])
      | _ => do
        let (cv, letter, after) ← readConversion (rest.length + 1) {} rest
        match letter with
        | none => pure none
        | some l =>
          match ← convert cv l with
          | none => pure none
          | some text => pure (some (text ++ ((← formatText f after).getD [])))

/-- The `printf` function: the format (nothing gives nothing) and the arguments. A format
that writes nothing at all gives nothing, while one that writes only empty pieces gives the
empty text. -/
def printfValue (args : List Datum) : Datum :=
  match args with
  | fmt :: rest =>
    match fmt.asText? with
    | some s =>
      let cs := s.toList
      match ((formatText (cs.length + 1) cs).run rest).1 with
      | some out => .text (String.ofList out)
      | none => .null
    | none => .null
  | [] => .null

end DataMapper.Store
