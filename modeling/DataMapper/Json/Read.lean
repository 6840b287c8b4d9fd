import DataMapper.Value.Basic
import DataMapper.Number.Parse
import DataMapper.Text.Surrogate

namespace DataMapper.Json

def isJsonSpace (c : Char) : Bool := c == ' ' || c == '\t' || c == '\n' || c == '\r'

def skipSpace (cs : List Char) : List Char := cs.dropWhile isJsonSpace

def putKey (kvs : List (Value × Value)) (k : String) (v : Value) : List (Value × Value) :=
  if kvs.any (fun (k', _) => match k' with | .str s => s == k | _ => false) then
    kvs.map (fun (k', v') => match k' with | .str s => if s == k then (k', v) else (k', v') | _ => (k', v'))
  else kvs ++ [(.str k, v)]

/-- Reads four hexadecimal digits. -/
def hex4 (cs : List Char) : Option (Nat × List Char) :=
  match cs with
  | a :: b :: c :: d :: rest =>
    let v := [a, b, c, d].foldlM (fun acc ch =>
      if ch.isDigit then some (acc*16+(ch.toNat-48))
      else if 'a' ≤ ch ∧ ch ≤ 'f' then some (acc*16+(ch.toNat-87))
      else if 'A' ≤ ch ∧ ch ≤ 'F' then some (acc*16+(ch.toNat-55))
      else none) 0
    v.map (·, rest)
  | _ => none

def codeChar (n : Nat) : Char :=
  if 0xD800 ≤ n ∧ n ≤ 0xDFFF then Text.standIn n else Char.ofNat n

/-- Reads the rest of a string after its opening quote, gathering characters in reverse. -/
def readString : Nat → List Char → List Char → Option (String × List Char)
  | 0, _, _ => none
  | _+1, _, [] => none
  | _+1, acc, '"' :: rest => some (String.ofList acc.reverse, rest)
  | fuel+1, acc, '\\' :: rest =>
    match rest with
    | '"' :: r => readString fuel ('"' :: acc) r
    | '\\' :: r => readString fuel ('\\' :: acc) r
    | '/' :: r => readString fuel ('/' :: acc) r
    | 'b' :: r => readString fuel ('\x08' :: acc) r
    | 'f' :: r => readString fuel ('\x0c' :: acc) r
    | 'n' :: r => readString fuel ('\n' :: acc) r
    | 'r' :: r => readString fuel ('\r' :: acc) r
    | 't' :: r => readString fuel ('\t' :: acc) r
    | 'u' :: r =>
      match hex4 r with
      | none => none
      | some (hi, r2) =>
        if 0xD800 ≤ hi ∧ hi ≤ 0xDBFF then
          match r2 with
          | '\\' :: 'u' :: r3 =>
            match hex4 r3 with
            | some (lo, r4) =>
              if 0xDC00 ≤ lo ∧ lo ≤ 0xDFFF then
                readString fuel (Char.ofNat (0x10000 + (hi-0xD800)*0x400 + (lo-0xDC00)) :: acc) r4
              else readString fuel (codeChar lo :: codeChar hi :: acc) r4
            | none => none
          | _ => readString fuel (codeChar hi :: acc) r2
        else readString fuel (codeChar hi :: acc) r2
    | _ => none
  | fuel+1, acc, c :: rest => if c.toNat < 32 then none else readString fuel (c :: acc) rest

/-- Reads a number: an integer unless it has a fraction or an exponent. -/
def readNumber (cs : List Char) : Option (Value × List Char) :=
  let (neg, body) := match cs with
    | '-' :: r => (true, r)
    | r => (false, r)
  let intPart := body.takeWhile Char.isDigit
  let r1 := body.dropWhile Char.isDigit
  if intPart.isEmpty then none
  else if intPart.length > 1 && intPart.head? == some '0' then
    some (.int 0, intPart.tail ++ r1)
  else
    let (frac, r2) := match r1 with
      | '.' :: r =>
        let ds := r.takeWhile Char.isDigit
        if ds.isEmpty then ([], r1) else ('.' :: ds, r.dropWhile Char.isDigit)
      | _ => ([], r1)
    let (expo, r3) := match r2 with
      | e :: r =>
        if e == 'e' || e == 'E' then
          let (sg, r') := match r with
            | '+' :: x => (['+'], x)
            | '-' :: x => (['-'], x)
            | x => ([], x)
          let ds := r'.takeWhile Char.isDigit
          if ds.isEmpty then ([], r2) else (e :: sg ++ ds, r'.dropWhile Char.isDigit)
        else ([], r2)
      | [] => ([], r2)
    let text := (if neg then ['-'] else []) ++ intPart ++ frac ++ expo
    if frac.isEmpty && expo.isEmpty then
      match readInteger (String.ofList text) 10 with
      | .ok n => some (.int n, r3)
      | .error _ => none
    else (Binary64.ofText? (String.ofList text)).map (fun x => (.float x, r3))

/-- Reads one value; `fuel` bounds the nesting. -/
def readValue : Nat → List Char → Option (Value × List Char)
  | 0, _ => none
  | fuel+1, cs =>
    match skipSpace cs with
    | '{' :: rest =>
      match skipSpace rest with
      | '}' :: r => some (.dict [], r)
      | r => readMembers fuel [] r
    | '[' :: rest =>
      match skipSpace rest with
      | ']' :: r => some (.list [], r)
      | r => readItems fuel [] r
    | '"' :: rest => (readString rest.length [] rest).map (fun (s, r) => (.str s, r))
    | 'n' :: 'u' :: 'l' :: 'l' :: r => some (.none, r)
    | 't' :: 'r' :: 'u' :: 'e' :: r => some (.bool true, r)
    | 'f' :: 'a' :: 'l' :: 's' :: 'e' :: r => some (.bool false, r)
    | 'N' :: 'a' :: 'N' :: r => some (.float Binary64.nan, r)
    | 'I' :: 'n' :: 'f' :: 'i' :: 'n' :: 'i' :: 't' :: 'y' :: r => some (.float Binary64.posInf, r)
    | '-' :: 'I' :: 'n' :: 'f' :: 'i' :: 'n' :: 'i' :: 't' :: 'y' :: r => some (.float Binary64.negInf, r)
    | r => readNumber r
where
  readItems : Nat → List Value → List Char → Option (Value × List Char)
    | 0, _, _ => none
    | fuel+1, acc, cs =>
      match readValue fuel cs with
      | none => none
      | some (v, r) =>
        match skipSpace r with
        | ',' :: r' => readItems fuel (v :: acc) r'
        | ']' :: r' => some (.list (v :: acc).reverse, r')
        | _ => none
  readMembers : Nat → List (Value × Value) → List Char → Option (Value × List Char)
    | 0, _, _ => none
    | fuel+1, acc, cs =>
      match skipSpace cs with
      | '"' :: r =>
        match readString r.length [] r with
        | none => none
        | some (k, r1) =>
          match skipSpace r1 with
          | ':' :: r2 =>
            match readValue fuel r2 with
            | none => none
            | some (v, r3) =>
              let acc := putKey acc k v
              match skipSpace r3 with
              | ',' :: r4 => readMembers fuel acc r4
              | '}' :: r4 => some (.dict acc, r4)
              | _ => none
          | _ => none
      | _ => none

def read? (s : String) : Option Value :=
  let cs := s.toList
  match readValue (3*cs.length+3) cs with
  | some (v, rest) => if (skipSpace rest).isEmpty then some v else none
  | none => none

end DataMapper.Json
