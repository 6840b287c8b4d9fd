import DataMapper.Store.Collation
import DataMapper.Store.Syntax

namespace DataMapper.Store

def ofBool (b : Bool) : Datum := .integer (if b then 1 else 0)

/-- An operand as a comparison under an affinity sees it, given the other operand. -/
def forComparison (aff : Option Affinity) (other : Datum) : Datum → Datum
  | .text s =>
    match aff with
    | some a => if a.isNumeric then (numberOf? s).getD (.text s) else .text s
    | none => .text s
  | .integer n =>
    match aff, other with
    | some .text, .text _ => .text (toString n)
    | _, _ => .integer n
  | .real x =>
    match aff, other with
    | some .text, .text _ => .text (realText x)
    | _, _ => .real x
  | d => d

/-- The order of two operands of a comparison, after its affinity, under its collation;
`none` when either is nothing. -/
def compareUnder (aff : Option Affinity) (coll : Collation) (a b : Datum) : Option Ordering :=
  let x := forComparison aff b a
  let y := forComparison aff a b
  if x.isNull || y.isNull then none else some (x.compareIn coll y)

/-- Compares two values for an ordering or equality operator. -/
def compareOp (op : BinaryOp) (aff : Option Affinity) (coll : Collation) (a b : Datum) : Datum :=
  match op with
  | .is => ofBool (a.isNull && b.isNull || compareUnder aff coll a b == some .eq)
  | .isNot => ofBool !(a.isNull && b.isNull || compareUnder aff coll a b == some .eq)
  | _ =>
    match compareUnder aff coll a b with
    | none => .null
    | some c =>
      match op with
      | .eq => ofBool (c == .eq)
      | .ne => ofBool (c != .eq)
      | .lt => ofBool (c == .lt)
      | .le => ofBool (c != .gt)
      | .gt => ofBool (c == .gt)
      | .ge => ofBool (c != .lt)
      | _ => .null

def andValues (x y : Datum) : Datum :=
  match x.truth?, y.truth? with
  | some false, _ => ofBool false
  | _, some false => ofBool false
  | some true, some true => ofBool true
  | _, _ => .null

def orValues (x y : Datum) : Datum :=
  match x.truth?, y.truth? with
  | some true, _ => ofBool true
  | _, some true => ofBool true
  | some false, some false => ofBool false
  | _, _ => .null

def realResult (x : Binary64) : Datum := if x.isNaN then .null else .real x

def asReal : Sum Int Binary64 → Binary64
  | .inl n => Binary64.ofInt n
  | .inr x => x

def intResult (exact : Int) (onDoubles : Binary64) : Datum :=
  if fitsInt64 exact then .integer exact else realResult onDoubles

/-- The arithmetic operators on two values. -/
def arithmetic (op : BinaryOp) (a b : Datum) : Datum :=
  if a.isNull || b.isNull then .null
  else
    match a.arith, b.arith with
    | .inl x, .inl y =>
      match op with
      | .add => intResult (x + y) ((Binary64.ofInt x).add (Binary64.ofInt y))
      | .sub => intResult (x - y) ((Binary64.ofInt x).sub (Binary64.ofInt y))
      | .mul => intResult (x * y) ((Binary64.ofInt x).mul (Binary64.ofInt y))
      | .div =>
        if y == 0 then .null
        else if x == int64Min && y == -1 then
          match (Binary64.ofInt x).div? (Binary64.ofInt y) with
          | some r => realResult r
          | none => .null
        else .integer (x.tdiv y)
      | .rem => if y == 0 then .null else if y == -1 then .integer 0 else .integer (x.tmod y)
      | _ => .null
    | p, q =>
      let x := asReal p
      let y := asReal q
      match op with
      | .add => realResult (x.add y)
      | .sub => realResult (x.sub y)
      | .mul => realResult (x.mul y)
      | .div =>
        match y.toRatio? with
        | some (0, _) => .null
        | _ => match x.div? y with
          | some r => realResult r
          | none => realResult (Binary64.nan)
      | .rem =>
        let ix := a.toInt
        let iy := b.toInt
        if iy == 0 then .null
        else realResult (Binary64.ofInt (ix.tmod (if iy == -1 then 1 else iy)))
      | _ => .null

def wrap64 (n : Int) : Int :=
  let m := n % Int.pow 2 64
  if m ≥ Int.pow 2 63 then m - Int.pow 2 64 else m

/-- The bit operators and shifts on two values. -/
def bitwise (op : BinaryOp) (a b : Datum) : Datum :=
  if a.isNull || b.isNull then .null
  else
    let x := a.toInt
    let y := b.toInt
    let shiftLeft (x : Int) (k : Nat) : Int := if k ≥ 64 then 0 else wrap64 (x * Int.pow 2 k)
    let shiftRight (x : Int) (k : Nat) : Int :=
      if k ≥ 64 then (if x ≥ 0 then 0 else -1) else x / Int.pow 2 k
    let bits (n : Int) : Nat := (n % Int.pow 2 64).toNat
    match op with
    | .bitAnd => .integer (wrap64 ((bits x &&& bits y : Nat) : Int))
    | .bitOr => .integer (wrap64 ((bits x ||| bits y : Nat) : Int))
    | .shiftLeft => .integer (if y ≥ 0 then shiftLeft x y.toNat else shiftRight x y.natAbs)
    | .shiftRight => .integer (if y ≥ 0 then shiftRight x y.toNat else shiftLeft x y.natAbs)
    | _ => .null

def concatenate (a b : Datum) : Datum :=
  match a.asText?, b.asText? with
  | some x, some y => .text (x ++ y)
  | _, _ => .null

def unaryOp : UnaryOp → Datum → Datum
  | .plus, d => d
  | .negate, d => arithmetic .sub (.integer 0) d
  | .bitNot, .null => .null
  | .bitNot, d => .integer (-d.toInt - 1)
  | .not, d =>
    match d.truth? with
    | some b => ofBool !b
    | none => .null

def foldChar (c : Char) : Char := if c.toNat < 128 then c.toLower else c

/-- Whether a text matches a `LIKE` pattern, ignoring ASCII case, with an optional escape
character. -/
def likeMatch (esc : Option Char) : List Char → List Char → Bool
  | [], s => s.isEmpty
  | p :: ps, s =>
    if some p == esc then
      match ps, s with
      | q :: qs, c :: cs => foldChar c == foldChar q && likeMatch esc qs cs
      | _, _ => false
    else if p == '%' then (List.range (s.length + 1)).any fun i => likeMatch esc ps (s.drop i)
    else if p == '_' then
      match s with
      | _ :: cs => likeMatch esc ps cs
      | [] => false
    else
      match s with
      | c :: cs => foldChar c == foldChar p && likeMatch esc ps cs
      | [] => false

/-- Reads a bracketed class of a `GLOB` pattern after its `[`: whether the character is in it,
and the pattern after its `]`; `none` when the class never closes. -/
def globClass (c : Char) (ps : List Char) : Option (Bool × List Char) :=
  let (negated, ps) := match ps with
    | '^' :: rest => (true, rest)
    | rest => (false, rest)
  let (first, ps) := match ps with
    | ']' :: rest => ([']'], rest)
    | rest => ([], rest)
  match (ps.findIdx? (· == ']')) with
  | none => none
  | some i =>
    let body := first ++ ps.take i
    let rest := ps.drop (i + 1)
    let rec hit : List Char → Bool
      | a :: '-' :: b :: more => (a ≤ c && c ≤ b) || hit more
      | a :: more => a == c || hit more
      | [] => false
    some (hit body != negated, rest)

/-- Whether a text matches a `GLOB` pattern. -/
def globMatch : List Char → List Char → Bool
  | [], s => s.isEmpty
  | p :: ps, s =>
    if p == '*' then (List.range (s.length + 1)).any fun i => globMatch ps (s.drop i)
    else if p == '?' then
      match s with
      | _ :: cs => globMatch ps cs
      | [] => false
    else if p == '[' then
      match s with
      | c :: cs =>
        match globClass c ps with
        | some (true, _) =>
          let k := match ps.findIdx? (· == ']') with
            | some i => i
            | none => ps.length
          globMatch (ps.drop (k + 1)) cs
        | _ => false
      | [] => false
    else
      match s with
      | c :: cs => c == p && globMatch ps cs
      | [] => false
termination_by pat => pat.length
decreasing_by
  all_goals
    simp only [List.length_drop, List.length_cons]
    omega

/-- A value cast to a declared type. -/
def castTo (ty : String) : Datum → Datum
  | .null => .null
  | d =>
    match Affinity.ofCast ty with
    | .text => match d.asText? with
      | some s => .text s
      | none => .null
    | .integer => .integer d.toInt
    | .real => realResult d.toReal
    | .numeric => d.numerify
    | .blob =>
      match d with
      | .blob b => .blob b
      | _ => match d.asText? with
        | some s => .blob s.toUTF8.toList
        | none => .null

/-- Membership of a value in a list of candidates, each compared with its own affinity and
collation: true on a match; nothing when the value or a candidate is nothing and nothing
matched; false otherwise. -/
def membership (negated : Bool) (x : Datum) (ys : List (Datum × Option Affinity × Collation)) :
    Datum :=
  if ys.isEmpty then ofBool negated
  else if x.isNull then .null
  else
    let hit := ys.any fun (y, aff, coll) => compareUnder aff coll x y == some .eq
    if hit then ofBool !negated
    else if ys.any (·.1.isNull) then .null
    else ofBool negated

theorem andValues_false_left (y : Datum) : andValues (ofBool false) y = ofBool false := by
  simp [andValues, ofBool, Datum.truth?]

end DataMapper.Store
