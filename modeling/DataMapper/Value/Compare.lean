import DataMapper.Failure

namespace DataMapper

/-- A numeric value seen exactly. -/
inductive NumView
  | exact (num : Int) (den : Nat)
  | inf (neg : Bool)
  | nan (decimal : Bool)

namespace Value

/-- The exact number a numeric value stands for. -/
def number? : Value → Option NumView
  | .bool b => some (.exact (if b then 1 else 0) 1)
  | .int n => some (.exact n 1)
  | .float x =>
    match x.shape with
    | .finite .. => (x.toRatio?).map (fun (n, d) => .exact n d)
    | .inf neg => some (.inf neg)
    | .nan => some (.nan false)
  | .decimal d =>
    match d with
    | .finite .. => (d.toRatio?).map (fun (n, den) => .exact n den)
    | .inf neg => some (.inf neg)
    | .nan .. => some (.nan true)
  | .member _ .integer _ _ v => number? v
  | _ => Option.none

def isDecimal : Value → Bool
  | .decimal _ => true
  | _ => false

end Value

namespace NumView

def order : NumView → NumView → Int
  | .exact a b, .exact c d =>
    let l := a * d
    let r := c * b
    if l < r then -1 else if l = r then 0 else 1
  | .inf n1, .inf n2 => if n1 = n2 then 0 else if n1 then -1 else 1
  | .inf n, _ => if n then -1 else 1
  | _, .inf n => if n then 1 else -1
  | _, _ => 0

def isNaN : NumView → Bool
  | .nan _ => true
  | _ => false

end NumView

def TimeOfDay.utcMicros (t : TimeOfDay) : Int :=
  t.micros - (match t.offset with | some o => o.micros | none => 0)

namespace Value

mutual

/-- Equality of values. -/
def pyEq : Value → Value → Bool
  | .none, .none => true
  | .str a, b => match b.asText? with | some t => a == t | Option.none => false
  | .member e1 .text n1 _ v1, b =>
    match b with
    | .member e2 _ n2 _ _ => (e1 == e2 && n1 == n2) || (match v1.asText?, b.asText? with | some x, some y => x == y | _, _ => false)
    | _ => match v1.asText?, b.asText? with | some x, some y => x == y | _, _ => false
  | .member e1 .plain n1 _ _, b =>
    match b with
    | .member e2 _ n2 _ _ => e1 == e2 && n1 == n2
    | _ => false
  | .bytes a, .bytes b => a == b
  | .date a, .date b => a == b
  | .time a, .time b =>
    match a.offset, b.offset with
    | some _, some _ => a.utcMicros == b.utcMicros
    | Option.none, Option.none => a.micros == b.micros
    | _, _ => false
  | .datetime a, .datetime b =>
    match a.time.offset, b.time.offset with
    | some _, some _ => a.utcMicros == b.utcMicros
    | Option.none, Option.none => a.wallMicros == b.wallMicros
    | _, _ => false
  | .uuid a, .uuid b => a == b
  | .list a, .list b => eqAll a b
  | .tuple a, .tuple b => eqAll a b
  | .dict a, .dict b => a.length == b.length && dictSub a b
  | a, b =>
    match a.number?, b.number? with
    | some x, some y => !x.isNaN && !y.isNaN && x.order y == 0
    | _, _ =>
      match a, b with
      | .member e1 _ n1 _ _, .member e2 _ n2 _ _ => e1 == e2 && n1 == n2
      | _, _ => false

def eqAll : List Value → List Value → Bool
  | [], [] => true
  | x :: xs, y :: ys => pyEq x y && eqAll xs ys
  | _, _ => false

def dictSub : List (Value × Value) → List (Value × Value) → Bool
  | [], _ => true
  | (k, v) :: rest, other => lookupEq k v other && dictSub rest other

def lookupEq (k v : Value) : List (Value × Value) → Bool
  | [] => false
  | (k', v') :: rest => if pyEq k k' then pyEq v v' else lookupEq k v rest

end

def containedIn (v : Value) (xs : List Value) : Bool := xs.any (pyEq v)

mutual

/-- The failure of hashing a value, if it cannot be hashed: lists and dictionaries (also
inside tuples), and signaling decimal NaNs. -/
def hashFailure? : Value → Option Failure
  | .list _ => some (.type "unhashable type: 'list'")
  | .dict _ => some (.type "unhashable type: 'dict'")
  | .decimal (.nan _ true _) => some (.type "Cannot hash a signaling NaN value")
  | .tuple xs => hashFailureIn? xs
  | _ => Option.none

def hashFailureIn? : List Value → Option Failure
  | [] => Option.none
  | x :: xs =>
    match hashFailure? x with
    | some f => some f
    | Option.none => hashFailureIn? xs

end

def isSignaling : Value → Bool
  | .decimal (.nan _ true _) => true
  | _ => false

/-- Whether comparing two values for equality is an invalid decimal operation: a signaling
NaN against any number. -/
def signals (a b : Value) : Bool :=
  (isSignaling a && b.number?.isSome) || (isSignaling b && a.number?.isSome)

mutual

/-- Whether `a == b` meets a signaling comparison on its way. Lists of unequal lengths compare
no items; tuples compare items in order up to the first unequal pair; dictionaries of one size
compare the value of each key of the first, in order, up to a key the second lacks or the
first unequal pair. -/
def signalsIn : Value → Value → Bool
  | .list xs, .list ys => xs.length == ys.length && signalsInSeq xs ys
  | .tuple xs, .tuple ys => signalsInSeq xs ys
  | .dict xs, .dict ys => xs.length == ys.length && signalsInDict xs ys
  | a, b => signals a b

def signalsInSeq : List Value → List Value → Bool
  | x :: xs, y :: ys => signalsIn x y || (pyEq x y && signalsInSeq xs ys)
  | _, _ => false

def signalsInDict : List (Value × Value) → List (Value × Value) → Bool
  | [], _ => false
  | (k, v) :: rest, other =>
    match other.find? (fun e => pyEq k e.1) with
    | some (_, v') => signalsIn v v' || (pyEq v v' && signalsInDict rest other)
    | Option.none => false

end

/-- `a == b`, which raises an invalid decimal operation when it meets a signaling
comparison. -/
def eqChecked (a b : Value) : Except Failure Bool :=
  if signalsIn a b then .error .invalidOperation else .ok (pyEq a b)

/-- Texts of the comparison operators. -/
inductive Rel
  | lt
  | gt
  deriving DecidableEq

def Rel.symbol : Rel → String
  | .lt => "<"
  | .gt => ">"

def Rel.holds : Rel → Int → Bool
  | .lt, o => o < 0
  | .gt, o => o > 0

def orderList {α} [Ord α] : List α → List α → Int
  | [], [] => 0
  | [], _ => -1
  | _, [] => 1
  | a :: as, b :: bs =>
    match compare a b with
    | .lt => -1
    | .gt => 1
    | .eq => orderList as bs

mutual

/-- `a r b` where `r` is `<` or `>`, or why the two cannot be ordered. -/
def relate (r : Rel) (a b : Value) : Except Failure Bool :=
  match a.number?, b.number? with
  | some x, some y =>
    if (a.isDecimal || b.isDecimal) && (x.isNaN || y.isNaN) then .error .invalidOperation
    else if x.isNaN || y.isNaN then .ok false
    else .ok (r.holds (x.order y))
  | _, _ =>
    match a.asText?, b.asText? with
    | some s, some t => .ok (r.holds (orderList (s.toList.map Char.toNat) (t.toList.map Char.toNat)))
    | _, _ =>
      match a, b with
      | .bytes x, .bytes y => .ok (r.holds (orderList (x.map UInt8.toNat) (y.map UInt8.toNat)))
      | .date x, .date y => .ok (r.holds (orderList [x.year, x.month, x.day] [y.year, y.month, y.day]))
      | .datetime _, .date _ | .date _, .datetime _ =>
        .error (.type "can't compare datetime.datetime to datetime.date")
      | .datetime x, .datetime y =>
        match x.time.offset, y.time.offset with
        | some _, some _ => .ok (r.holds (orderList [x.utcMicros] [y.utcMicros]))
        | Option.none, Option.none => .ok (r.holds (orderList [x.wallMicros] [y.wallMicros]))
        | _, _ => .error (.type "can't compare offset-naive and offset-aware datetimes")
      | .time x, .time y =>
        match x.offset, y.offset with
        | some _, some _ => .ok (r.holds (orderList [x.utcMicros] [y.utcMicros]))
        | Option.none, Option.none => .ok (r.holds (orderList [x.micros] [y.micros]))
        | _, _ => .error (.type "can't compare offset-naive and offset-aware times")
      | .uuid x, .uuid y => .ok (r.holds (orderList [x] [y]))
      | .list xs, .list ys => relateSeq r xs ys
      | .tuple xs, .tuple ys => relateSeq r xs ys
      | _, _ => .error (Failure.unsupported r.symbol a b)

def relateSeq (r : Rel) : List Value → List Value → Except Failure Bool
  | [], [] => .ok false
  | [], _ => .ok (r == .lt)
  | _, [] => .ok (r == .gt)
  | x :: xs, y :: ys => if pyEq x y then relateSeq r xs ys else relate r x y

end

end Value

end DataMapper
