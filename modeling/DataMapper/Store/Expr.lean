import DataMapper.Store.Syntax

namespace DataMapper.Store

def upperName (s : String) : String := s.map Char.toUpper

def Collation.name : Collation → String
  | .binary => "BINARY"
  | .nocase => "NOCASE"
  | .rtrim => "RTRIM"

/-- What a function name with a number of arguments is. -/
inductive FnKind
  | aggregate
  | window
  | scalar
  | wrongCount
  | unknown
  deriving DecidableEq

/-- The kind of a call: the aggregates `count`, `sum`, `total`, `avg`, `min` and `max` with one
argument, and `group_concat`; the window functions; the scalar functions with their numbers of
arguments. -/
def fnKind (name : String) (n : Nat) : FnKind :=
  let check (ok : Bool) : FnKind := if ok then .scalar else .wrongCount
  let windowed (ok : Bool) : FnKind := if ok then .window else .wrongCount
  match upperName name with
  | "COUNT" => if n ≤ 1 then .aggregate else .wrongCount
  | "SUM" | "TOTAL" | "AVG" => if n == 1 then .aggregate else .wrongCount
  | "MIN" | "MAX" => if n == 1 then .aggregate else check (n ≥ 2)
  | "GROUP_CONCAT" => if n == 1 || n == 2 then .aggregate else .wrongCount
  | "ROW_NUMBER" | "RANK" | "DENSE_RANK" | "PERCENT_RANK" | "CUME_DIST" => windowed (n == 0)
  | "NTILE" | "FIRST_VALUE" | "LAST_VALUE" => windowed (n == 1)
  | "NTH_VALUE" => windowed (n == 2)
  | "LAG" | "LEAD" => windowed (1 ≤ n && n ≤ 3)
  | "ABS" | "LENGTH" | "LOWER" | "UPPER" | "TYPEOF" | "HEX" | "QUOTE" | "UNICODE" | "SIGN"
  | "ZEROBLOB" | "LIKELY" | "UNLIKELY" => check (n == 1)
  | "COALESCE" => check (n ≥ 2)
  | "IFNULL" | "NULLIF" | "INSTR" | "GLOB" | "LIKELIHOOD" => check (n == 2)
  | "SUBSTR" | "SUBSTRING" => check (n == 2 || n == 3)
  | "TRIM" | "LTRIM" | "RTRIM" | "ROUND" => check (n == 1 || n == 2)
  | "REPLACE" | "IIF" => check (n == 3)
  | "LIKE" => check (n == 2 || n == 3)
  | "CHAR" | "PRINTF" | "FORMAT" => .scalar
  | "CHANGES" | "TOTAL_CHANGES" | "LAST_INSERT_ROWID" => check (n == 0)
  | _ => .unknown

def needsCollation (name : String) : Bool :=
  ["MIN", "MAX", "NULLIF"].contains (upperName name)

namespace Expr

/-- The expressions of a window: partition terms, order terms and frame offsets. -/
def windowParts : Option Window → List Expr
  | some (.mk _ _ partition order frame) =>
    partition ++ order.map (·.1) ++
      match frame with
      | some (.mk _ s e _) => boundParts s ++ boundParts e
      | none => []
  | none => []
where
  /-- The offset of a frame end. -/
  boundParts : Bound → List Expr
    | .preceding n => [n]
    | .following n => [n]
    | _ => []

/-- The parts of an expression that belong to the same select. -/
def children : Expr → List Expr
  | .unary _ a => [a]
  | .collate a _ => [a]
  | .isNull _ a => [a]
  | .cast a _ => [a]
  | .binary _ a b => [a, b]
  | .like _ _ a p e => [a, p] ++ e.toList
  | .between _ a lo hi => [a, lo, hi]
  | .inList _ a items => a :: items
  | .inQuery _ a _ => [a]
  | .call _ _ args filter win => args ++ filter.toList ++ windowParts win
  | .countAll filter win => filter.toList ++ windowParts win
  | .cases b arms o => b.toList ++ arms.flatMap (fun (c, v) => [c, v]) ++ o.toList
  | _ => []

def anyNode (p : Expr → Bool) : Nat → Expr → Bool
  | 0, _ => false
  | f + 1, e => p e || e.children.any (anyNode p f)

def isAggregateCall : Expr → Bool
  | .call fn _ args _ none => fnKind fn args.length == .aggregate
  | .countAll _ none => true
  | _ => false

def hasAggregate (fuel : Nat) (e : Expr) : Bool := anyNode isAggregateCall fuel e

/-- Whether an expression calls an aggregate with `DISTINCT` on other than exactly one
argument, outside any subquery: such a call has no single value to tell apart. -/
def hasDistinctMisfit (fuel : Nat) (e : Expr) : Bool :=
  anyNode (fun x => match x with
    | .call fn true args _ none => fnKind fn args.length == .aggregate && args.length != 1
    | _ => false) fuel e

/-- Whether an expression is a constant probability, as `likelihood` needs: a double written
as a literal (so with no sign) that is at most one. -/
def isProbability : Expr → Bool
  | .lit (.real x) =>
    match x.shape with
    | .finite false _ _ => Datum.compare (.real x) (.integer 1) != .gt
    | _ => false
  | _ => false

def isWindowCall : Expr → Bool
  | .call _ _ _ _ (some _) => true
  | .countAll _ (some _) => true
  | _ => false

def hasCollate (fuel : Nat) (e : Expr) : Bool :=
  anyNode (fun x => match x with | .collate .. => true | _ => false) fuel e

/-- Whether two expressions are the same: same operators, names, values and parts. -/
def sameAs : Nat → Expr → Expr → Bool
  | 0, _, _ => false
  | f + 1, a, b =>
    let all (xs ys : List Expr) : Bool :=
      xs.length == ys.length && (xs.zip ys).all fun (x, y) => sameAs f x y
    match a, b with
    | .lit x, .lit y => x == y
    | .param i, .param j => i == j
    | .ref u s k _, .ref u' s' k' _ => u == u' && s == s' && k == k'
    | .output i, .output j => i == j
    | .windowed i, .windowed j => i == j
    | .unary o x, .unary o' y => o == o' && sameAs f x y
    | .binary o x y, .binary o' x' y' => o == o' && sameAs f x x' && sameAs f y y'
    | .collate x c, .collate y d => upperName c == upperName d && sameAs f x y
    | .isNull n x, .isNull n' y => n == n' && sameAs f x y
    | .cast x t, .cast y u => upperName t == upperName u && sameAs f x y
    | .between n x l h, .between n' y l' h' =>
      n == n' && sameAs f x y && sameAs f l l' && sameAs f h h'
    | .like n g x p e, .like n' g' y q e' =>
      n == n' && g == g' && sameAs f x y && sameAs f p q && all e.toList e'.toList
    | .inList n x xs, .inList n' y ys => n == n' && sameAs f x y && all xs ys
    | .call fn d xs none none, .call fn' d' ys none none =>
      upperName fn == upperName fn' && d == d' && all xs ys
    | .countAll none none, .countAll none none => true
    | .cases b arms o, .cases b' arms' o' =>
      all b.toList b'.toList && all o.toList o'.toList && arms.length == arms'.length &&
        (arms.zip arms').all fun ((c, v), (c', v')) => sameAs f c c' && sameAs f v v'
    | _, _ => false

/-- The affinity an expression carries into a comparison. -/
def affinity : Nat → Expr → Option Affinity
  | 0, _ => none
  | f + 1, e =>
    match e with
    | .ref _ _ _ info => info.affinity
    | .cast _ ty => some (Affinity.ofCast ty)
    | .collate a _ => affinity f a
    | .scalar (.mk _ _ first rest _ _ _) =>
      let last := ((rest.map (·.2)).getLast?).getD first
      match last with
      | .select _ (.expr x _ _ :: _) .. => affinity f x
      | .values ((x :: _) :: _) => affinity f x
      | _ => none
    | _ => none

/-- The collation an expression carries: the first `COLLATE` found through its parts, left
ones first, or the collation of the column it reads (through casts and unary plus). -/
def collation : Nat → Expr → Option Collation
  | 0, _ => none
  | f + 1, e =>
    match e with
    | .collate _ c => Collation.ofName? c
    | .ref _ _ _ info => some (info.collation.getD .binary)
    | .cast a _ => collation f a
    | .unary .plus a => collation f a
    | _ =>
      match e.children.find? (hasCollate f) with
      | some x => collation f x
      | none => none

def explicitCollation (fuel : Nat) (e : Expr) : Bool := hasCollate fuel e

end Expr

/-- The collation a comparison of two expressions uses: the left one's when it has an
explicit `COLLATE`, else the right one's when it has one, else the left one's, else the right
one's, else `BINARY`. -/
def comparisonCollation (fuel : Nat) (a b : Expr) : Collation :=
  if a.explicitCollation fuel then (a.collation fuel).getD .binary
  else if b.explicitCollation fuel then (b.collation fuel).getD .binary
  else ((a.collation fuel).orElse fun _ => b.collation fuel).getD .binary

/-- The affinity a comparison applies: numeric when both sides have affinities and either is
numeric, none when both have other affinities, and the one side's affinity otherwise. -/
def comparisonAffinity (fuel : Nat) (a b : Expr) : Option Affinity :=
  match a.affinity fuel, b.affinity fuel with
  | some x, some y => if x.isNumeric || y.isNumeric then some .numeric else some .blob
  | some x, none => some x
  | none, some y => some y
  | none, none => none

end DataMapper.Store
