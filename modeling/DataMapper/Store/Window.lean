import DataMapper.Store.Functions

namespace DataMapper.Store

/-- The order of two lists of terms, each with its direction and collation. -/
def compareKeys : List (Direction × Collation) → List Datum → List Datum → Ordering
  | (d, c) :: ts, a :: as, b :: bs =>
    let nullsFirst := d.nullsFirst.getD !d.desc
    let o := match a.isNull, b.isNull with
      | true, true => Ordering.eq
      | true, false => if nullsFirst then .lt else .gt
      | false, true => if nullsFirst then .gt else .lt
      | false, false =>
        let o := a.compareIn c b
        if d.desc then o.swap else o
    if o == .eq then compareKeys ts as bs else o
  | _, _, _ => .eq

def sortByKeys {α : Type} (terms : List (Direction × Collation)) (items : List (List Datum × α)) :
    List (List Datum × α) :=
  items.mergeSort fun a b => compareKeys terms a.1 b.1 != .gt

def runsOf {α : Type} (terms : List (Direction × Collation)) (items : List (List Datum × α)) :
    List (List Datum × List α) :=
  (items.foldl (fun (acc : List (List Datum × List α)) (k, a) =>
    match acc with
    | (k', grp) :: rest =>
      if compareKeys terms k k' == .eq then (k', grp ++ [a]) :: rest else (k, [a]) :: acc
    | [] => [(k, [a])]) []).reverse

/-- One end of a frame with its offset evaluated. -/
inductive FrameEnd
  | unboundedPreceding
  | preceding (n : Datum)
  | currentRow
  | following (n : Datum)
  | unboundedFollowing

/-- A frame with its offsets evaluated, and the direction and collation of the window's
order term (for counting in values). -/
structure FrameSpec where
  unit : FrameUnit := .range
  start : FrameEnd := .unboundedPreceding
  finish : FrameEnd := .currentRow
  exclude : FrameExclude := .noOthers
  direction : Direction := {}
  collation : Collation := .binary

/-- The peer group of each row of a partition, numbered from zero, from the rows' order
keys. -/
def peerGroups (terms : List (Direction × Collation)) (keys : List (List Datum)) : List Nat :=
  match keys with
  | [] => []
  | k :: ks =>
    (ks.foldl (fun (acc : List Nat × List Datum) key =>
      let (gs, prev) := acc
      let g := gs.headD 0
      ((if compareKeys terms key prev == .eq then g else g + 1) :: gs, key)) ([0], k)).1.reverse

def groupSpan (groups : List Nat) (g : Nat) : Nat × Nat :=
  let first := (groups.findIdx? (· == g)).getD groups.length
  let count := (groups.filter (· == g)).length
  (first, first + count - 1)

def countOffset (starting : Bool) (n : Datum) : Except StoreError Nat :=
  let err : StoreError := .failed ("frame " ++ (if starting then "starting" else "ending") ++
    " offset must be a non-negative integer")
  match n.withAffinity .numeric with
  | .integer k => if k < 0 then .error err else .ok k.toNat
  | _ => .error err

/-- An offset of a frame counted in values: a non-negative number. -/
def valueOffset (starting : Bool) (n : Datum) : Except StoreError Datum :=
  let err : StoreError := .failed ("frame " ++ (if starting then "starting" else "ending") ++
    " offset must be a non-negative number")
  match n.withAffinity .numeric with
  | .integer k => if k < 0 then .error err else .ok (.integer k)
  | .real x =>
    match x.toRatio? with
    | some (p, _) => if p < 0 then .error err else .ok (.real x)
    | none => if x.isNeg then .error err else .ok (.real x)
  | _ => .error err

/-- The positions of a partition a row's frame holds, before exclusions: `groups` gives each
row's peer group and `values` each row's order term. -/
def frameSpan (spec : FrameSpec) (groups : List Nat) (values : List Datum) (i : Nat) :
    Except StoreError (Int × Int) := do
  let size : Int := groups.length
  let g := groups.getD i 0
  let groupCount := (groups.getLast?.map (· + 1)).getD 0
  let (gFirst, gLast) := groupSpan groups g
  let value := values.getD i .null
  let term := [(spec.direction, spec.collation)]
  let shifted (n : Datum) (later : Bool) : Datum :=
    let up := later != spec.direction.desc
    arithmetic (if up then .add else .sub) value n
  let firstFrom (target : Datum) : Int :=
    ((values.findIdx? fun v => compareKeys term [v] [target] != .lt).map (fun j => (j : Int))).getD size
  let lastUpTo (target : Datum) : Int :=
    ((values.zipIdx.filter fun (v, _) => compareKeys term [v] [target] != .gt).getLast?.map
      (fun (_, j) => (j : Int))).getD (-1)
  let startAt : FrameEnd → Except StoreError Int
    | .unboundedPreceding => pure 0
    | .currentRow => pure (if spec.unit == .rows then i else gFirst)
    | .unboundedFollowing => pure size
    | .preceding n => do
      match spec.unit with
      | .rows => pure ((i : Int) - (← countOffset true n))
      | .groups =>
        let k ← countOffset true n
        pure (if g < k then 0 else (groupSpan groups (g - k)).1)
      | .range =>
        let n ← valueOffset true n
        if value.isNull then pure gFirst else pure (firstFrom (shifted n false))
    | .following n => do
      match spec.unit with
      | .rows => pure ((i : Int) + (← countOffset true n))
      | .groups =>
        let k ← countOffset true n
        pure (if g + k ≥ groupCount then size else (groupSpan groups (g + k)).1)
      | .range =>
        let n ← valueOffset true n
        if value.isNull then pure gFirst else pure (firstFrom (shifted n true))
  let endAt : FrameEnd → Except StoreError Int
    | .unboundedPreceding => pure (-1)
    | .currentRow => pure (if spec.unit == .rows then i else gLast)
    | .unboundedFollowing => pure (size - 1)
    | .preceding n => do
      match spec.unit with
      | .rows => pure ((i : Int) - (← countOffset false n))
      | .groups =>
        let k ← countOffset false n
        pure (if g < k then -1 else (groupSpan groups (g - k)).2)
      | .range =>
        let n ← valueOffset false n
        if value.isNull then pure gLast else pure (lastUpTo (shifted n false))
    | .following n => do
      match spec.unit with
      | .rows => pure ((i : Int) + (← countOffset false n))
      | .groups =>
        let k ← countOffset false n
        pure (if g + k ≥ groupCount then size - 1 else (groupSpan groups (g + k)).2)
      | .range =>
        let n ← valueOffset false n
        if value.isNull then pure gLast else pure (lastUpTo (shifted n true))
  pure (← startAt spec.start, ← endAt spec.finish)

/-- The positions a row's frame holds, exclusions applied. -/
def framePositions (spec : FrameSpec) (groups : List Nat) (values : List Datum) (i : Nat) :
    Except StoreError (List Nat) := do
  let (s, e) ← frameSpan spec groups values i
  let size : Int := groups.length
  let s := max s 0
  let e := min e (size - 1)
  let span := if s > e then [] else (List.range (e - s + 1).toNat).map (· + s.toNat)
  let g := groups.getD i 0
  pure (span.filter fun j =>
    match spec.exclude with
    | .noOthers => true
    | .currentRow => j != i
    | .group => groups.getD j 0 != g
    | .ties => j == i || groups.getD j 0 != g)

/-- A row of a partition as a window call sees it: its arguments, and whether its filter
holds. -/
structure WindowRow where
  args : List Datum
  passes : Bool := true

def wholeArg (d : Datum) : Option Int :=
  match d.withAffinity .numeric with
  | .integer k => some k
  | _ => none

/-- The values of a window call for each row of a partition, in the partition's order: `fn`
is the function (`count(*)` counts rows), `coll` the collation of its first argument, `groups`
each row's peer group and `values` each row's order term. -/
def partitionValues (fn : String) (countAll : Bool) (coll : Collation) (spec : FrameSpec)
    (groups : List Nat) (values : List Datum) (rows : List WindowRow) :
    Except StoreError (List Datum) := do
  let size := rows.length
  let arg (j k : Nat) : Datum := ((rows[j]?.map (·.args)).getD []).getD k .null
  let real (n d : Nat) : Datum := .real (Binary64.ofRatio false n d)
  let ntile ← match upperName fn with
    | "NTILE" =>
      let n := (arg 0 0).toInt
      if n ≤ 0 then throw (.failed "argument of ntile must be a positive integer") else pure n.toNat
    | _ => pure 1
  (List.range size).mapM fun i => do
    let g := groups.getD i 0
    let (gFirst, gLast) := groupSpan groups g
    match upperName fn with
    | "ROW_NUMBER" => pure (.integer (i + 1))
    | "RANK" => pure (.integer (gFirst + 1))
    | "DENSE_RANK" => pure (.integer (g + 1))
    | "PERCENT_RANK" => pure (if size > 1 then real gFirst (size - 1) else .real Binary64.zero)
    | "CUME_DIST" => pure (real (gLast + 1) size)
    | "NTILE" =>
      let perTile := size / ntile
      if perTile == 0 then pure (.integer (i + 1))
      else
        let large := size - ntile * perTile
        let small := large * (perTile + 1)
        pure (.integer (if i < small then 1 + i / (perTile + 1)
          else 1 + large + (i - small) / perTile))
    | "LAG" | "LEAD" =>
      let dflt := if (rows[i]?.map (·.args.length)).getD 0 ≥ 3 then arg i 2 else .null
      let offset : Option Int :=
        if (rows[i]?.map (·.args.length)).getD 0 ≥ 2 then wholeArg (arg i 1) else some 1
      match offset with
      | none => pure dflt
      | some k =>
        let j : Int := if upperName fn == "LAG" then (i : Int) - k else (i : Int) + k
        if 0 ≤ j && j < size then pure (arg j.toNat 0) else pure dflt
    | "FIRST_VALUE" =>
      let frame ← framePositions spec groups values i
      pure ((frame.head?.map (arg · 0)).getD .null)
    | "LAST_VALUE" =>
      let frame ← framePositions spec groups values i
      pure ((frame.getLast?.map (arg · 0)).getD .null)
    | "NTH_VALUE" =>
      let frame ← framePositions spec groups values i
      match wholeArg (arg i 1) with
      | some n =>
        if n ≤ 0 then throw (.failed "second argument to nth_value must be a positive integer")
        else pure ((frame[(n - 1).toNat]?.map (arg · 0)).getD .null)
      | none => throw (.failed "second argument to nth_value must be a positive integer")
    | _ =>
      let frame ← framePositions spec groups values i
      let seen := frame.filterMap fun j =>
        match rows[j]? with
        | some r => if r.passes then some (if countAll then [] else r.args) else none
        | none => none
      aggregateFn (if countAll then "COUNT" else fn) false coll seen

theorem compareKeys_nil (a b : List Datum) : compareKeys [] a b = .eq := by
  cases a <;> cases b <;> rfl

end DataMapper.Store
