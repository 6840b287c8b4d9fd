import DataMapper.Store.Resolve
import DataMapper.Store.Window

namespace DataMapper.Store

/-- One source's current row: its key (nothing for a query's rows) and its values. -/
structure SourceRow where
  key : Datum
  values : List Datum

abbrev Scope := List SourceRow

/-- What the expressions of one select see: its sources' current rows, the rows of the
current group, the values of its window calls, and the result row being ordered. -/
structure Level where
  scope : Scope := []
  group : Option (List Scope) := none
  windowed : List Datum := []
  output : List Datum := []

/-- What evaluation sees besides the frames: the tables, the parameter values, what the
connection tells functions, and the rows being worked on by recursion. -/
structure Context where
  catalog : Catalog
  params : List Datum
  session : Session := {}
  working : List (String × List (List Datum)) := []

/-- The value a reference reads from the frames; nothing when the row is missing (the empty
group of an aggregate select). -/
def readRef (env : List Level) (up src : Nat) (slot : Slot) : Datum :=
  match env[up]?.bind (·.scope[src]?) with
  | some r =>
    match slot with
    | .column i => r.values.getD i .null
    | .key => r.key
  | none => .null

def nullRow (width : Nat) : SourceRow := ⟨.null, List.replicate width .null⟩

def exhausted {α : Type} : Except StoreError α := .error (.failed "parser stack overflow")

def Query.firstColumn : Query → Option Expr
  | .mk _ _ first rest _ _ _ => (((rest.map (·.2)).getLast?).getD first).outputExprs.head?

def Query.width : Query → Nat
  | .mk _ _ first _ _ _ _ => first.outputExprs.length

def Query.partOutputs : Query → List (List Expr)
  | .mk _ _ first rest _ _ _ => first.outputExprs :: rest.map (·.2.outputExprs)

def wholeNumber (d : Datum) : Except StoreError Int :=
  match d.withAffinity .numeric with
  | .integer n => .ok n
  | _ => .error (.constraint "datatype mismatch")

def cutWindow {α : Type} (limit offset : Option Int) (rows : List α) : List α :=
  let skipped := rows.drop (max 0 (offset.getD 0)).toNat
  match limit with
  | some n => if n < 0 then skipped else skipped.take n.toNat
  | none => skipped

def rowTerms (colls : List Collation) : List (Direction × Collation) := colls.map fun c => ({}, c)

/-- Joins two lists of rows of a compound by a set operator. -/
def combineRows (colls : List Collation) (op : SetOp) (left right : List (List Datum)) :
    List (List Datum) :=
  let terms := rowTerms colls
  let same (a b : List Datum) : Bool := compareKeys terms a b == .eq
  let dedupe (rows : List (List Datum)) : List (List Datum) :=
    (runsOf terms (sortByKeys terms (rows.map fun r => (r, r)))).filterMap (·.2.getLast?)
  match op with
  | .unionAll => left ++ right
  | .union => dedupe (left ++ right)
  | .intersect => (dedupe left).filter fun r => right.any (same r)
  | .except => (dedupe left).filter fun r => !right.any (same r)

/-- What a recursion has done: the rows queued with their order keys, the rows ever queued
(when duplicates are dropped), the rows given, and how many were passed over for the offset. -/
structure Recursion where
  queue : List (List Datum × List Datum)
  seen : List (List Datum) := []
  given : List (List Datum) := []
  passed : Nat := 0

/-- Queues new rows: behind the rows with equal or lesser keys when ordered, else at the end;
rows equal to a row ever queued are dropped when duplicates are. -/
def Recursion.push (st : Recursion) (terms : List (Direction × Collation))
    (colls : Option (List Collation)) (rows : List (List Datum × List Datum)) : Recursion :=
  rows.foldl (fun st (r, k) =>
    let dup := match colls with
      | some cs => st.seen.any fun s => compareKeys (rowTerms cs) s r == Ordering.eq
      | none => false
    if dup then st
    else
      let seen := if colls.isSome then st.seen ++ [r] else st.seen
      let queue := if terms.isEmpty then st.queue ++ [(r, k)]
        else
          let before := st.queue.takeWhile fun (_, k') => compareKeys terms k' k != Ordering.gt
          before ++ [(r, k)] ++ st.queue.drop before.length
      { st with queue, seen }) st

/-- Runs a recursion: takes the first queued row, gives it (unless passed over for the
offset), stops at the limit, and queues the rows `expand` makes from it. -/
def runRecursion (terms : List (Direction × Collation)) (colls : Option (List Collation))
    (limit : Option Int) (offset : Nat)
    (expand : List Datum → Except StoreError (List (List Datum × List Datum))) :
    Nat → Recursion → Except StoreError (List (List Datum))
  | 0, st => .ok st.given
  | fuel + 1, st =>
    match st.queue with
    | [] => .ok st.given
    | (row, _) :: rest => do
      let st := { st with queue := rest }
      let st := if st.passed < offset then { st with passed := st.passed + 1 }
        else { st with given := st.given ++ [row] }
      if (limit.map fun n => n ≥ 0 && st.given.length ≥ n.toNat).getD false then
        return st.given
      let made ← expand row
      runRecursion terms colls limit offset expand fuel (st.push terms colls made)

def recursionBound : Nat := 1000000

def aggregateCalls : Nat → Expr → List Expr
  | 0, _ => []
  | f + 1, e => if e.isAggregateCall then [e] else e.children.flatMap (aggregateCalls f)

def uniqueExprs (fuel : Nat) (es : List Expr) : List Expr :=
  es.foldl (fun acc e => if acc.any (Expr.sameAs fuel · e) then acc else acc ++ [e]) []

def isExtremeCall : Expr → Bool
  | .call fn _ [_] _ none => upperName fn == "MIN" || upperName fn == "MAX"
  | _ => false

def windowOf : Expr → Option Window
  | .call _ _ _ _ w => w
  | .countAll _ w => w
  | _ => none

def sameSorting (fuel : Nat) : Option Window → Option Window → Bool
  | some (.mk _ _ p o _), some (.mk _ _ p' o' _) =>
    p.length == p'.length && o.length == o'.length &&
      (p.zip p').all (fun (a, b) => Expr.sameAs fuel a b) &&
      (o.zip o').all (fun ((a, d), (b, d')) => d == d' && Expr.sameAs fuel a b)
  | _, _ => false

mutual

/-- Evaluates an expression over the frames. -/
def eval : Nat → Context → List Level → Expr → Except StoreError Datum
  | 0, _, _, _ => exhausted
  | f + 1, cx, env, e =>
    let ev := eval f cx env
    match e with
    | .lit d => .ok d
    | .param n => .ok (cx.params.getD (n - 1) .null)
    | .name t c _ => .error (.failed ("no such column: " ++ shownName t c))
    | .ref up src slot _ => .ok (readRef env up src slot)
    | .output k => .ok ((env.head?.map (·.output.getD k .null)).getD .null)
    | .windowed k => .ok ((env.head?.map (·.windowed.getD k .null)).getD .null)
    | .unary op a => do pure (unaryOp op (← ev a))
    | .binary .and a b => do
      let x ← ev a
      if x.truth? == some false then pure (ofBool false) else pure (andValues x (← ev b))
    | .binary .or a b => do
      let x ← ev a
      if x.truth? == some true then pure (ofBool true) else pure (orValues x (← ev b))
    | .binary op a b => do
      let x ← ev a
      let y ← ev b
      match op with
      | .eq | .ne | .lt | .le | .gt | .ge | .is | .isNot =>
        pure (compareOp op (comparisonAffinity f a b) (comparisonCollation f a b) x y)
      | .concat => pure (concatenate x y)
      | .bitAnd | .bitOr | .shiftLeft | .shiftRight => pure (bitwise op x y)
      | _ => pure (arithmetic op x y)
    | .collate a _ => ev a
    | .isNull negated a => do
      let x ← ev a
      pure (ofBool (x.isNull != negated))
    | .like negated glob a p esc => do
      let x ← ev a
      let pat ← ev p
      let escChar ← match esc with
        | some ee => do
          let v ← ev ee
          match textChars v with
          | [c] => pure (some c)
          | _ => throw (.failed "ESCAPE expression must be a single character")
        | none => pure none
      if x.isNull || pat.isNull then pure .null
      else
        let hit := if glob then globMatch (textChars pat) (textChars x)
          else likeMatch escChar (textChars pat) (textChars x)
        pure (ofBool (hit != negated))
    | .between negated a lo hi => do
      let x ← ev a
      let l ← ev lo
      let h ← ev hi
      let geLo := compareOp .ge (comparisonAffinity f a lo) (comparisonCollation f a lo) x l
      let leHi := compareOp .le (comparisonAffinity f a hi) (comparisonCollation f a hi) x h
      let both := andValues geLo leHi
      pure (if negated then unaryOp .not both else both)
    | .inList negated a items => do
      let x ← ev a
      let ys ← items.mapM ev
      let aff := a.affinity f
      let coll := (a.collation f).getD .binary
      pure (membership negated x (ys.map fun y => (y, aff, coll)))
    | .inQuery negated a q => do
      let x ← ev a
      let rows ← runQuery f cx env q
      let (aff, coll) := match q.firstColumn with
        | some c => (comparisonAffinity f a c, comparisonCollation f a c)
        | none => (a.affinity f, (a.collation f).getD .binary)
      pure (membership negated x (rows.map fun r => (r.headD .null, aff, coll)))
    | .present q => do
      let rows ← runQuery f cx env q
      pure (ofBool !rows.isEmpty)
    | .scalar q => do
      let rows ← runQuery f cx env q
      pure ((rows.head?.bind (·.head?)).getD .null)
    | .call fn distinct args filter win =>
      match win with
      | some _ => .error (.failed ("misuse of window function " ++ fn ++ "()"))
      | none =>
        match fnKind fn args.length with
        | .aggregate => groupAggregate f cx env fn distinct args filter
        | _ =>
          match upperName fn, args with
          | "COALESCE", _ => firstPresent f cx env args
          | "IFNULL", _ => firstPresent f cx env args
          | "IIF", [c, a, b] => do
            let t ← ev c
            if t.truth? == some true then ev a else ev b
          | _, _ => do
            let vals ← args.mapM ev
            let coll := if needsCollation fn then
                (args.findSome? (·.collation f)).getD .binary
              else .binary
            scalarFn cx.session fn coll vals
    | .countAll filter _ => groupAggregate f cx env "count" false [] filter
    | .cast a ty => do pure (castTo ty (← ev a))
    | .cases base arms otherwise => do
      let b ← base.mapM ev
      pickArm f cx env base b arms otherwise

/-- An aggregate over the rows of the current group that pass its filter. -/
def groupAggregate : Nat → Context → List Level → String → Bool → List Expr → Option Expr →
    Except StoreError Datum
  | 0, _, _, _, _, _, _ => exhausted
  | f + 1, cx, env, fn, distinct, args, filter =>
    match env with
    | fr :: outer =>
      match fr.group with
      | some rows => do
        let vals ← rows.filterMapM fun sc => do
          let env' := ({ scope := sc } : Level) :: outer
          let ok ← match filter with
            | some w => do pure ((← eval f cx env' w).truth? == some true)
            | none => pure true
          if ok then pure (some (← args.mapM (eval f cx env'))) else pure none
        let coll := (args.findSome? (·.collation f)).getD .binary
        aggregateFn fn distinct coll (if args.isEmpty then vals.map fun _ => [] else vals)
      | none => .error (.failed ("misuse of aggregate function " ++ fn ++ "()"))
    | [] => .error (.failed ("misuse of aggregate function " ++ fn ++ "()"))

def firstPresent : Nat → Context → List Level → List Expr → Except StoreError Datum
  | 0, _, _, _ => exhausted
  | _ + 1, _, _, [] => .ok .null
  | f + 1, cx, env, a :: rest => do
    let v ← eval f cx env a
    if v.isNull then firstPresent f cx env rest else pure v

/-- The value of the first arm of a case that holds. -/
def pickArm : Nat → Context → List Level → Option Expr → Option Datum → List (Expr × Expr) →
    Option Expr → Except StoreError Datum
  | 0, _, _, _, _, _, _ => exhausted
  | f + 1, cx, env, _, _, [], otherwise =>
    match otherwise with
    | some o => eval f cx env o
    | none => .ok .null
  | f + 1, cx, env, baseExpr, b, (c, v) :: rest, otherwise => do
    let cv ← eval f cx env c
    let hit := match b, baseExpr with
      | some bv, some be =>
        compareOp .eq (comparisonAffinity f be c) (comparisonCollation f be c) bv cv == ofBool true
      | _, _ => cv.truth? == some true
    if hit then eval f cx env v else pickArm f cx env baseExpr b rest otherwise

/-- The rows of a source, with its number of columns. -/
def sourceRows : Nat → Context → List Level → Source → Except StoreError (List SourceRow × Nat)
  | 0, _, _, _ => exhausted
  | f + 1, cx, outer, src =>
    match src with
    | .table _ name _ =>
      match cx.catalog.find? name with
      | some t => .ok (t.rows.map (fun r => ⟨.integer r.key, r.values⟩), t.columns.length)
      | none => .error (.failed ("no such table: " ++ name))
    | .query q _ => do
      let rows ← runQuery f cx outer q
      pure (rows.map (⟨.null, ·⟩), q.width)
    | .recursive name q seeds _ => do
      let rows ← runRecursive f cx outer name q seeds
      pure (rows.map (⟨.null, ·⟩), q.width)
    | .working name _ =>
      match cx.working.find? (fun (n, _) => sameName n name) with
      | some (_, rows) => .ok (rows.map (⟨.null, ·⟩), (rows.head?.map (·.length)).getD 0)
      | none => .error (.failed ("no such table: " ++ name))

/-- The combinations of rows a select's sources give, joined one after the other. -/
def joinRows : Nat → Context → List Level → List Join → Except StoreError (List Scope)
  | 0, _, _, _ => exhausted
  | f + 1, cx, outer, joins => do
    let (acc, _) ← joins.foldlM (fun (acc, widths) j => do
      match j with
      | .mk kind _ src cond _ =>
        let (rows, width) ← sourceRows f cx outer src
        let holds (sc : Scope) : Except StoreError Bool :=
          match cond with
          | some c => do pure ((← eval f cx (({ scope := sc } : Level) :: outer) c).truth? == some true)
          | none => pure true
        let matched ← acc.mapM fun p => do
          let hits ← rows.zipIdx.filterM fun (r, _) => holds (p ++ [r])
          pure (p, hits)
        let kept := matched.flatMap fun (p, hits) =>
          if hits.isEmpty && (kind == .left || kind == .full) then [p ++ [nullRow width]]
          else hits.map fun (r, _) => p ++ [r]
        let used := matched.flatMap fun (_, hits) => hits.map (·.2)
        let unmatched := if kind == .right || kind == .full then
            (rows.zipIdx.filter fun (_, i) => !used.contains i).map fun (r, _) =>
              widths.map nullRow ++ [r]
          else []
        pure (kept ++ unmatched, widths ++ [width])) ([[]], [])
    pure acc

def runPart : Nat → Context → List Level → Core → Except StoreError (List (List Datum))
  | 0, _, _, _ => exhausted
  | f + 1, cx, outer, core =>
    match core with
    | .values rows => rows.mapM (·.mapM (eval f cx outer))
    | .select .. => do pure ((← runSelect f cx outer core []).map (·.1))

/-- Runs a select: its result rows, each with the frame its order terms are evaluated in.
`order` is the order of a query of this one select, which sets the direction of grouping. -/
def runSelect : Nat → Context → List Level → Core → List (Expr × Direction) →
    Except StoreError (List (List Datum × Level))
  | 0, _, _, _, _ => exhausted
  | _ + 1, _, _, .values _, _ => .ok []
  | f + 1, cx, outer, .select distinct outputs joins filter groups having _ calls, order => do
    let exprs := outputs.filterMap fun o =>
      match o with
      | .expr e _ _ => some e
      | _ => none
    let scopes ← joinRows f cx outer joins
    let kept ← scopes.filterM fun sc =>
      match filter with
      | some w => do pure ((← eval f cx (({ scope := sc } : Level) :: outer) w).truth? == some true)
      | none => pure true
    let grouped := !groups.isEmpty || exprs.any (·.hasAggregate f) || calls.any (·.hasAggregate f)
    let frames ← if grouped then groupFrames f cx outer kept exprs groups having calls order
      else pure (kept.map fun sc => ({ scope := sc } : Level))
    let frames ← if calls.isEmpty then pure frames else computeWindows f cx outer frames calls
    let rows ← frames.mapM fun fr => do pure (← exprs.mapM (eval f cx (fr :: outer)), fr)
    if distinct then
      let terms := exprs.map fun e => (({} : Direction), (e.collation f).getD .binary)
      pure (rows.foldl (fun acc (r, fr) =>
        if acc.any (fun (r', _) => compareKeys terms r r' == .eq) then acc else acc ++ [(r, fr)]) [])
    else pure rows

/-- The frames of an aggregate select's results: one per group that passes the group filter,
in the order of the group keys. -/
def groupFrames : Nat → Context → List Level → List Scope → List Expr → List Expr →
    Option Expr → List Expr → List (Expr × Direction) → Except StoreError (List Level)
  | 0, _, _, _, _, _, _, _, _ => exhausted
  | f + 1, cx, outer, kept, exprs, groups, having, calls, order => do
    let runs ← if groups.isEmpty then pure [kept] else do
      let keyed ← kept.mapM fun sc => do
        pure (← groups.mapM (eval f cx (({ scope := sc } : Level) :: outer)), sc)
      let dirs := if order.length == groups.length then
          order.map fun (_, d) => ({ desc := d.desc } : Direction)
        else groups.map fun _ => ({} : Direction)
      let terms := (dirs.zip groups).map fun (d, g) => (d, (g.collation f).getD .binary)
      pure ((runsOf terms (sortByKeys terms keyed)).map (·.2))
    let extremes := uniqueExprs f ((exprs ++ calls ++ order.map (·.1) ++ having.toList).flatMap
      (aggregateCalls f) |>.filter isExtremeCall)
    let (frames, _) ← runs.foldlM (fun (acc, skip) rows => do
      let (rep, skip) ← representative f cx outer extremes rows skip
      let fr : Level := { scope := (rep.orElse fun _ => rows.head?).getD [], group := some rows }
      let keep ← match having with
        | some h => do pure ((← eval f cx (fr :: outer) h).truth? == some true)
        | none => pure true
      pure (if keep then acc ++ [fr] else acc, skip)) (([] : List Level), false)
    pure frames

/-- The row of a group that bare columns read, and the flag that carries from row to row: with
`min` or `max` calls, the last row at which none of the calls it reached kept its value;
otherwise the first row. -/
def representative : Nat → Context → List Level → List Expr → List Scope → Bool →
    Except StoreError (Option Scope × Bool)
  | 0, _, _, _, _, _ => exhausted
  | f + 1, cx, outer, extremes, rows, skip0 =>
    if extremes.isEmpty then .ok (rows.head?, skip0)
    else do
      let init : Option Scope × Bool × List (Option Datum) × List (List Datum) :=
        (none, skip0, extremes.map fun _ => none, extremes.map fun _ => [])
      let (rep, skip, _, _) ← rows.foldlM (fun (rep, skip, bests, seen) sc => do
        let env := ({ scope := sc } : Level) :: outer
        let (skip, bests, seen) ← (extremes.zip (bests.zip seen)).foldlM
          (fun (skip, bests, seens) (call, best, seen) => do
            match call with
            | .call fn distinct [arg] filter _ =>
              let passes ← match filter with
                | some w => do pure ((← eval f cx env w).truth? == some true)
                | none => pure true
              let v ← eval f cx env arg
              let coll := (arg.collation f).getD .binary
              let dup := distinct && seen.any (·.sameIn coll v)
              if !passes || dup then pure (skip, bests ++ [best], seens ++ [seen])
              else
                let seen := if distinct then seen ++ [v] else seen
                let greatest := upperName fn == "MAX"
                match best with
                | none =>
                  if v.isNull then pure (false, bests ++ [none], seens ++ [seen])
                  else pure (false, bests ++ [some v], seens ++ [seen])
                | some b =>
                  if v.isNull then pure (true, bests ++ [some b], seens ++ [seen])
                  else
                    let c := b.compareIn coll v
                    if (greatest && c == .lt) || (!greatest && c == .gt) then
                      pure (false, bests ++ [some v], seens ++ [seen])
                    else pure (true, bests ++ [some b], seens ++ [seen])
            | _ => pure (skip, bests ++ [best], seens ++ [seen])) (skip, [], [])
        pure (if skip then rep else some sc, skip, bests, seen)) init
      pure (rep, skip)

/-- Computes a select's window calls over its results: the results leave in the order of the
first window, each with the values of all calls. -/
def computeWindows : Nat → Context → List Level → List Level → List Expr →
    Except StoreError (List Level)
  | 0, _, _, _, _ => exhausted
  | f + 1, cx, outer, frames, calls => do
    let sortings := calls.foldl (fun acc c =>
      if acc.any (sameSorting f · (windowOf c)) then acc else acc ++ [windowOf c]) []
    let init : List (Nat × Level) × List (List Datum) :=
      (frames.zipIdx.map fun (fr, i) => (i, fr), frames.map fun _ => calls.map fun _ => .null)
    let (items, results) ← sortings.reverse.foldlM (fun (items, results) sorting => do
      match sorting with
      | some (.mk _ _ partition order _) =>
        let keyed ← items.mapM fun (i, fr) => do
          let env := fr :: outer
          let p ← partition.mapM (eval f cx env)
          let o ← order.mapM fun (t, _) => eval f cx env t
          pure (p ++ o, (i, fr, p, o))
        let pTerms := partition.map fun t => (({} : Direction), (t.collation f).getD .binary)
        let oTerms := order.map fun (t, d) => (d, (t.collation f).getD .binary)
        let sorted := sortByKeys (pTerms ++ oTerms) keyed
        let parts := runsOf pTerms (sorted.map fun (_, (i, fr, p, o)) => (p, (i, fr, o)))
        let mine := calls.zipIdx.filter fun (c, _) => sameSorting f (windowOf c) sorting
        let results ← parts.foldlM (fun results (_, members) => do
          let groups := peerGroups oTerms (members.map (·.2.2))
          let values := members.map fun (_, _, o) => o.headD .null
          mine.foldlM (fun results (call, k) => do
            let vals ← windowCall f cx outer call (members.map fun (i, fr, _) => (i, fr)) groups values
            pure ((members.zip vals).foldl (fun results ((i, _, _), v) =>
              results.set i ((results.getD i []).set k v)) results)) results) results
        pure (sorted.map fun (_, (i, fr, _, _)) => (i, fr), results)
      | none => pure (items, results)) init
    pure (items.map fun (i, fr) => { fr with windowed := results.getD i [] })

/-- The values of one window call over one partition, given the rows' peer groups and order
terms. -/
def windowCall : Nat → Context → List Level → Expr → List (Nat × Level) → List Nat →
    List Datum → Except StoreError (List Datum)
  | 0, _, _, _, _, _, _ => exhausted
  | f + 1, cx, outer, call, members, groups, values => do
    let (fn, countAll, args, filter, w) := match call with
      | .call fn _ args filter w => (fn, false, args, filter, w)
      | .countAll filter w => ("count", true, [], filter, w)
      | _ => ("", false, [], none, none)
    let rows ← members.mapM fun (_, fr) => do
      let env := fr :: outer
      let passes ← match filter with
        | some c => do pure ((← eval f cx env c).truth? == some true)
        | none => pure true
      pure ({ args := ← args.mapM (eval f cx env), passes } : WindowRow)
    let bound (b : Bound) : Except StoreError FrameEnd :=
      match b with
      | .unboundedPreceding => pure .unboundedPreceding
      | .preceding n => do pure (.preceding (← eval f cx outer n))
      | .currentRow => pure .currentRow
      | .following n => do pure (.following (← eval f cx outer n))
      | .unboundedFollowing => pure .unboundedFollowing
    let spec ← match w with
      | some (.mk _ _ _ order (some (.mk unit s e ex))) => do
        let (dir, coll) := match order with
          | (t, d) :: _ => (d, (t.collation f).getD .binary)
          | [] => ({}, .binary)
        pure ({ unit, start := ← bound s, finish := ← bound e, exclude := ex, direction := dir,
                collation := coll } : FrameSpec)
      | _ => pure {}
    let coll := (args.findSome? (·.collation f)).getD .binary
    partitionValues fn countAll coll spec groups values rows

/-- Runs a query seen from the outer frames; gives its result rows. -/
def runQuery : Nat → Context → List Level → Query → Except StoreError (List (List Datum))
  | 0, _, _, _ => exhausted
  | f + 1, cx, outer, q =>
    match q with
    | .mk _ _ first rest order limit offset => do
      let lim ← limit.mapM fun l => do wholeNumber (← eval f cx outer l)
      let off ← offset.mapM fun o => do wholeNumber (← eval f cx outer o)
      match first, rest with
      | .select .., [] =>
        let rows ← runSelect f cx outer first order
        let sorted ← if order.isEmpty then pure (rows.map (·.1)) else do
          let keyed ← rows.mapM fun (vals, fr) => do
            let env := { fr with output := vals } :: outer
            pure (← order.mapM fun (t, _) => eval f cx env t, vals)
          let terms := order.map fun (t, d) => (d, (t.collation f).getD .binary)
          pure ((sortByKeys terms keyed).map (·.2))
        pure (cutWindow lim off sorted)
      | _, _ =>
        let colls := compoundCollations f q.partOutputs q.width
        let firstRows ← runPart f cx outer first
        let combined ← rest.foldlM (fun acc (op, core) => do
          pure (combineRows colls op acc (← runPart f cx outer core))) firstRows
        let sorted ← if order.isEmpty then pure combined else do
          let keyed ← combined.mapM fun vals => do
            let env := ({ output := vals } : Level) :: outer
            pure (← order.mapM fun (t, _) => eval f cx env t, vals)
          let terms := order.map fun (t, d) => (d, (t.collation f).getD .binary)
          pure ((sortByKeys terms keyed).map (·.2))
        pure (cutWindow lim off sorted)

/-- Runs a common table defined by recursion: its first `seeds` parts give the first rows, and
its other parts make more from each row taken, reading it under the table's name. -/
def runRecursive : Nat → Context → List Level → String → Query → Nat →
    Except StoreError (List (List Datum))
  | 0, _, _, _, _, _ => exhausted
  | f + 1, cx, outer, name, q, seeds =>
    match q with
    | .mk _ _ first rest order limit offset => do
      let lim ← limit.mapM fun l => do wholeNumber (← eval f cx outer l)
      let off ← offset.mapM fun o => do wholeNumber (← eval f cx outer o)
      let colls := compoundCollations f q.partOutputs q.width
      let distinct := (rest.getLast?.map (·.1 == .union)).getD false
      let terms := order.map fun (t, d) => (d, (t.collation f).getD .binary)
      let keyOf (row : List Datum) : Except StoreError (List Datum × List Datum) := do
        let env := ({ output := row } : Level) :: outer
        pure (row, ← order.mapM fun (t, _) => eval f cx env t)
      let seedRows ← runQuery f cx outer (.mk false [] first (rest.take (seeds - 1)) [] none none)
      let steps := rest.drop (seeds - 1)
      let expand (row : List Datum) : Except StoreError (List (List Datum × List Datum)) := do
        let cx' := { cx with working := (name, [row]) :: cx.working }
        let made ← steps.flatMapM fun (_, core) => runPart f cx' outer core
        made.mapM keyOf
      let start : Recursion := ({ queue := [] } : Recursion).push terms
        (if distinct then some colls else none) (← seedRows.mapM keyOf)
      if (lim.map (· == 0)).getD false then return []
      runRecursion terms (if distinct then some colls else none) lim (max 0 (off.getD 0)).toNat
        expand recursionBound start

end

theorem readRef_nil (up src : Nat) (slot : Slot) : readRef [] up src slot = .null := rfl

end DataMapper.Store
