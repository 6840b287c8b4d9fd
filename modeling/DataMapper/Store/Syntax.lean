import DataMapper.Store.Collation

namespace DataMapper.Store

/-- Prefix operators. -/
inductive UnaryOp
  | negate
  | plus
  | bitNot
  | not
  deriving DecidableEq

/-- Infix operators. -/
inductive BinaryOp
  | or
  | and
  | eq
  | ne
  | lt
  | le
  | gt
  | ge
  | is
  | isNot
  | concat
  | add
  | sub
  | mul
  | div
  | rem
  | bitAnd
  | bitOr
  | shiftLeft
  | shiftRight
  deriving DecidableEq

/-- Which column of a row a reference reads: a declared column by position, or the row's
key. -/
inductive Slot
  | column (i : Nat)
  | key
  deriving DecidableEq

/-- What a resolved reference knows of the column it reads: its affinity and its collation. -/
structure ColumnInfo where
  affinity : Option Affinity := none
  collation : Option Collation := none
  deriving Inhabited

/-- The set operators between the parts of a compound query. -/
inductive SetOp
  | unionAll
  | union
  | intersect
  | except
  deriving DecidableEq

/-- How a source joins the sources before it. -/
inductive JoinKind
  | inner
  | left
  | right
  | full
  | cross
  deriving DecidableEq

/-- What a window frame counts in: rows, values of the order term, or groups of peers. -/
inductive FrameUnit
  | rows
  | range
  | groups
  deriving DecidableEq

/-- What a window frame leaves out of itself. -/
inductive FrameExclude
  | noOthers
  | currentRow
  | group
  | ties
  deriving DecidableEq

/-- The direction of an order term, and where nothing goes when the term says so. -/
structure Direction where
  desc : Bool := false
  nullsFirst : Option Bool := none
  deriving Inhabited, DecidableEq

mutual

/-- An expression. -/
inductive Expr
  | lit (d : Datum)
  | param (slot : Nat)
  | name (table : Option String) (column : String) (quoted : Bool)
  | ref (up : Nat) (source : Nat) (slot : Slot) (info : ColumnInfo)
  /-- the result column of the row being ordered, in a compound's order -/
  | output (k : Nat)
  /-- the value of a select's window call for the current row -/
  | windowed (k : Nat)
  | unary (op : UnaryOp) (e : Expr)
  | binary (op : BinaryOp) (a b : Expr)
  | collate (e : Expr) (collation : String)
  | isNull (negated : Bool) (e : Expr)
  | like (negated : Bool) (glob : Bool) (a pattern : Expr) (escape : Option Expr)
  | between (negated : Bool) (e lo hi : Expr)
  | inList (negated : Bool) (e : Expr) (items : List Expr)
  | inQuery (negated : Bool) (e : Expr) (q : Query)
  | present (q : Query)
  | scalar (q : Query)
  | call (fn : String) (distinct : Bool) (args : List Expr) (filter : Option Expr)
      (win : Option Window)
  | countAll (filter : Option Expr) (win : Option Window)
  | cast (e : Expr) (type : String)
  | cases (base : Option Expr) (arms : List (Expr × Expr)) (otherwise : Option Expr)

/-- A window: the named window it builds on, whether it is that window itself (written as a
bare name, so that it takes the named window's frame too), its partition terms, its order
terms and its frame. -/
inductive Window
  | mk (base : Option String) (bare : Bool) (partition : List Expr)
      (order : List (Expr × Direction)) (frame : Option Frame)

/-- A window frame: its unit, where it starts and ends, and what it leaves out. -/
inductive Frame
  | mk (unit : FrameUnit) (start finish : Bound) (exclude : FrameExclude)

/-- One end of a window frame. -/
inductive Bound
  | unboundedPreceding
  | preceding (n : Expr)
  | currentRow
  | following (n : Expr)
  | unboundedFollowing

/-- A result column: every column, every column of one table, or an expression with its name
(an alias, or the expression's text). -/
inductive Output
  | all
  | allOf (table : String)
  | expr (e : Expr) (asName : Option String) (text : String)

/-- What a select reads: a table, under an alias or its own name; a query under an alias; a
common table defined by recursion (the first `seeds` parts of its query give the first rows,
and its other parts make more rows from each row made, reading it under the table's name); or,
inside those other parts, the row being worked on. -/
inductive Source
  | table (schema : Option String) (name : String) (asName : Option String)
  | query (q : Query) (asName : Option String)
  | recursive (name : String) (q : Query) (seeds : Nat) (asName : Option String)
  | working (name : String) (asName : Option String)

/-- A source with the way it joins the ones before it: its kind, whether it is natural, and
its condition or the columns it joins on. -/
inductive Join
  | mk (kind : JoinKind) (natural : Bool) (source : Source) (on : Option Expr)
      (columns : List String)

/-- One part of a compound query: a select (whether it drops duplicates, its result columns,
its sources, filter, grouping, group filter, named windows and, once resolved, its window
calls) or a list of rows. -/
inductive Core
  | select (distinct : Bool) (outputs : List Output) (sources : List Join) (filter : Option Expr)
      (groups : List Expr) (having : Option Expr) (windows : List (String × Window))
      (calls : List Expr)
  | values (rows : List (List Expr))

/-- A query: whether its common tables may read themselves, the common tables (name, column
names and query), its first part, the other parts with their operators, its order, limit and
offset. -/
inductive Query
  | mk (recursive : Bool) (ctes : List (String × List String × Query)) (first : Core)
      (rest : List (SetOp × Core)) (order : List (Expr × Direction)) (limit offset : Option Expr)

end

def Query.ofCore (c : Core) : Query := .mk false [] c [] [] none none

/-- The common tables a statement starts with: whether they may read themselves, and each
one's name, column names and query. -/
structure Ctes where
  recursive : Bool := false
  tables : List (String × List String × Query) := []

/-- A table's name, with its schema when one is given. -/
structure TableName where
  schema : Option String
  name : String
  deriving Inhabited

/-- The head of a `CREATE TABLE`, read before the table's definition: whether the table is
temporary, whether an existing table is let be, and the table's name, also as written. -/
structure TableStart where
  temp : Bool := false
  ifNotExists : Bool := false
  table : TableName
  written : String
  deriving Inhabited

/-- The options written after a table's definition. -/
structure TableOptions where
  withoutRowid : Bool := false
  strict : Bool := false
  deriving Inhabited

/-- How a statement deals with a row that breaks a constraint. -/
inductive Conflict
  | abort
  | fail
  | ignore
  | replace
  | rollback
  deriving DecidableEq, Inhabited

/-- A column of a table being created. -/
structure ColumnSpec where
  name : String
  declared : String
  primaryKey : Bool := false
  descending : Bool := false
  autoincrement : Bool := false
  notNull : Bool := false
  unique : Bool := false
  default : Option Expr := none
  checks : List (String × Expr) := []
  collation : Option String := none

/-- A column of an index, a key or a conflict target: its name, its collation when one is
given, and whether it is sorted in descending order. -/
structure IndexedColumn where
  name : String
  collation : Option String := none
  descending : Bool := false

/-- A constraint of a table being created, over named columns; a check goes by its name, or
by its text when it has none. -/
inductive TableConstraint
  | primaryKey (columns : List IndexedColumn)
  | unique (columns : List IndexedColumn)
  | check (label : String) (e : Expr)

/-- The rows an insert adds: listed rows, the rows of a query, or one row of defaults. -/
inductive Rows
  | values (rows : List (List Expr))
  | query (q : Query)
  | defaults

/-- What an insert does with a row that clashes with a stored one: nothing, or an update of
the stored row (assignments and a filter); for the clashes with one unique constraint (given
by its columns and an optional filter) or, without a target, with any. -/
structure Upsert where
  target : Option (List IndexedColumn) := none
  targetFilter : Option Expr := none
  update : Option (List (String × Expr) × Option Expr) := none

/-- A statement. -/
inductive Statement
  | query (q : Query)
  | insert (ctes : Ctes) (conflict : Conflict) (table : TableName) (asName : Option String)
      (columns : Option (List String)) (rows : Rows) (upserts : List Upsert)
      (returning : List Output)
  | update (ctes : Ctes) (conflict : Conflict) (table : TableName) (asName : Option String)
      (sets : List (String × Expr)) (filter : Option Expr) (returning : List Output)
  | delete (ctes : Ctes) (table : TableName) (asName : Option String) (filter : Option Expr)
      (returning : List Output)
  | createTable (start : TableStart) (columns : List ColumnSpec)
      (constraints : List TableConstraint) (options : TableOptions)
  | createIndex (unique : Bool) (ifNotExists : Bool) (index : TableName) (table : String)
      (columns : List IndexedColumn) (filter : Option Expr)
  | dropTable (ifExists : Bool) (table : TableName)
  | dropIndex (ifExists : Bool) (index : TableName)
  | begin
  | commit
  | rollback

def Statement.changesRows : Statement → Bool
  | .insert .. | .update .. | .delete .. => true
  | _ => false

theorem changesRows_query (q : Query) : (Statement.query q).changesRows = false := rfl

end DataMapper.Store
