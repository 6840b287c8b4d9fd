import DataMapper.Store.Syntax

namespace DataMapper.Store

/-- Why a statement failed: an error, or a broken constraint (a key of the wrong class
counts as one). -/
inductive StoreError
  | failed (message : String)
  | constraint (message : String)

/-- A column of a table. -/
structure Column where
  name : String
  declared : String
  affinity : Affinity
  notNull : Bool := false
  default : Option Expr := none
  collation : Collation := .binary

/-- A unique constraint: its columns by position, the collation each is compared under, and
the index that made it, when an index did. -/
structure UniqueKey where
  columns : List Nat
  collations : List Collation
  index : Option String := none

/-- An index: its name, the table it is on, and whether it makes a unique constraint. -/
structure IndexEntry where
  name : String
  table : String
  unique : Bool

/-- A stored row: its key and its values in column order. -/
structure StoredRow where
  key : Int
  values : List Datum

/-- A table: its name as created, its columns, the column that is the row key, whether keys
are never reused, whether its columns hold only values of their declared types, whether its
rows have no visible key (they are then ordered by the columns of `order`, each under its
collation and in descending order when flagged), its unique constraints and checks, its rows
in order, and the largest key it ever handed out. -/
structure Table where
  name : String
  columns : List Column
  keyColumn : Option Nat := none
  autoincrement : Bool := false
  strict : Bool := false
  withoutRowid : Bool := false
  order : List (Nat × Collation × Bool) := []
  uniques : List UniqueKey := []
  checks : List (String × Expr) := []
  rows : List StoredRow := []
  highest : Int := 0

/-- The tables and indexes of a database. -/
structure Catalog where
  tables : List Table := []
  indexes : List IndexEntry := []

def foldName (s : String) : String := s.map Char.toLower

def sameName (a b : String) : Bool := foldName a == foldName b

namespace Table

def columnIndex? (t : Table) (name : String) : Option Nat :=
  t.columns.findIdx? (fun c => sameName c.name name)

def valueAt (r : StoredRow) (i : Nat) : Datum := r.values.getD i .null

/-- The next key: one more than the largest key in use (or ever handed out, for tables that
never reuse keys), or one for an empty table. -/
def nextKey (t : Table) : Int :=
  let top := t.rows.foldl (fun m r => max m r.key) 0
  let top := if t.autoincrement then max top t.highest else top
  top + 1

def placeRow (rows : List StoredRow) (r : StoredRow) : List StoredRow :=
  let before := rows.filter (·.key < r.key)
  let after := rows.filter (·.key > r.key)
  before ++ [r] ++ after

def rowOrder (t : Table) (a b : List Datum) : Ordering :=
  t.order.foldl (fun acc (i, c, desc) =>
    match acc with
    | .eq =>
      let o := (a.getD i .null).compareIn c (b.getD i .null)
      if desc then o.swap else o
    | other => other) .eq

/-- Puts a row in the table's order: key order, or the order of its key columns for a table
without visible keys. -/
def place (t : Table) (rows : List StoredRow) (r : StoredRow) : List StoredRow :=
  if t.withoutRowid then
    rows.filter (fun x => t.rowOrder x.values r.values == .lt) ++ [r] ++
      rows.filter (fun x => t.rowOrder x.values r.values != .lt)
  else placeRow rows r

def uniqueText (t : Table) (cols : List Nat) : String :=
  ", ".intercalate (cols.map fun i => t.name ++ "." ++ ((t.columns[i]?.map (·.name)).getD ""))

end Table

namespace Catalog

def find? (c : Catalog) (name : String) : Option Table :=
  c.tables.find? (fun t => sameName t.name name)

def put (c : Catalog) (t : Table) : Catalog :=
  { c with tables := c.tables.map fun u => if sameName u.name t.name then t else u }

def add (c : Catalog) (t : Table) : Catalog := { c with tables := c.tables ++ [t] }

def remove (c : Catalog) (name : String) : Catalog :=
  { c with tables := c.tables.filter (fun t => !sameName t.name name),
           indexes := c.indexes.filter fun i => !sameName i.table name }

def findIndex? (c : Catalog) (name : String) : Option IndexEntry :=
  c.indexes.find? (fun i => sameName i.name name)

theorem find_add_self (c : Catalog) (t : Table) (h : c.find? t.name = none) :
    (c.add t).find? t.name = some t := by
  unfold find? add at *
  rw [List.find?_append, h]
  simp [sameName]

end Catalog

end DataMapper.Store
