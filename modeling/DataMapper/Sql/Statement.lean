import DataMapper.Sql.Generator
import DataMapper.Metadata.Basic

namespace DataMapper.Sql

namespace Generator

def tableText (g : Generator) (m : MappedModel) : String :=
  match m.schema with
  | some s => g.q s ++ "." ++ g.q m.table
  | none => g.q m.table

def fieldPlaceholder (g : Generator) (f : MappedField) : String := g.placeholder f.column f.tags

def returningClause (g : Generator) (m : MappedModel) : String :=
  match m.idField with
  | some f => if g.family.returning && f.isGenerated then " RETURNING " ++ g.q f.column else ""
  | none => ""

def outputClause (g : Generator) (m : MappedModel) : String :=
  match m.idField with
  | some f => if g.family.output && f.isGenerated then " OUTPUT INSERTED." ++ g.q f.column else ""
  | none => ""

def insert (g : Generator) (m : MappedModel) (fields : List MappedField) : String :=
  let table := g.tableText m
  if fields.isEmpty then
    "INSERT INTO " ++ table ++ g.outputClause m ++ " DEFAULT VALUES" ++ g.returningClause m
  else
    "INSERT INTO " ++ table ++ " (" ++ ", ".intercalate (fields.map (g.q ·.column)) ++ ")" ++
      g.outputClause m ++ " VALUES (" ++ ", ".intercalate (fields.map g.fieldPlaceholder) ++ ")" ++
      g.returningClause m

def whereId (g : Generator) (m : MappedModel) : Except Failure String :=
  match m.idField with
  | some f => .ok (g.q f.column ++ " = " ++ g.fieldPlaceholder f)
  | none => .error (.sqlGeneration (m.model.name ++ " has no id field; mark one with Id()."))

def update (g : Generator) (m : MappedModel) (fields : List MappedField) : Except Failure String := do
  let set := fields.filter (!·.isId)
  if set.isEmpty then
    throw (.sqlGeneration ("Cannot UPDATE " ++ m.model.name ++ ": no writable columns besides the id."))
  let clause := ", ".intercalate (set.map fun f => g.q f.column ++ " = " ++ g.fieldPlaceholder f)
  return "UPDATE " ++ g.tableText m ++ " SET " ++ clause ++ " WHERE " ++ (← g.whereId m)

def delete (g : Generator) (m : MappedModel) : Except Failure String := do
  return "DELETE FROM " ++ g.tableText m ++ " WHERE " ++ (← g.whereId m)

def select (g : Generator) (m : MappedModel) : String := "SELECT * FROM " ++ g.tableText m

def selectById (g : Generator) (m : MappedModel) : Except Failure String := do
  return "SELECT * FROM " ++ g.tableText m ++ " WHERE " ++ (← g.whereId m)

def count (g : Generator) (m : MappedModel) : String := "SELECT COUNT(*) FROM " ++ g.tableText m

def existsById (g : Generator) (m : MappedModel) : Except Failure String := do
  return "SELECT COUNT(*) FROM " ++ g.tableText m ++ " WHERE " ++ (← g.whereId m)

end Generator

end DataMapper.Sql
