import DataMapper.Failure
import DataMapper.Text.Blank
import DataMapper.Text.Case

namespace DataMapper

/-- A database family, by its normalised name. -/
structure Dialect where
  name : String
  deriving DecidableEq, Inhabited

namespace Dialect

def ofName? (s : String) : Option Dialect :=
  if Text.isAllBlank s then none else some ⟨Text.toUpper (Text.trim s)⟩

def nameFailure : Failure := .value "Dialect name must be a non-empty string."

def ofValue (v : Value) : Except Failure Dialect :=
  match v with
  | .str s => match ofName? s with
    | some d => .ok d
    | none => .error nameFailure
  | _ => .error nameFailure

def ansi : Dialect := ⟨"ANSI"⟩
def postgres : Dialect := ⟨"POSTGRES"⟩
def mysql : Dialect := ⟨"MYSQL"⟩
def sqlite : Dialect := ⟨"SQLITE"⟩
def h2 : Dialect := ⟨"H2"⟩
def sqlserver : Dialect := ⟨"SQLSERVER"⟩

def known : List Dialect := [ansi, postgres, mysql, sqlite, h2, sqlserver]

def knownEqual (d : Dialect) : List Dialect := known.filter (· = d)

end Dialect

end DataMapper
