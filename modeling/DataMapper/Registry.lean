import DataMapper.Extension.Basic
import DataMapper.Sql.Dialect
import DataMapper.Sql.Generator
import DataMapper.Metadata.Basic

namespace DataMapper

def assocPut {κ α : Type} [BEq κ] (kvs : List (κ × α)) (k : κ) (v : α) : List (κ × α) :=
  if kvs.any (·.1 == k) then kvs.map (fun (k', v') => if k' == k then (k', v) else (k', v'))
  else kvs ++ [(k, v)]

theorem lookup_assocPut {κ α : Type} [BEq κ] [LawfulBEq κ] (kvs : List (κ × α)) (k : κ) (v : α) :
    (assocPut kvs k v).lookup k = some v := by
  unfold assocPut
  split
  · rename_i h
    induction kvs with
    | nil => simp at h
    | cons p ps ih =>
      obtain ⟨k', v'⟩ := p
      by_cases hk : k' = k
      · subst hk; simp
      · have hk' : (k == k') = false := by simp; exact fun e => hk e.symm
        simp only [List.map_cons, List.lookup_cons, hk', beq_iff_eq, hk, if_false]
        exact ih (by simpa [hk] using h)
  · induction kvs with
    | nil => simp
    | cons p ps ih =>
      obtain ⟨k', v'⟩ := p
      rename_i h
      have hk : (k == k') = false := by
        simp only [List.any_cons, Bool.or_eq_true, beq_iff_eq, not_or] at h
        simp; exact fun e => h.1 e.symm
      simp only [List.cons_append, List.lookup_cons, hk]
      exact ih (by simp at h ⊢; exact h.2)

/-- The registries of one configuration. `counters` holds the next value of each counting
source, by slot. -/
structure Registries where
  converters : List (String × Converter) := []
  dialectConverters : List ((String × Dialect) × Converter) := []
  checks : List (String × Check) := []
  sources : List (String × Source) := []
  generators : List (Dialect × Sql.Generator) := []
  counters : List Int := []
  deriving Inhabited

/-- One entry of a module. -/
inductive Registration
  | check (tag : String) (c : Check)
  | converter (tag : String) (c : Converter) (dialect : Option Dialect)
  | source (name : Value) (s : Source)
  | countingSource (name : Value) (start : Int) (kind : String) (function : Bool)
  | dropSource (name : String)
  | generator (dialect : Dialect) (g : Sql.Generator)
  deriving Inhabited

abbrev Module := List Registration

namespace Registries

def registerConverter (r : Registries) (tag : String) (c : Converter) (dialect : Option Dialect) :
    Except Failure Registries :=
  match c with
  | .half => .error (.type ("Converter for " ++ tag ++ " must define to_db() and from_db()."))
  | _ =>
    match dialect with
    | none => .ok { r with converters := assocPut r.converters tag c }
    | some d => .ok { r with dialectConverters := assocPut r.dialectConverters (tag, d) c }

def registerCheck (r : Registries) (tag : String) (c : Check) : Except Failure Registries :=
  match c with
  | .unusable => .error (.type ("Validator for " ++ tag ++ " must be callable or define validate()."))
  | _ => .ok { r with checks := assocPut r.checks tag c }

def checkSource (name : Value) (s : Source) : Except Failure String :=
  match name with
  | .str n =>
    if n.isEmpty then .error (.value "Generator name cannot be empty.")
    else match s with
      | .nothing => .error (.value "Generator cannot be None.")
      | .unusable => .error (.type ("Generator " ++ Text.quote n ++ " must be callable or define generate()."))
      | _ => .ok n
  | _ => .error (.value "Generator name cannot be empty.")

def registerSource (r : Registries) (name : Value) (s : Source) : Except Failure Registries := do
  let n ← checkSource name s
  return { r with sources := assocPut r.sources n s }

def dropSource (r : Registries) (name : String) : Registries :=
  { r with sources := r.sources.filter (·.1 != name) }

def registerGenerator (r : Registries) (d : Dialect) (g : Sql.Generator) : Registries :=
  { r with generators := assocPut r.generators d g }

/-- Applies one registration. -/
def apply (r : Registries) : Registration → Except Failure Registries
  | .check tag c => r.registerCheck tag c
  | .converter tag c d => r.registerConverter tag c d
  | .source n s => r.registerSource n s
  | .countingSource n start kind fn =>
    let slot := r.counters.length
    let r' := { r with counters := r.counters ++ [start] }
    r'.registerSource n (.described (.counter slot) kind fn)
  | .dropSource n => .ok (r.dropSource n)
  | .generator d g => .ok (r.registerGenerator d g)

def install (r : Registries) (m : Module) : Except Failure Registries := m.foldlM apply r

def builtinModule : Module :=
  BuiltinCheck.all.map (fun c => .check c.tagKind.name (.builtin c)) ++
  [.converter "Json" .json none, .converter "EnumColumn" .enumeration none,
   .source (.str "timestamp") (.timestamp true), .source (.str "uuid") .uuid,
   .generator Dialect.postgres ⟨.postgres, false⟩, .generator Dialect.sqlite ⟨.sqlite, false⟩,
   .generator Dialect.mysql ⟨.mysql, false⟩, .generator Dialect.h2 ⟨.h2, false⟩,
   .generator Dialect.sqlserver ⟨.sqlserver, false⟩]

/-- Registries configured by the built-in module (when asked for) and then the given
modules, in order. -/
def configure (builtins : Bool) (modules : List Module) : Except Failure Registries :=
  (if builtins then builtinModule :: modules else modules).foldlM install {}

def converter? (r : Registries) (tag : String) (dialect : Option Dialect) : Option Converter :=
  let specific := match dialect with
    | some d => r.dialectConverters.lookup (tag, d)
    | none => none
  match specific with
  | some c => some c
  | none => r.converters.lookup tag

def convertersFor (r : Registries) (f : MappedField) (dialect : Option Dialect) : List Converter :=
  f.tags.filterMap (fun t => r.converter? t.cls dialect)

def checksFor (r : Registries) (f : MappedField) : List Check :=
  f.tags.filterMap (fun t => r.checks.lookup t.cls)

def sourceExists (r : Registries) (name : String) : Bool := r.sources.any (·.1 == name)

def source (r : Registries) (name : String) : Except Failure Source :=
  match r.sources.lookup name with
  | some s => .ok s
  | none => .error (.generation ("No value generator registered with name " ++ Text.quote name ++ "."))

def generatorFor (r : Registries) (dialect : Option Dialect) : Sql.Generator :=
  match dialect with
  | some d => (r.generators.lookup d).getD Sql.Generator.ansi
  | none => Sql.Generator.ansi

end Registries

end DataMapper
