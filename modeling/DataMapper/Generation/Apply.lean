import DataMapper.Generation.Source
import DataMapper.Generation.Literal
import DataMapper.Registry

namespace DataMapper

/-- The state of filling an entity: the entity and what sources draw on. -/
structure Work where
  entity : Entity
  supply : Supply

abbrev Filling := EStateM Failure Work

namespace Generation

/-- The source a tag names. The registry looks the name up in a dictionary, which first hashes
it: a name that cannot be hashed fails with that failure. -/
def sourceNamed (r : Registries) (name : Value) : Except Failure Source :=
  let missing : Failure := .generation ("No value generator registered with name " ++ name.repr ++ ".")
  match name.hashFailure? with
  | some f => .error f
  | none =>
    match name.asText? with
    | some n =>
      match r.sources.lookup n with
      | some s => .ok s
      | none => .error missing
    | none => .error missing

def lift {α : Type} : Except Failure α → Filling α
  | .ok a => pure a
  | .error e => throw e

/-- Runs the named source for a field. -/
def run (r : Registries) (name : Value) (f : MappedField) : Filling Value := do
  let s ← lift (sourceNamed r name)
  let w ← get
  match s.generate w.entity f w.supply with
  | .ok (v, sup) =>
    set { w with supply := sup }
    pure v
  | .error (.generation m) => throw (.generation m)
  | .error e =>
    throw (.generation ("Generator " ++ name.repr ++ " failed for field " ++ Text.quote f.name ++
      ": " ++ e.message))

def assign (f : MappedField) (v : Value) : Filling Unit := do
  let w ← get
  let e ← lift (w.entity.assign f.name v)
  set { w with entity := e }

/-- The value a default gives a field: the output of the named source, or else the literal
read as the field's declared type. -/
def defaultValue (enums : List EnumDef) (r : Registries) (f : MappedField) (literal generator : Value) :
    Filling Value :=
  if generator.truthy then run r generator f
  else
    match parseLiteral enums literal f.valueType with
    | .ok v => pure v
    | .error e =>
      if e.isValueError || e.isKeyError then
        throw (.generation ("Cannot convert default value " ++ literal.repr ++ " for field " ++
          Text.quote f.name ++ " to " ++ f.valueType.name ++ "."))
      else throw e

def fillDefault (enums : List EnumDef) (r : Registries) (f : MappedField) (literal generator : Value) :
    Filling Unit := do
  let current ← lift ((← get).entity.get f.name)
  if !current.isNone then return
  assign f (← defaultValue enums r f literal generator)

def applyDefault (enums : List EnumDef) (r : Registries) (f : MappedField) : Filling Unit :=
  match f.tag? .defaultValue with
  | some ⟨_, .defaultValue literal generator⟩ => fillDefault enums r f literal generator
  | _ => pure ()

def applyTags (r : Registries) (insert : Bool) (f : MappedField) : List Tag → Filling Unit
  | [] => pure ()
  | t :: ts => do
    match t.body with
    | .generated name onInsert onUpdate =>
      if (if insert then onInsert else onUpdate).truthy then
        assign f (← run r name f)
    | _ => pure ()
    applyTags r insert f ts

def applyFields (enums : List EnumDef) (r : Registries) (insert : Bool) : List MappedField → Filling Unit
  | [] => pure ()
  | f :: fs => do
    if insert then applyDefault enums r f
    applyTags r insert f (f.tagsOf .generated)
    applyFields enums r insert fs

end Generation

def applyGenerated (enums : List EnumDef) (r : Registries) (d : MappedModel) (insert : Bool) :
    Filling Unit :=
  Generation.applyFields enums r insert d.fields

theorem Generation.applyFields_nil (enums : List EnumDef) (r : Registries) (insert : Bool) (w : Work) :
    (Generation.applyFields enums r insert []).run w = .ok () w := rfl

end DataMapper
