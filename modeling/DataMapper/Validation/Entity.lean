import DataMapper.Validation.Check
import DataMapper.Registry

namespace DataMapper

namespace Validation

def claim (f : MappedField) (e : FieldError) : FieldError :=
  match e.field with
  | some n => if n.isEmpty then ⟨some f.name, e.message⟩ else e
  | none => ⟨some f.name, e.message⟩

def fieldErrors (f : MappedField) (v : Value) (acc : List FieldError) :
    List Check → Except Failure (List FieldError)
  | [] => .ok acc
  | c :: cs =>
    match c.run f v with
    | .ok () => fieldErrors f v acc cs
    | .error (.validation es) => fieldErrors f v (acc ++ es.map (claim f)) cs
    | .error other => .error other

def errors (r : Registries) (e : Entity) (acc : List FieldError) :
    List MappedField → Except Failure (List FieldError)
  | [] => .ok acc
  | f :: fs => do
    let v ← e.get f.name
    errors r e (← fieldErrors f v acc (r.checksFor f)) fs

end Validation

/-- Checks an entity against the checks registered for its fields; fails with every
validation error found. -/
def validateEntity (r : Registries) (d : MappedModel) (e : Entity) : Except Failure Unit := do
  let es ← Validation.errors r e [] d.fields
  if es.isEmpty then pure () else throw (.validation es)

theorem Validation.claim_message (f : MappedField) (e : FieldError) :
    (Validation.claim f e).message = e.message := by
  unfold Validation.claim
  split
  · split <;> rfl
  · rfl

end DataMapper
