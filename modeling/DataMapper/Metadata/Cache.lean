import DataMapper.Metadata.Build

namespace DataMapper

/-- Descriptions kept by model name, in the order they were built. -/
structure DescriptionCache where
  entries : List (String × MappedModel) := []
  deriving Inhabited

namespace DescriptionCache

def contains (c : DescriptionCache) (name : String) : Bool := c.entries.any (·.1 == name)

def size (c : DescriptionCache) : Nat := c.entries.length

def get (c : DescriptionCache) (build : Model → Except Failure MappedModel) (m : Model) :
    Except Failure MappedModel × DescriptionCache × Bool :=
  match c.entries.lookup m.name with
  | some d => (.ok d, c, false)
  | none =>
    match build m with
    | .ok d => (.ok d, { entries := c.entries ++ [(m.name, d)] }, true)
    | .error e => (.error e, c, true)

theorem get_kept (c : DescriptionCache) (build : Model → Except Failure MappedModel) (m : Model)
    (d : MappedModel) (h : c.entries.lookup m.name = some d) : c.get build m = (.ok d, c, false) := by
  simp [get, h]

end DescriptionCache

end DataMapper
