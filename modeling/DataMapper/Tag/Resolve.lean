import DataMapper.Tag.Basic

namespace DataMapper

/-- The items of a value that can be walked: characters of a text, items of a list or tuple,
keys of a dictionary, bytes of a byte string. -/
def Value.items? : Value → Except Failure (List Value)
  | .str s => .ok (s.toList.map (fun c => .str (String.ofList [c])))
  | .list xs => .ok xs
  | .tuple xs => .ok xs
  | .dict kvs => .ok (kvs.map (·.1))
  | .bytes bs => .ok (bs.map (fun b => .int b.toNat))
  | .member _ .text _ _ (.str s) => .ok (s.toList.map (fun c => .str (String.ofList [c])))
  | v => .error (.type ("'" ++ v.qualifiedTypeName ++ "' object is not iterable"))

def notATag (v : Value) : Failure :=
  .metadata ("Expected Tag instance, got " ++ v.typeName ++ ": " ++ v.repr ++ ".")

/-- What resolution has gathered: tags kept, classes whose first tag is kept, classes
already expanded. -/
structure Gathered where
  kept : List Tag := []
  seen : List String := []
  expanded : List String := []

/-- Keeps a tag if its class allows it. A tag of a repeatable class is compared with the
kept tags in order, up to the first equal one. -/
def Gathered.keep (voc : Vocabulary) (g : Gathered) (t : Tag) : Except Failure Gathered :=
  if voc.isRepeatable t.cls then do
    if ← g.kept.anyM (Tag.eqChecked · t) then pure g else pure { g with kept := g.kept ++ [t] }
  else if g.seen.contains t.cls then pure g
  else pure { g with seen := g.seen ++ [t.cls], kept := g.kept ++ [t] }

/-- Visits items in order; `depth` bounds how deep carried tags are followed. -/
def visitTags (voc : Vocabulary) : Nat → List Item → Gathered → Except Failure Gathered
  | _, [], g => .ok g
  | _, .other v :: _, _ => .error (notATag v)
  | depth, .tag t :: rest, g =>
    match g.keep voc t with
    | .error e => .error e
    | .ok g =>
      if g.expanded.contains t.cls then visitTags voc depth rest g
      else
        let g := { g with expanded := g.expanded ++ [t.cls] }
        match depth with
        | 0 => visitTags voc 0 rest g
        | d+1 =>
          match visitTags voc d (voc.carried t.cls) g with
          | .ok g => visitTags voc (d+1) rest g
          | .error e => .error e
termination_by depth items => (depth, items.length)

def resolveTags (voc : Vocabulary) (direct : List Item) : Except Failure (List Tag) :=
  (visitTags voc (voc.size+1) direct {}).map (·.kept)

/-- How a field's metadata gives its tags: one tag not in a sequence, or a sequence. -/
inductive TagSource
  | single (item : Item)
  | many (items : List Item)

/-- Metadata of a field: the tags entry and the other entries (`pk`, `auto`, `column`,
`transient`, …). -/
structure FieldMeta where
  tags : Option TagSource := none
  entries : List (String × Value) := []

def FieldMeta.get (m : FieldMeta) (key : String) : Value :=
  (m.entries.lookup key).getD .none

/-- The tags declared through a field's metadata: the tags entry, then `Id` when `pk` is
true (generated when `auto` is true), `Column` when `column` is given, `Transient` when
`transient` is true. -/
def metadataTags (m : FieldMeta) : Except Failure (List Item) := do
  let raw ← match m.tags with
    | none => pure []
    | some (.many items) => pure items
    | some (.single (.tag t)) => pure [.tag t]
    | some (.single (.other v)) => do
      let vs ← v.items?
      pure (vs.map Item.other)
  let pk := if (m.get "pk").truthy then [Item.tag ⟨"Id", .id (.bool (m.get "auto").truthy)⟩] else []
  let col := match m.get "column" with
    | .none => []
    | v => [Item.tag ⟨"Column", .column v⟩]
  let tr := if (m.get "transient").truthy then [Item.tag ⟨"Transient", .transient⟩] else []
  pure (raw ++ pk ++ col ++ tr)

end DataMapper
