import DataMapper.Metadata.Build
import DataMapper.Proofs.Resolution
import Mathlib.Data.List.Nodup

namespace DataMapper.Describe

/-- The first `Column` tag names a non-blank text. -/
def ColumnOk (tags : List Tag) : Prop :=
  ∀ t, tags.find? (·.kind == .column) = some t →
    ∃ v s, t.body = .column v ∧ v.asText? = some s ∧ Text.isAllBlank s = false

/-- The first `DefaultValue` tag sets exactly one of a value and a generator. -/
def DefaultOk (tags : List Tag) : Prop :=
  ∀ t, tags.find? (·.kind == .defaultValue) = some t →
    ∃ v g, t.body = .defaultValue v g ∧ (!v.isNone ^^ g.truthy) = true

/-- Every `Generated` tag names a generator. -/
def GeneratedOk (tags : List Tag) : Prop :=
  ∀ t ∈ tags, ∀ g i u, t.body = .generated g i u → g.truthy = true

/-- The rules the tags of a stored field obey. -/
structure TagsOk (tags : List Tag) : Prop where
  column : ColumnOk tags
  default : DefaultOk tags
  generated : GeneratedOk tags

theorem kind_of_find? {tags : List Tag} {k : TagKind} {t : Tag}
    (h : tags.find? (·.kind == k) = some t) : t.body.kind = k := by
  simpa [Tag.kind] using List.find?_some h

theorem checkColumn_ok_iff (ctx : String) (tags : List Tag) (u : Unit) :
    checkColumn ctx tags = .ok u ↔ ColumnOk tags := by
  unfold checkColumn ColumnOk
  cases h : tags.find? (·.kind == .column) with
  | none => simp
  | some t =>
    obtain ⟨cls, body⟩ := t
    have hk := kind_of_find? h
    cases body <;> simp [TagBody.kind] at hk
    rename_i n
    cases hs : n.asText? <;> simp [hs]

theorem checkColumn_error {ctx : String} {tags : List Tag} {e : Failure}
    (h : checkColumn ctx tags = .error e) : ∃ msg, e = .metadata msg := by
  unfold checkColumn at h
  split at h
  · split at h
    · split at h <;> cases h; exact ⟨_, rfl⟩
    · cases h; exact ⟨_, rfl⟩
  · cases h

theorem checkDefault_ok_iff (ctx : String) (tags : List Tag) (u : Unit) :
    checkDefault ctx tags = .ok u ↔ DefaultOk tags := by
  unfold checkDefault DefaultOk
  cases h : tags.find? (·.kind == .defaultValue) with
  | none => simp
  | some t =>
    obtain ⟨cls, body⟩ := t
    have hk := kind_of_find? h
    cases body <;> simp [TagBody.kind] at hk
    rename_i v g
    cases hv : v.isNone <;> cases hg : g.truthy <;> simp [hv, hg]

theorem checkDefault_error {ctx : String} {tags : List Tag} {e : Failure}
    (h : checkDefault ctx tags = .error e) : ∃ msg, e = .metadata msg := by
  unfold checkDefault at h
  split at h
  · dsimp only at h
    split at h
    · cases h; exact ⟨_, rfl⟩
    · split at h <;> cases h; exact ⟨_, rfl⟩
  · cases h

theorem checkGenerated_ok_iff (ctx : String) (tags : List Tag) (u : Unit) :
    checkGenerated ctx tags = .ok u ↔ GeneratedOk tags := by
  unfold GeneratedOk
  induction tags with
  | nil => simp [checkGenerated]
  | cons t ts ih =>
    obtain ⟨cls, body⟩ := t
    cases body with
    | generated g i u => cases hg : g.truthy <;> simp [checkGenerated, hg, ih]
    | _ => simp [checkGenerated, ih]

theorem checkGenerated_error {ctx : String} {tags : List Tag} {e : Failure}
    (h : checkGenerated ctx tags = .error e) : ∃ msg, e = .metadata msg := by
  induction tags with
  | nil => cases h
  | cons t ts ih =>
    unfold checkGenerated at h
    split at h
    · split at h
      · cases h; exact ⟨_, rfl⟩
      · exact ih h
    · exact ih h

theorem checkTags_ok_iff (ctx : String) (tags : List Tag) :
    checkTags ctx tags = .ok () ↔ TagsOk tags := by
  simp only [checkTags, except_bind_eq_ok, checkColumn_ok_iff, checkDefault_ok_iff,
    checkGenerated_ok_iff, exists_const]
  exact ⟨fun ⟨hc, hd, hg⟩ => ⟨hc, hd, hg⟩, fun ⟨hc, hd, hg⟩ => ⟨hc, hd, hg⟩⟩

theorem checkTags_error {ctx : String} {tags : List Tag} {e : Failure}
    (h : checkTags ctx tags = .error e) : ∃ msg, e = .metadata msg := by
  simp only [checkTags, except_bind_eq_error] at h
  rcases h with h | ⟨⟨⟩, -, h | ⟨⟨⟩, -, h⟩⟩
  · exact checkColumn_error h
  · exact checkDefault_error h
  · exact checkGenerated_error h

end Describe

theorem Value.items?_error {v : Value} {e : Failure} (h : v.items? = .error e) :
    e = .type ("'" ++ v.qualifiedTypeName ++ "' object is not iterable") := by
  unfold Value.items? at h
  split at h <;> cases h
  rfl

theorem metadataTags_error {m : FieldMeta} {e : Failure} (h : metadataTags m = .error e) :
    ∃ v, m.tags = some (.single (.other v)) ∧ v.items? = .error e := by
  unfold metadataTags at h
  cases ht : m.tags with
  | none => simp [ht] at h
  | some src =>
    cases src with
    | many items => simp [ht] at h
    | single item =>
      cases item with
      | tag t => simp [ht] at h
      | other v =>
        cases hv : v.items? with
        | ok vs => simp [ht, hv] at h
        | error e' => simp [ht, hv] at h; exact ⟨v, rfl, h ▸ hv⟩

namespace Describe

/-- A field whose metadata gives as its tags one value that is neither a tag nor a sequence, and
the type failure of walking that value. -/
def BadTagsEntry (f : FieldSpec) (e : Failure) : Prop :=
  ∃ v, f.metadata.tags = some (.single (.other v)) ∧ v.items? = .error e ∧
    e = .type ("'" ++ v.qualifiedTypeName ++ "' object is not iterable")

/-- A field with a tag, reached from its declared type and its metadata, of a repeatable class
and unequal to itself, and the failure of a comparison that signals. -/
def SignalingTag (voc : Vocabulary) (f : FieldSpec) (declared : TypeExpr) (e : Failure) : Prop :=
  e = .invalidOperation ∧ ∃ fromMeta u, metadataTags f.metadata = .ok fromMeta ∧
    Reaches voc (declared.unwrap.2.map Item.tag ++ fromMeta) (.tag u) ∧
    voc.isRepeatable u.cls = true ∧ Tag.eq u u = false

theorem fieldTags_error {voc : Vocabulary} {f : FieldSpec} {t : TypeExpr} {e : Failure}
    (h : fieldTags voc f t = .error e) :
    (∃ v, e = notATag v) ∨ BadTagsEntry f e ∨ SignalingTag voc f t e := by
  simp only [fieldTags, except_bind_eq_error] at h
  rcases h with h | ⟨fromMeta, hmeta, h⟩
  · obtain ⟨v, hv, hitems⟩ := metadataTags_error h
    exact .inr (.inl ⟨v, hv, hitems, Value.items?_error hitems⟩)
  · rcases resolveTags_error_cases h with ⟨v, -, rfl⟩ | rfl
    · exact .inl ⟨v, rfl⟩
    · obtain ⟨u, hu⟩ := resolveTags_invalidOperation h
      exact .inr (.inr ⟨rfl, fromMeta, u, hmeta, hu⟩)

/-- How a field declared with a type is stored: its tags resolve; a transient field is left out,
any other is kept in its stored form, and its tags obey the rules. -/
def Stores (voc : Vocabulary) (f : FieldSpec) (t : TypeExpr) : Option MappedField → Prop
  | none => ∃ tags, fieldTags voc f t = .ok tags ∧ isTransient tags = true
  | some mf => ∃ tags, fieldTags voc f t = .ok tags ∧ isTransient tags = false ∧ TagsOk tags ∧
      mf = stored f t tags

theorem field_ok_iff (voc : Vocabulary) (m : Model) (f : FieldSpec) (t : TypeExpr)
    (r : Option MappedField) : field voc m f t = .ok r ↔ Stores voc f t r := by
  unfold field
  cases ht : fieldTags voc f t with
  | error e =>
    cases r <;> simp [Stores, ht]
  | ok tags =>
    cases htr : isTransient tags with
    | true => cases r <;> simp [Stores, ht, htr]
    | false =>
      have hc := checkTags_ok_iff (m.name ++ "." ++ f.name) tags
      cases hct : checkTags (m.name ++ "." ++ f.name) tags with
      | error e =>
        have hno : ¬ TagsOk tags := fun hok => by rw [← hc] at hok; rw [hok] at hct; cases hct
        cases r <;> simp [Stores, ht, htr, hct, hno]
      | ok u =>
        have hok : TagsOk tags := hc.mp hct
        cases r with
        | none => simp [Stores, ht, htr, hct]
        | some mf =>
          simp only [Stores, ht, htr, hct, except_ok_bind]
          simp only [Bool.false_eq_true, if_false, except_pure, Except.ok.injEq, Option.some.injEq,
            exists_eq_left', htr, hok, true_and]
          exact eq_comm

/-- Every failure of a field is a metadata failure, the failure of walking a tags entry that
is one value, or a signaling comparison of its tags. -/
theorem field_error {voc : Vocabulary} {m : Model} {f : FieldSpec} {t : TypeExpr} {e : Failure}
    (h : field voc m f t = .error e) :
    (∃ msg, e = .metadata msg) ∨ BadTagsEntry f e ∨ SignalingTag voc f t e := by
  unfold field at h
  cases ht : fieldTags voc f t with
  | error e' =>
    rw [ht, except_error_bind] at h
    cases h
    rcases fieldTags_error ht with ⟨v, rfl⟩ | hbad
    · exact .inl ⟨_, rfl⟩
    · exact .inr hbad
  | ok tags =>
    rw [ht, except_ok_bind] at h
    cases htr : isTransient tags <;> simp only [htr, Bool.false_eq_true, if_false, if_true] at h
    · cases hc : checkTags (m.name ++ "." ++ f.name) tags with
      | error e' =>
        rw [hc, except_error_bind] at h
        cases h
        exact .inl (checkTags_error hc)
      | ok u => rw [hc, except_ok_bind] at h; cases h
    · cases h

theorem resolveTypes_ok_iff (m : Model) (types : List TypeExpr) :
    resolveTypes m = .ok types ↔ List.Forall₂ (fun f t => f.type.resolve = .ok t) m.fields types := by
  unfold resolveTypes
  rw [mapM_eq_ok]
  constructor
  · refine List.Forall₂.imp fun f t h => ?_
    revert h
    cases f.type.resolve <;> simp
  · refine List.Forall₂.imp fun f t h => ?_
    simp [h]

theorem resolveTypes_error {m : Model} {e : Failure} (h : resolveTypes m = .error e) :
    ∃ f ∈ m.fields, ∃ fe, f.type.resolve = .error fe ∧ e = forwardFailure m.name fe := by
  obtain ⟨f, hf, he⟩ := mapM_error h
  cases hr : f.type.resolve with
  | ok t => rw [hr] at he; cases he
  | error fe => rw [hr] at he; cases he; exact ⟨f, hf, fe, hr, rfl⟩

theorem forall₂_zip_iff {α β γ : Type} (P : α → β → Prop) (Q : α → β → γ → Prop) (xs : List α)
    (zs : List γ) :
    (∃ ys, List.Forall₂ P xs ys ∧ List.Forall₂ (fun p z => Q p.1 p.2 z) (xs.zip ys) zs) ↔
      List.Forall₂ (fun x z => ∃ y, P x y ∧ Q x y z) xs zs := by
  induction xs generalizing zs with
  | nil =>
    constructor
    · rintro ⟨ys, hys, hzs⟩
      cases hys
      simpa using hzs
    · intro h
      cases h
      exact ⟨[], .nil, .nil⟩
  | cons x xs ih =>
    constructor
    · rintro ⟨_ | ⟨y, ys⟩, hys, hzs⟩
      · cases hys
      · cases hys with
        | cons hp hys =>
          cases hzs with
          | cons hq hzs => exact .cons ⟨y, hp, hq⟩ ((ih _).mp ⟨ys, hys, hzs⟩)
    · intro h
      cases h with
      | cons hxz h =>
        obtain ⟨y, hp, hq⟩ := hxz
        obtain ⟨ys, hys, hzs⟩ := (ih _).mpr h
        exact ⟨y :: ys, .cons hp hys, .cons hq hzs⟩

/-- No two fields share a column, compared without case, and none shares one with a column
already seen. -/
theorem sharedColumn?_eq_none (fs : List MappedField) (seen : List (String × String)) :
    sharedColumn? fs seen = none ↔
      (fs.map (Text.toLower ·.column)).Nodup ∧
        ∀ f ∈ fs, ∀ p ∈ seen, Text.toLower f.column ≠ p.1 := by
  induction fs generalizing seen with
  | nil => simp [sharedColumn?]
  | cons f fs ih =>
    unfold sharedColumn?
    dsimp only
    cases hl : seen.lookup (Text.toLower f.column) with
    | some first =>
      obtain ⟨p, hp, hkey⟩ := List.lookup_isSome_iff.mp (by simp [hl] :
        (seen.lookup (Text.toLower f.column)).isSome)
      simp only [reduceCtorEq, false_iff, not_and]
      intro _ hall
      exact hall f (by simp) p hp (by simpa using hkey)
    | none =>
      have hfresh := List.lookup_eq_none_iff.mp hl
      simp only [ih, List.map_cons, List.nodup_cons, List.mem_map, List.mem_append,
        List.mem_cons, List.not_mem_nil, or_false]
      constructor
      · rintro ⟨hnd, hall⟩
        refine ⟨⟨?_, hnd⟩, ?_⟩
        · rintro ⟨g, hg, hgk⟩
          exact hall g hg _ (.inr rfl) hgk
        · rintro g (rfl | hg) p hp
          · simpa using hfresh p hp
          · exact hall g hg p (.inl hp)
      · rintro ⟨⟨hnot, hnd⟩, hall⟩
        refine ⟨hnd, ?_⟩
        rintro g hg p (hp | rfl)
        · exact hall g (.inr hg) p hp
        · exact fun hgk => hnot ⟨g, hg, hgk⟩

/-- What a model is described as, by the rules of `MappedModel.describe` stated without the order
in which failures are found: a record class whose every field has a type that reads and is
stored or left out by the rules, with at most one id field and no column shared without regard
to case; table, schema and the read-only flag come from the model's attributes. -/
structure DescribesAs (voc : Vocabulary) (m : Model) (d : MappedModel) : Prop where
  record : m.isRecord = true
  stores : ∃ rs, List.Forall₂ (fun f r => ∃ t, f.type.resolve = .ok t ∧ Stores voc f t r)
    m.fields rs ∧ d.fields = rs.filterMap id
  oneId : (d.fields.filter (·.isId)).length ≤ 1
  columns : (d.fields.map (Text.toLower ·.column)).Nodup
  model : d.model = m
  table : d.table = (textAttr m.table).getD (Text.toLower m.name)
  schema : d.schema = textAttr m.schema
  idField : d.idField = d.fields.find? (·.isId)
  queryOnly : d.queryOnly = (m.queryOnly.getD (.bool false)).truthy

/-- The stored fields keep the names of the model's fields they come from, in declaration
order. -/
theorem DescribesAs.names_sublist {voc : Vocabulary} {m : Model} {d : MappedModel}
    (hd : DescribesAs voc m d) : (d.fields.map (·.name)).Sublist (m.fields.map (·.name)) := by
  obtain ⟨rs, hrs, hfields⟩ := hd.stores
  rw [hfields]
  clear hfields
  generalize m.fields = fs at hrs ⊢
  induction hrs with
  | nil => simp
  | @cons f r fs rs hfr _ ih =>
    cases r with
    | none => simpa using ih.cons f.name
    | some mf =>
      obtain ⟨t, -, tags, -, -, -, rfl⟩ := hfr
      simpa [stored] using ih.cons_cons f.name

theorem DescribesAs.columns_nodup {voc : Vocabulary} {m : Model} {d : MappedModel}
    (hd : DescribesAs voc m d) : (d.fields.map (·.column)).Nodup := by
  have h : ((d.fields.map (·.column)).map Text.toLower).Nodup := by
    rw [List.map_map]
    exact hd.columns
  exact List.Nodup.of_map Text.toLower h

theorem fields_ok_iff (voc : Vocabulary) (m : Model) (types : List TypeExpr)
    (mapped : List MappedField) :
    (m.fields.zip types).filterMapM (fun (f, t) => field voc m f t) = .ok mapped ↔
      ∃ rs, List.Forall₂ (fun p r => Stores voc p.1 p.2 r) (m.fields.zip types) rs ∧
        mapped = rs.filterMap id := by
  rw [filterMapM_eq_ok]
  constructor
  · rintro ⟨rs, hrs, rfl⟩
    exact ⟨rs, hrs.imp fun ⟨f, t⟩ r h => (field_ok_iff voc m f t r).mp h, rfl⟩
  · rintro ⟨rs, hrs, rfl⟩
    exact ⟨rs, hrs.imp fun ⟨f, t⟩ r h => (field_ok_iff voc m f t r).mpr h, rfl⟩

/-- In a list whose keys are distinct, the first element with the key of a member is that
member. -/
theorem find?_key_eq_some {α : Type} (key : α → String) {l : List α} (hl : (l.map key).Nodup)
    {a : α} (ha : a ∈ l) (k : String) : l.find? (fun b => key b == k) = some a ↔ k = key a := by
  induction l with
  | nil => cases ha
  | cons b l ih =>
    rw [List.map_cons, List.nodup_cons] at hl
    obtain ⟨hb, hl⟩ := hl
    rw [List.find?_cons]
    rcases List.mem_cons.mp ha with rfl | ha
    · by_cases hk : k = key a
      · simp [hk]
      · have hak : (key a == k) = false := by simpa using Ne.symm hk
        have hno : l.find? (fun b => key b == k) ≠ some a := fun hf => by
          have hfa := List.find?_some hf
          rw [hak] at hfa
          cases hfa
        rw [hak]
        simp only [hno, hk]
    · have hab : key b ≠ key a := fun he => hb (he ▸ List.mem_map_of_mem ha)
      by_cases hk : k = key b
      · have hba : b ≠ a := fun he => hab (he ▸ rfl)
        simp [hk, hab, hba]
      · have hbk : (key b == k) = false := by simpa using Ne.symm hk
        rw [hbk]
        exact ih hl ha

end DataMapper.Describe

namespace DataMapper.MappedModel

open Describe

theorem describe_ok_iff (voc : Vocabulary) (m : Model) (d : MappedModel) :
    MappedModel.describe voc m = .ok d ↔ DescribesAs voc m d := by
  unfold MappedModel.describe
  cases hr : m.isRecord
  · simp only [Bool.not_false, if_true, except_throw, except_error_bind, reduceCtorEq, false_iff]
    exact fun h => absurd h.record (by simp [hr])
  simp only [Bool.not_true, Bool.false_eq_true, if_false, except_pure]
  constructor
  · intro h
    cases ht : resolveTypes m with
    | error e => rw [ht, except_error_bind] at h; cases h
    | ok types =>
      rw [ht, except_ok_bind] at h
      cases hm : (m.fields.zip types).filterMapM (fun (f, t) => field voc m f t) with
      | error e => rw [hm, except_error_bind] at h; cases h
      | ok mapped =>
        rw [hm, except_ok_bind] at h
        have hid : ¬ (mapped.filter (·.isId)).length > 1 := by
          intro hgt
          simp only [hgt, if_true, except_throw, except_error_bind] at h
          cases h
        simp only [hid, if_false] at h
        cases hsc : sharedColumn? mapped [] with
        | some p => rw [hsc] at h; cases h
        | none =>
          rw [hsc] at h
          cases h
          obtain ⟨rs, hrs, rfl⟩ := (fields_ok_iff voc m types mapped).mp hm
          exact {
            record := hr
            stores := ⟨rs, (forall₂_zip_iff _ _ _ _).mp
              ⟨types, (resolveTypes_ok_iff m types).mp ht, hrs⟩, rfl⟩
            oneId := Nat.le_of_not_lt hid
            columns := ((sharedColumn?_eq_none _ []).mp hsc).1
            model := rfl
            table := rfl
            schema := rfl
            idField := by simp
            queryOnly := rfl }
  · intro hd
    obtain ⟨rs, hrs, hfields⟩ := hd.stores
    obtain ⟨types, htypes, hzip⟩ := (forall₂_zip_iff _ _ _ _).mpr hrs
    rw [(resolveTypes_ok_iff m types).mpr htypes, except_ok_bind,
      (fields_ok_iff voc m types (rs.filterMap id)).mpr ⟨rs, hzip, rfl⟩, except_ok_bind,
      ← hfields]
    have hid : ¬ (d.fields.filter (·.isId)).length > 1 := by have := hd.oneId; omega
    have hsc : sharedColumn? d.fields [] = none :=
      (sharedColumn?_eq_none _ []).mpr ⟨hd.columns, by simp⟩
    simp only [hid, if_false, hsc]
    obtain ⟨-, -, -, -, hmodel, htable, hschema, hidf, hq⟩ := hd
    congr 1
    cases d
    simp only at hmodel htable hschema hidf hq ⊢
    simp [hmodel, htable, hschema, hidf, hq]

/-- A record model with one field, whose type reads and whose tags resolve, leave it stored and
obey the rules, is described with that field alone. -/
theorem describe_one_field {voc : Vocabulary} {m : Model} {spec : FieldSpec} {t : TypeExpr}
    {tags : List Tag} (hrec : m.isRecord = true) (hfields : m.fields = [spec])
    (htype : spec.type.resolve = .ok t) (htags : fieldTags voc spec t = .ok tags)
    (htr : isTransient tags = false) (hok : TagsOk tags) :
    describe voc m = .ok
      { model := m, table := (textAttr m.table).getD (Text.toLower m.name),
        schema := textAttr m.schema, fields := [stored spec t tags],
        idField := [stored spec t tags].find? (·.isId),
        queryOnly := (m.queryOnly.getD (.bool false)).truthy } := by
  rw [describe_ok_iff]
  exact {
    record := hrec
    stores := ⟨[some (stored spec t tags)],
      hfields ▸ .cons ⟨t, htype, _, htags, htr, hok, rfl⟩ .nil, rfl⟩
    oneId := (List.length_filter_le _ _).trans (by simp)
    columns := List.nodup_singleton _
    model := rfl
    table := rfl
    schema := rfl
    idField := rfl
    queryOnly := rfl }

/-- When every type text of a model reads, describing it fails only with a metadata failure,
with the type failure of walking a field's tags entry that is one value, or at a signaling
comparison of a field's tags. -/
theorem describe_error {voc : Vocabulary} {m : Model} {e : Failure}
    (hread : ∀ f ∈ m.fields, ∀ t, f.type.resolve ≠ .error (.malformed t))
    (h : describe voc m = .error e) :
    (∃ msg, e = .metadata msg) ∨ (∃ f ∈ m.fields, BadTagsEntry f e) ∨
      ∃ f ∈ m.fields, ∃ t, f.type.resolve = .ok t ∧ SignalingTag voc f t e := by
  unfold describe at h
  cases hr : m.isRecord
  · simp only [hr, Bool.not_false, if_true, except_throw, except_error_bind] at h
    cases h
    exact .inl ⟨_, rfl⟩
  simp only [hr, Bool.not_true, Bool.false_eq_true, if_false, except_pure] at h
  cases ht : resolveTypes m with
  | error e' =>
    rw [ht, except_error_bind] at h
    cases h
    obtain ⟨f, hf, fe, hfe, rfl⟩ := resolveTypes_error ht
    -- a type text that reads wrongly is the one failure that is not a metadata failure
    cases fe with
    | malformed t => exact absurd hfe (hread f hf t)
    | undefined n => exact .inl ⟨_, rfl⟩
    | notSubscriptable => exact .inl ⟨_, rfl⟩
  | ok types =>
    rw [ht, except_ok_bind] at h
    cases hm : (m.fields.zip types).filterMapM (fun (f, t) => field voc m f t) with
    | error e' =>
      rw [hm, except_error_bind] at h
      cases h
      obtain ⟨⟨f, t⟩, hmem, hft⟩ := filterMapM_error hm
      have hf := (List.of_mem_zip hmem).1
      rcases field_error hft with hmeta | hbad | hsig
      · exact .inl hmeta
      · exact .inr (.inl ⟨f, hf, hbad⟩)
      · have hres : f.type.resolve = .ok t :=
          (List.forall₂_iff_zip.mp ((resolveTypes_ok_iff m types).mp ht)).2 hmem
        exact .inr (.inr ⟨f, hf, t, hres, hsig⟩)
    | ok mapped =>
      rw [hm, except_ok_bind] at h
      by_cases hid : (mapped.filter (·.isId)).length > 1
      · simp only [hid, if_true, except_throw, except_error_bind] at h
        cases h
        exact .inl ⟨_, rfl⟩
      simp only [hid, if_false] at h
      cases hsc : sharedColumn? mapped [] with
      | some p => rw [hsc] at h; cases h; exact .inl ⟨_, rfl⟩
      | none => rw [hsc] at h; cases h

/-- In a described model, a stored field is found by its column and by no other, compared
without case. -/
theorem fieldForColumn?_eq_some {voc : Vocabulary} {m : Model} {d : MappedModel}
    (hd : DescribesAs voc m d) {f : MappedField} (hf : f ∈ d.fields) (c : String) :
    d.fieldForColumn? c = some f ↔ Text.toLower c = Text.toLower f.column := by
  dsimp only [fieldForColumn?]
  exact find?_key_eq_some (fun g : MappedField => Text.toLower g.column) hd.columns hf
    (Text.toLower c)

/-- A model whose type texts all read is described exactly when it obeys the rules: a record
class whose fields' tags resolve and obey the tag rules, with at most one id field and no column
shared without regard to case. Every refusal is a metadata failure, save the type failure of
walking a field's tags entry that is one value and the failure of a signaling comparison of a
field's tags; and in what is described, each stored field is found by its column. -/
theorem describe_iff_wellFormed (voc : Vocabulary) (m : Model)
    (hread : ∀ f ∈ m.fields, ∀ t, f.type.resolve ≠ .error (.malformed t)) :
    (∀ d, describe voc m = .ok d ↔ DescribesAs voc m d) ∧
    (∀ e, describe voc m = .error e →
      (∃ msg, e = .metadata msg) ∨ (∃ f ∈ m.fields, BadTagsEntry f e) ∨
        ∃ f ∈ m.fields, ∃ t, f.type.resolve = .ok t ∧ SignalingTag voc f t e) ∧
    ∀ d, describe voc m = .ok d → ∀ f ∈ d.fields, ∀ c,
      d.fieldForColumn? c = some f ↔ Text.toLower c = Text.toLower f.column :=
  ⟨describe_ok_iff voc m, fun _ => describe_error hread,
    fun d h _ hf c => fieldForColumn?_eq_some ((describe_ok_iff voc m d).mp h) hf c⟩

theorem describe_iff_wellFormed_item :
    let m : Model :=
      { name := "Item"
        fields := [{ name := "id", type := .annotated (.cls .int) [.tag ⟨"Id", .id (.bool true)⟩] },
          { name := "labels", type := .generic .list [.cls .str] }] }
    (∀ f ∈ m.fields, ∀ t, f.type.resolve ≠ .error (.malformed t)) ∧
    (∀ d, describe {} m = .ok d ↔ DescribesAs {} m d) ∧
    (∀ e, describe {} m = .error e →
      (∃ msg, e = .metadata msg) ∨ (∃ f ∈ m.fields, BadTagsEntry f e) ∨
        ∃ f ∈ m.fields, ∃ t, f.type.resolve = .ok t ∧ SignalingTag {} f t e) ∧
    ∀ d, describe {} m = .ok d → ∀ f ∈ d.fields, ∀ c,
      d.fieldForColumn? c = some f ↔ Text.toLower c = Text.toLower f.column := by
  intro m
  have hread : ∀ f ∈ m.fields, ∀ t, f.type.resolve ≠ .error (.malformed t) := by
    intro f hf t
    simp only [m, List.mem_cons, List.not_mem_nil, or_false] at hf
    rcases hf with rfl | rfl <;> simp [TypeExpr.resolve, TypeExpr.resolveAll]
  exact ⟨hread, describe_iff_wellFormed {} m hread⟩

/-- A field whose metadata gives the number 5 as its tags: describing its model fails with the
type failure of walking a number, not with a metadata failure. -/
theorem describe_numeric_tags_entry :
    describe {}
        { name := "M"
          fields := [{ name := "x", type := .cls .int
                       metadata := { tags := some (.single (.other (.int 5))) } }] } =
      .error (.type "'int' object is not iterable") := rfl

end DataMapper.MappedModel
