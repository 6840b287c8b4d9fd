import DataMapper.Proofs.RoundTrip

namespace DataMapper

namespace Failure

/-- The runtime's own refusals of a value: a bad value, a wrong type, an overflow, an invalid
decimal operation. -/
def isRefusal : Failure → Bool
  | .value _ | .type _ | .overflow _ | .invalidOperation => true
  | _ => false

theorem isBadValue_of_isRefusal {e : Failure} (h : e.isRefusal) : Mapping.isBadValue e := by
  cases e <;> simp_all [isRefusal, Mapping.isBadValue, isValueError, isTypeError, isArithmetic]

end Failure

/-- A computation that, when it fails, fails with a refusal of the runtime. -/
def RefusesOnly {α : Type} (x : Except Failure α) : Prop := ∀ e, x = .error e → e.isRefusal

namespace RefusesOnly

variable {α β : Type}

@[simp] theorem ok (a : α) : RefusesOnly (.ok a : Except Failure α) := by
  intro e h
  cases h

@[simp] theorem error_iff (e : Failure) : RefusesOnly (.error e : Except Failure α) ↔ e.isRefusal :=
  ⟨fun h => h e rfl, fun h e' he => by cases he; exact h⟩

@[simp] theorem map_iff (f : α → β) (x : Except Failure α) :
    RefusesOnly (x.map f) ↔ RefusesOnly x := by
  cases x <;> simp [Except.map]

theorem bind {x : Except Failure α} {f : α → Except Failure β} (hx : RefusesOnly x)
    (hf : ∀ a, RefusesOnly (f a)) : RefusesOnly (x >>= f) := by
  cases x with
  | error e => simpa using hx
  | ok a => exact hf a

end RefusesOnly

namespace Cast

@[simp] theorem floatToInt_refusesOnly (x : Binary64) : RefusesOnly (floatToInt x) := by
  unfold floatToInt
  split
  · simp [Failure.isRefusal]
  · split <;> simp [Failure.isRefusal]

@[simp] theorem decimalToInt_refusesOnly (d : Decimal) : RefusesOnly (decimalToInt d) := by
  unfold decimalToInt
  repeat' split
  all_goals simp [Failure.isRefusal]

@[simp] theorem intOfText_refusesOnly (s : String) : RefusesOnly (intOfText s) := by
  unfold intOfText
  split
  · simp
  · rename_i err _
    cases err <;> simp [intFailure, Failure.isRefusal]

@[simp] theorem intToFloat_refusesOnly (n : Int) : RefusesOnly (intToFloat n) := by
  unfold intToFloat
  dsimp only
  split <;> simp [Failure.isRefusal]

@[simp] theorem decimalToFloat_refusesOnly (d : Decimal) : RefusesOnly (decimalToFloat d) := by
  unfold decimalToFloat
  split <;> simp [Failure.isRefusal]

@[simp] theorem floatOfText_refusesOnly (s : String) : RefusesOnly (floatOfText s) := by
  unfold floatOfText
  split <;> simp [Failure.isRefusal]

end Cast

namespace Value

@[simp] theorem toInt_refusesOnly (v : Value) : RefusesOnly v.toInt := by
  fun_induction Value.toInt v with
  | case10 _ _ _ _ ih | case11 _ _ _ _ ih => exact ih
  | _ => simp +zetaDelta [Cast.intFailure, Failure.isRefusal]

@[simp] theorem toFloat_refusesOnly (v : Value) : RefusesOnly v.toFloat := by
  fun_induction Value.toFloat v with
  | case6 _ _ _ _ ih | case7 _ _ _ _ ih => exact ih
  | _ => simp [Failure.isRefusal]

end Value

@[simp] theorem readDateTime_refusesOnly (s : String) : RefusesOnly (readDateTime s) := by
  unfold readDateTime
  split <;> simp [TimeError.failure, Failure.isRefusal]

@[simp] theorem readDate_refusesOnly (s : String) : RefusesOnly (readDate s) := by
  unfold readDate
  split <;> simp [TimeError.failure, Failure.isRefusal]

@[simp] theorem readTime_refusesOnly (s : String) : RefusesOnly (readTime s) := by
  unfold readTime
  split <;> simp [TimeError.failure, Failure.isRefusal]

@[simp] theorem uuidOfText_refusesOnly (s : String) : RefusesOnly (uuidOfText s) := by
  unfold uuidOfText
  dsimp only
  repeat' split
  all_goals simp [Uuid.badlyFormed, Failure.isRefusal]

namespace Mapping

@[simp] theorem coerce_refusesOnly (v : Value) (t : TypeExpr) : RefusesOnly (coerce v t) := by
  cases t with
  | cls c =>
    dsimp only [coerce]
    split_ifs
    all_goals repeat' split
    all_goals simp [RefusesOnly.bind, Failure.isRefusal]
  | _ => exact RefusesOnly.ok v

end Mapping

namespace Convert

@[simp] theorem readJson_refusesOnly (f : MappedField) (shown : Value) (s : String) :
    RefusesOnly (readJson f shown s) := by
  unfold readJson
  split <;> simp [Failure.isRefusal]

@[simp] theorem jsonFromDb_refusesOnly (f : MappedField) (v : Value) :
    RefusesOnly (jsonFromDb f v) := by
  unfold jsonFromDb
  repeat' split
  all_goals simp [Failure.isRefusal]

@[simp] theorem enumOf_refusesOnly (enums : List EnumDef) (f : MappedField) :
    RefusesOnly (enumOf enums f) := by
  unfold enumOf
  repeat' split
  all_goals simp [Failure.isRefusal]

@[simp] theorem lookup_refusesOnly (d : EnumDef) (f : MappedField) (v : Value) :
    RefusesOnly (lookup d f v) := by
  unfold lookup
  dsimp only
  split
  · simp
  · split <;> simp [Failure.isRefusal]

@[simp] theorem enumFromDb_refusesOnly (enums : List EnumDef) (f : MappedField) (v : Value) :
    RefusesOnly (enumFromDb enums f v) := by
  unfold enumFromDb
  split
  · simp
  · refine RefusesOnly.bind (enumOf_refusesOnly enums f) fun d => ?_
    repeat' split
    all_goals simp [invalidOrdinal, Failure.isRefusal]
    exact Value.toInt_refusesOnly v _ ‹_›

end Convert

namespace Converter

/-- The converters the library brings: JSON and enumerations. -/
def isBuiltin : Converter → Bool
  | .json | .enumeration => true
  | _ => false

theorem fromDbAll_refusesOnly (enums : List EnumDef) (f : MappedField) {cs : List Converter}
    (hcs : ∀ c ∈ cs, c.isBuiltin) (v : Value) : RefusesOnly (fromDbAll enums f cs v) := by
  induction cs generalizing v with
  | nil => simp [fromDbAll]
  | cons c cs ih =>
    simp only [fromDbAll]
    refine RefusesOnly.bind ?_ fun w => ih (fun c' h => hcs c' (.tail c h)) w
    have hc := hcs c (.head cs)
    cases c <;> simp_all [isBuiltin, fromDb]

end Converter

/-- Whether a value read into a field of class `c` has the right type: an instance of `c`,
and for a double a double or a boolean. -/
def ValueClass.typed : ValueClass → Value → Bool
  | .float, .float _ | .float, .bool _ => true
  | .float, _ => false
  | c, v => c.holds v

namespace Mapping

/-- What coercing to a double gives: a double it made, or the value as it was when that is no
integer. -/
theorem coerce_float_cases {v w : Value} (h : coerce v (.cls .float) = .ok w) :
    (∃ x, w = .float x) ∨ (w = v ∧ isInteger v = false) := by
  dsimp only [coerce] at h
  cases v with
  | member e base nm i x =>
    cases base <;> simp [ValueClass.holds, isInteger, except_map_eq_ok] at h ⊢ <;> grind
  | _ =>
    simp [ValueClass.holds, isInteger, except_map_eq_ok] at h ⊢
    grind

theorem coerce_typed {v w : Value} {c : ValueClass} (h : coerce v (.cls c) = .ok w)
    (hadm : admits (.cls c) w) : c.typed w := by
  cases c
  case float =>
    rcases coerce_float_cases h with ⟨x, rfl⟩ | ⟨rfl, hint⟩
    · rfl
    · cases w with
      | member e base nm i x =>
        cases base <;> simp_all [admits, TypeExpr.checkedClass?, ValueClass.holds, isInteger]
      | _ => simp_all [admits, TypeExpr.checkedClass?, ValueClass.holds, ValueClass.typed, isInteger]
  all_goals simp_all [admits, TypeExpr.checkedClass?, ValueClass.typed, ValueClass.holds]

section Reading

variable {enums : List EnumDef} {r : Registries} {dialect : Option Dialect} {model : String}
  {f : MappedField} {raw : Value}

theorem converted_refusesOnly (hconv : ∀ cv ∈ r.convertersFor f dialect, cv.isBuiltin) :
    RefusesOnly (Converter.fromDbAll enums f (r.convertersFor f dialect) raw >>= fun v =>
      if v.isNone then pure .none else coerce v f.valueType) :=
  RefusesOnly.bind (Converter.fromDbAll_refusesOnly enums f hconv raw) fun v => by
    split <;> simp

/-- A refusal before the class check is reported as a value that does not fit the field,
showing the stored value. -/
theorem readValue_of_refusal {e : Failure}
    (h : (Converter.fromDbAll enums f (r.convertersFor f dialect) raw >>= fun v =>
      if v.isNone then pure .none else coerce v f.valueType) = .error e) (he : e.isRefusal) :
    readValue enums r dialect model f raw = .error (mismatch model f raw) := by
  unfold readValue
  dsimp only
  rw [h]
  have hbad : isBadValue e := Failure.isBadValue_of_isRefusal he
  -- a refusal is no mapping failure, so the bad-value branch reads it
  cases e <;> simp_all [Failure.isRefusal]

theorem readValue_of_converted {v : Value}
    (h : (Converter.fromDbAll enums f (r.convertersFor f dialect) raw >>= fun v =>
      if v.isNone then pure .none else coerce v f.valueType) = .ok v) (hv : v ≠ .none) :
    readValue enums r dialect model f raw =
      if admits f.valueType v then .ok v else .error (mismatch model f v) := by
  unfold readValue
  dsimp only
  rw [h]
  cases v <;> simp_all

/-- What the converters and the coercion refuse is refused by a converter, or by the coercion
of what the converters gave. -/
theorem converted_error {e : Failure}
    (h : (Converter.fromDbAll enums f (r.convertersFor f dialect) raw >>= fun v =>
      if v.isNone then pure .none else coerce v f.valueType) = .error e) :
    Converter.fromDbAll enums f (r.convertersFor f dialect) raw = .error e ∨
      ∃ w, Converter.fromDbAll enums f (r.convertersFor f dialect) raw = .ok w ∧
        w.isNone = false ∧ coerce w f.valueType = .error e := by
  cases hfrom : Converter.fromDbAll enums f (r.convertersFor f dialect) raw with
  | error e' =>
    rw [hfrom] at h
    cases h
    exact .inl rfl
  | ok w =>
    rw [hfrom, except_ok_bind] at h
    cases hw : w.isNone with
    | true =>
      simp only [hw, if_true] at h
      cases h
    | false =>
      simp only [hw, Bool.false_eq_true, if_false] at h
      exact .inr ⟨w, rfl, hw, h⟩

/-- Something read is the coercion of what the converters gave. -/
theorem converted_ok {v : Value}
    (h : (Converter.fromDbAll enums f (r.convertersFor f dialect) raw >>= fun v =>
      if v.isNone then pure .none else coerce v f.valueType) = .ok v) (hv : v ≠ .none) :
    ∃ w, Converter.fromDbAll enums f (r.convertersFor f dialect) raw = .ok w ∧
      w.isNone = false ∧ coerce w f.valueType = .ok v := by
  obtain ⟨w, hfrom, hw⟩ := except_bind_eq_ok.mp h
  split at hw
  · cases hw
    exact absurd rfl hv
  · next hn => exact ⟨w, hfrom, by simpa using hn, hw⟩

/-- The outcomes of reading into a field declared with a class through the built-in
converters: nothing; a value of the right type; a mismatch showing the stored value, when a
converter or the coercion refuses; or a mismatch showing the coerced value, when that does not
fit the field. -/
theorem readValue_outcome {c : ValueClass} (hc : f.valueType = .cls c)
    (hconv : ∀ cv ∈ r.convertersFor f dialect, cv.isBuiltin) :
    readValue enums r dialect model f raw = .ok .none ∨
      (∃ v, readValue enums r dialect model f raw = .ok v ∧ v ≠ .none ∧ c.typed v) ∨
      (∃ e, e.isRefusal ∧
        (Converter.fromDbAll enums f (r.convertersFor f dialect) raw = .error e ∨
          ∃ w, Converter.fromDbAll enums f (r.convertersFor f dialect) raw = .ok w ∧
            w.isNone = false ∧ coerce w f.valueType = .error e) ∧
        readValue enums r dialect model f raw = .error (mismatch model f raw)) ∨
      ∃ w v, Converter.fromDbAll enums f (r.convertersFor f dialect) raw = .ok w ∧
        w.isNone = false ∧ coerce w f.valueType = .ok v ∧ admits f.valueType v = false ∧
        readValue enums r dialect model f raw = .error (mismatch model f v) := by
  cases hres : (Converter.fromDbAll enums f (r.convertersFor f dialect) raw >>= fun v =>
      if v.isNone then pure .none else coerce v f.valueType) with
  | error e =>
    have he := converted_refusesOnly hconv e hres
    exact .inr (.inr (.inl ⟨e, he, converted_error hres, readValue_of_refusal hres he⟩))
  | ok v =>
    by_cases hv : v = .none
    · subst hv
      left
      unfold readValue
      simp only [hres]
    · obtain ⟨w, hfrom, hwn, hco⟩ := converted_ok hres hv
      have hco' : coerce w (.cls c) = .ok v := hc ▸ hco
      rw [readValue_of_converted hres hv]
      by_cases hadm : admits f.valueType v
      · exact .inr (.inl ⟨v, by simp [hadm], hv, coerce_typed hco' (hc ▸ hadm)⟩)
      · exact .inr (.inr (.inr ⟨w, v, hfrom, hwn, hco, by simpa using hadm, by simp [hadm]⟩))

end Reading

end Mapping

section Rows

variable {enums : List EnumDef} {r : Registries} {dialect : Option Dialect} {d : MappedModel}

open Mapping

theorem readColumn_cases {acc acc' : List (String × Value)} {cell : Value × Value}
    (h : readColumn enums r dialect d acc cell = .ok acc') :
    (d.fieldForColumn? cell.1.plain = none ∧ acc' = acc) ∨
      ∃ g v, d.fieldForColumn? cell.1.plain = some g ∧
        readValue enums r dialect d.model.name g cell.2 = .ok v ∧ acc' = assocPut acc g.name v := by
  unfold readColumn at h
  split at h
  · cases h
    exact .inl ⟨‹_›, rfl⟩
  · obtain ⟨v, hv, hput⟩ := except_bind_eq_ok.mp h
    cases hput
    exact .inr ⟨_, v, ‹_›, hv, rfl⟩

/-- Every value given after reading the cells was already given, or is a value read into a
field of that name. -/
theorem foldlM_readColumn_lookup {row : List (Value × Value)} {acc given : List (String × Value)}
    (h : row.foldlM (readColumn enums r dialect d) acc = .ok given) {k : String} {v : Value}
    (hk : given.lookup k = some v) :
    acc.lookup k = some v ∨ ∃ g ∈ d.fields, ∃ raw, g.name = k ∧
      readValue enums r dialect d.model.name g raw = .ok v := by
  induction row generalizing acc with
  | nil =>
    cases h
    exact .inl hk
  | cons cell row ih =>
    rw [List.foldlM_cons] at h
    obtain ⟨acc', hstep, hrest⟩ := except_bind_eq_ok.mp h
    rcases ih hrest with hacc | hread
    · rcases readColumn_cases hstep with ⟨-, rfl⟩ | ⟨g, w, hg, hw, rfl⟩
      · exact .inl hacc
      · by_cases hname : g.name = k
        · subst hname
          rw [lookup_assocPut] at hacc
          cases hacc
          exact .inr ⟨g, List.mem_of_find?_eq_some hg, cell.2, rfl, hw⟩
        · exact .inl (by rwa [lookup_assocPut_of_ne _ _ hname] at hacc)
    · exact .inr hread

theorem foldlM_readColumn_isSome {row : List (Value × Value)} {acc given : List (String × Value)}
    (h : row.foldlM (readColumn enums r dialect d) acc = .ok given) {k : String}
    (hk : (acc.lookup k).isSome ∨ ∃ cell ∈ row, ∃ g, d.fieldForColumn? cell.1.plain = some g ∧
      g.name = k) : (given.lookup k).isSome := by
  induction row generalizing acc with
  | nil =>
    cases h
    simpa using hk
  | cons cell row ih =>
    rw [List.foldlM_cons] at h
    obtain ⟨acc', hstep, hrest⟩ := except_bind_eq_ok.mp h
    apply ih hrest
    rcases hk with hacc | ⟨cell', hmem, g, hg, hname⟩
    · left
      rcases readColumn_cases hstep with ⟨-, rfl⟩ | ⟨g', w, -, -, rfl⟩
      · exact hacc
      · by_cases hname : g'.name = k
        · subst hname
          simp [lookup_assocPut]
        · rwa [lookup_assocPut_of_ne _ _ hname]
    · rcases List.mem_cons.mp hmem with rfl | hmem
      · left
        rcases readColumn_cases hstep with ⟨hnone, -⟩ | ⟨g', w, hg', -, rfl⟩
        · rw [hg] at hnone
          cases hnone
        · rw [hg] at hg'
          cases hg'
          subst hname
          simp [lookup_assocPut]
      · exact .inr ⟨cell', hmem, g, hg, hname⟩

open Describe in
/-- An instance built from a row holds, in each stored field declared with a class and read
through the built-in converters, nothing or a value of the right type, when the row has a cell
for the field. -/
theorem mapRow_typed {voc : Vocabulary} {m : Model} (hd : MappedModel.describe voc m = .ok d)
    (hnames : (m.fields.map (·.name)).Nodup) {row : List (Value × Value)} {e : Entity}
    (h : mapRow enums r dialect d row = .ok e) {f : MappedField} (hf : f ∈ d.fields)
    {c : ValueClass} (hc : f.valueType = .cls c)
    (hconv : ∀ cv ∈ r.convertersFor f dialect, cv.isBuiltin)
    (hcell : ∃ cell ∈ row, d.fieldForColumn? cell.1.plain = some f) :
    ∃ v, e.get f.name = .ok v ∧ (v = .none ∨ c.typed v) := by
  have hdesc := (MappedModel.describe_ok_iff voc m d).mp hd
  have hdnames : (d.fields.map (·.name)).Nodup := hdesc.names_sublist.nodup hnames
  obtain ⟨given, hfold, hinst⟩ := except_bind_eq_ok.mp h
  cases hinst
  obtain ⟨cell, hmem, hcol⟩ := hcell
  obtain ⟨v, hv⟩ := Option.isSome_iff_exists.mp
    (foldlM_readColumn_isSome hfold (.inr ⟨cell, hmem, f, hcol, rfl⟩))
  obtain hnil | ⟨g, hg, raw, hname, hread⟩ := foldlM_readColumn_lookup hfold hv
  · cases hnil
  obtain rfl : g = f := List.inj_on_of_nodup_map hdnames hg hf hname
  have htyped : v = .none ∨ c.typed v := by
    rcases @readValue_outcome enums r dialect d.model.name g raw c hc hconv with
      hnone | ⟨w, hw, -, htw⟩ | ⟨x, -, -, hx⟩ | ⟨w, x, -, -, -, -, hx⟩
    · rw [hnone] at hread
      cases hread
      exact .inl rfl
    · rw [hw] at hread
      cases hread
      exact .inr htw
    · rw [hx] at hread
      cases hread
    · rw [hx] at hread
      cases hread
  obtain ⟨spec, hspec, hsname⟩ : ∃ spec ∈ m.fields, spec.name = g.name := by
    simpa using hdesc.names_sublist.subset (List.mem_map_of_mem hf)
  refine ⟨v, ?_, htyped⟩
  rw [hdesc.model, ← hsname]
  exact Model.get_instantiate hnames hspec (hsname ▸ hv)

end Rows

open Mapping

/-- Reading into a field declared with a class, through the JSON and enumeration converters
only, gives nothing, a value of the right type (for a double, a double or a boolean), or a
mapping failure that names the field: showing the stored value when a converter or the coercion
refuses it, and the coerced value when that does not fit the field. An instance built from a
row holds, in each such stored field the row has a cell for, nothing or a value of the right
type. -/
theorem readValue_typed_or_mismatch (enums : List EnumDef) (r : Registries)
    (dialect : Option Dialect) :
    (∀ (model : String) (f : MappedField) (c : ValueClass), f.valueType = .cls c →
      (∀ cv ∈ r.convertersFor f dialect, cv.isBuiltin) → ∀ raw : Value,
        readValue enums r dialect model f raw = .ok .none ∨
        (∃ v, readValue enums r dialect model f raw = .ok v ∧ v ≠ .none ∧ c.typed v) ∨
        (∃ e, e.isRefusal ∧
          (Converter.fromDbAll enums f (r.convertersFor f dialect) raw = .error e ∨
            ∃ w, Converter.fromDbAll enums f (r.convertersFor f dialect) raw = .ok w ∧
              w.isNone = false ∧ coerce w f.valueType = .error e) ∧
          readValue enums r dialect model f raw = .error (mismatch model f raw)) ∨
        ∃ w v, Converter.fromDbAll enums f (r.convertersFor f dialect) raw = .ok w ∧
          w.isNone = false ∧ coerce w f.valueType = .ok v ∧ admits f.valueType v = false ∧
          readValue enums r dialect model f raw = .error (mismatch model f v)) ∧
    (∀ (voc : Vocabulary) (m : Model) (d : MappedModel), MappedModel.describe voc m = .ok d →
      (m.fields.map (·.name)).Nodup → ∀ (row : List (Value × Value)) (e : Entity),
      mapRow enums r dialect d row = .ok e → ∀ f ∈ d.fields, ∀ c : ValueClass,
      f.valueType = .cls c → (∀ cv ∈ r.convertersFor f dialect, cv.isBuiltin) →
      (∃ cell ∈ row, d.fieldForColumn? cell.1.plain = some f) →
      ∃ v, e.get f.name = .ok v ∧ (v = .none ∨ c.typed v)) :=
  ⟨fun _ _ _ hc hconv _ => readValue_outcome hc hconv,
    fun _ _ _ hd hnames _ _ h _ hf _ hc hconv hcell => mapRow_typed hd hnames h hf hc hconv hcell⟩

open Describe in
/-- A model with one double field, no tags and no converters, read from a row holding a boolean
in the field's column. -/
theorem readValue_typed_or_mismatch_flag :
    let spec : FieldSpec := { name := "x", type := .cls .float }
    let m : Model := { name := "M", table := some (.str "m"), fields := [spec] }
    let f := stored spec spec.type []
    ∃ d, MappedModel.describe ⟨[]⟩ m = .ok d ∧ (m.fields.map (·.name)).Nodup ∧ f ∈ d.fields ∧
      f.valueType = .cls .float ∧ (∀ cv ∈ ({} : Registries).convertersFor f none, cv.isBuiltin) ∧
      ∃ e, mapRow [] {} none d [(.str "x", .bool true)] = .ok e ∧
        (∃ cell ∈ [(Value.str "x", Value.bool true)], d.fieldForColumn? cell.1.plain = some f) ∧
        ∃ v, e.get f.name = .ok v ∧ (v = .none ∨ ValueClass.float.typed v) := by
  intro spec m f
  have htags : fieldTags ⟨[]⟩ spec spec.type = .ok [] := by
    simp [spec, fieldTags, metadataTags, resolveTags, TypeExpr.unwrap, FieldMeta.get, visitTags,
      Value.truthy, Except.map]
  let d : MappedModel :=
    { model := m, table := "m", schema := none, fields := [f], idField := none,
      queryOnly := false }
  have hd : MappedModel.describe ⟨[]⟩ m = .ok d :=
    MappedModel.describe_one_field rfl rfl rfl htags rfl ((checkTags_ok_iff "" _).mp rfl)
  have hdesc := (MappedModel.describe_ok_iff ⟨[]⟩ m d).mp hd
  have hnames : (m.fields.map (·.name)).Nodup := by simp [m]
  have hf : f ∈ d.fields := List.mem_singleton_self f
  have hfield : f = ⟨"x", "x", .cls .float, .cls .float, [], false, false, true⟩ := by
    simp [f, spec, stored, TypeExpr.unwrap, columnName, idGenerated]
  have hconv : ∀ cv ∈ ({} : Registries).convertersFor f none, cv.isBuiltin := by
    simp [f, Registries.convertersFor, stored]
  have hrow : mapRow [] {} none d [(.str "x", .bool true)] =
      .ok (m.instantiate (d.fields.map fun g => (g.name, .bool true))) :=
    mapRow_eq hdesc (by simp [d]) (w := fun _ => .bool true) (fun g hg => by
      simp only [d, List.mem_singleton] at hg
      rw [hg, hfield]
      rfl)
  have hcell : ∃ cell ∈ [(Value.str "x", Value.bool true)], d.fieldForColumn? cell.1.plain = some f :=
    ⟨_, List.mem_singleton_self _, (MappedModel.fieldForColumn?_eq_some hdesc hf _).mpr rfl⟩
  have hc : f.valueType = .cls .float := by rw [hfield]
  exact ⟨d, hd, hnames, hf, hc, hconv, _, hrow, hcell,
    (readValue_typed_or_mismatch [] {} none).2 ⟨[]⟩ m d hd hnames _ _ hrow f hf .float hc hconv
      hcell⟩

/-- A double field with no converters reads the boolean `True` as it is: the result is neither
nothing, nor a double, nor a mapping failure. -/
theorem float_field_reads_boolean :
    let f : MappedField :=
      { name := "x", column := "x", valueType := .cls .float, declared := .cls .float, tags := [],
        isId := false, isGenerated := false, init := true }
    (∀ cv ∈ ({} : Registries).convertersFor f none, cv.isBuiltin) ∧
      readValue [] {} none "M" f (.bool true) = .ok (.bool true) ∧
      ValueClass.float.holds (.bool true) = false := by
  intro f
  refine ⟨by simp [f, Registries.convertersFor], rfl, rfl⟩

end DataMapper
