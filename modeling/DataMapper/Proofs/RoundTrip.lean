import DataMapper.Mapping.Row
import DataMapper.Proofs.Describe
import Mathlib.Tactic.Choose

namespace DataMapper

theorem lookup_map_put_of_ne {α : Type} (kvs : List (String × α)) {k k' : String} (v : α)
    (h : k ≠ k') :
    (kvs.map fun (a, b) => if a == k then (a, v) else (a, b)).lookup k' = kvs.lookup k' := by
  induction kvs with
  | nil => rfl
  | cons p ps ih =>
    obtain ⟨a, b⟩ := p
    simp only [List.map_cons, List.lookup_cons, beq_iff_eq] at ih ⊢
    by_cases hka : k' = a
    · subst hka
      simp [Ne.symm h]
    · have hk : (k' == a) = false := by simpa using hka
      by_cases hak : a = k
      · subst hak
        simp [List.lookup_cons, hk, ih]
      · simp [List.lookup_cons, hak, hk, ih]

theorem lookup_assocPut_of_ne {α : Type} (kvs : List (String × α)) {k k' : String} (v : α)
    (h : k ≠ k') : (assocPut kvs k v).lookup k' = kvs.lookup k' := by
  unfold assocPut
  split
  · exact lookup_map_put_of_ne kvs v h
  · have hk : (k' == k) = false := by simpa using Ne.symm h
    simp [List.lookup_append, List.lookup_cons, hk]

theorem assocPut_of_forall_ne {α : Type} (kvs : List (String × α)) {k : String} (v : α)
    (h : ∀ p ∈ kvs, p.1 ≠ k) : assocPut kvs k v = kvs ++ [(k, v)] := by
  have hany : kvs.any (·.1 == k) = false := by
    simpa using fun a b hab => h (a, b) hab
  simp [assocPut, hany]

theorem lookup_filterMap_of_nodup {α β : Type} {l : List α} (name : α → String)
    (F : α → Option (String × β)) (hnd : (l.map name).Nodup)
    (hF : ∀ a ∈ l, ∀ p, F a = some p → p.1 = name a) {a : α} (ha : a ∈ l) {b : β}
    (hb : F a = some (name a, b)) : (l.filterMap F).lookup (name a) = some b := by
  induction l with
  | nil => cases ha
  | cons x l ih =>
    rw [List.map_cons, List.nodup_cons] at hnd
    obtain ⟨hx, hnd⟩ := hnd
    rw [List.filterMap_cons]
    rcases List.mem_cons.mp ha with rfl | ha
    · simp [hb]
    · have hxa : name a ≠ name x := fun he => hx (he ▸ List.mem_map_of_mem ha)
      have hrest := ih hnd (fun c hc => hF c (.tail x hc)) ha
      cases hFx : F x with
      | none => exact hrest
      | some p =>
        have hp : p.1 = name x := hF x (.head l) p hFx
        obtain ⟨k, c⟩ := p
        have hk : (name a == k) = false := by simpa [← hp] using hxa
        simp [List.lookup_cons, hk, hrest]

/-- Keys absent from a list stay absent once the key of an earlier element, distinct from
theirs, is added. -/
theorem fresh_append {α β : Type} (key : α → String) {a : α} {l : List α} (x : β)
    {acc : List (String × β)} (ha : key a ∉ l.map key) (hacc : ∀ b ∈ a :: l, ∀ p ∈ acc, p.1 ≠ key b) :
    ∀ b ∈ l, ∀ p ∈ acc ++ [(key a, x)], p.1 ≠ key b := by
  intro b hb p hp
  rcases List.mem_append.mp hp with hp | hp
  · exact hacc b (.tail a hb) p hp
  · rw [List.mem_singleton.mp hp]
    intro he
    apply ha
    rw [show key a = key b from he]
    exact List.mem_map_of_mem hb

namespace Entity

@[simp] theorem put_model (e : Entity) (k : String) (v : Value) : (e.put k v).model = e.model := by
  unfold put
  split <;> rfl

theorem put_attrs (e : Entity) (k : String) (v : Value) :
    (e.put k v).attrs = assocPut e.attrs k v := by
  unfold put assocPut
  split <;> rfl

@[simp] theorem get_put_self (e : Entity) (k : String) (v : Value) : (e.put k v).get k = .ok v := by
  simp [get, put_attrs, lookup_assocPut]

theorem get_put_of_ne (e : Entity) {k k' : String} (v : Value) (h : k ≠ k') :
    (e.put k v).get k' = e.get k' := by
  simp only [get, put_attrs, put_model, lookup_assocPut_of_ne _ _ h]

end Entity

namespace Model

variable {given : List (String × Value)}

theorem get_foldl_setLate_of_init (fs : List FieldSpec) (e : Entity) {k : String}
    (hk : ∀ f ∈ fs, f.name = k → f.init = true) : (fs.foldl (setLate given) e).get k = e.get k := by
  induction fs generalizing e with
  | nil => rfl
  | cons f fs ih =>
    rw [List.foldl_cons, ih _ (fun g hg => hk g (.tail f hg))]
    unfold setLate
    by_cases hf : f.init = true
    · simp [hf]
    · have hne : f.name ≠ k := fun he => hf (hk f (.head fs) he)
      simp only [hf, Bool.false_eq_true, if_false]
      split
      · exact Entity.get_put_of_ne e _ hne
      · rfl

theorem get_foldl_setLate_of_late {fs : List FieldSpec} (hnd : (fs.map (·.name)).Nodup)
    (e : Entity) {f : FieldSpec} (hf : f ∈ fs) (hlate : f.init = false) {v : Value}
    (hv : given.lookup f.name = some v) : (fs.foldl (setLate given) e).get f.name = .ok v := by
  induction fs generalizing e with
  | nil => cases hf
  | cons g fs ih =>
    rw [List.map_cons, List.nodup_cons] at hnd
    rw [List.foldl_cons]
    rcases List.mem_cons.mp hf with rfl | hf
    · have hother : ∀ g ∈ fs, g.name = f.name → g.init = true := fun g hg he =>
        absurd (he ▸ List.mem_map_of_mem hg) hnd.1
      rw [get_foldl_setLate_of_init fs _ hother]
      simp [setLate, hlate, hv]
    · exact ih hnd.2 _ hf

/-- An instance built from distinctly named fields holds, for each field given a value, that
value: set at once for a constructor field, set late for any other. -/
theorem get_instantiate {m : Model} (hnd : (m.fields.map (·.name)).Nodup) {f : FieldSpec}
    (hf : f ∈ m.fields) {v : Value} (hv : given.lookup f.name = some v) :
    (m.instantiate given).get f.name = .ok v := by
  unfold instantiate
  cases hinit : f.init
  · exact get_foldl_setLate_of_late hnd _ hf hinit hv
  · have honly : ∀ g ∈ m.fields, g.name = f.name → g.init = true := by
      intro g hg he
      rwa [List.inj_on_of_nodup_map hnd hg hf he]
    rw [get_foldl_setLate_of_init _ _ honly]
    have hlookup : (initialAttrs m given).lookup f.name = some v := by
      unfold initialAttrs
      refine lookup_filterMap_of_nodup (·.name) _ hnd ?_ hf ?_
      · intro g _ p hp
        split at hp
        · cases hp; rfl
        · obtain ⟨w, -, rfl⟩ := Option.map_eq_some_iff.mp hp
          rfl
      · simp [hinit, hv]
    simp [Entity.get, hlookup]

end Model

section Binding

variable {enums : List EnumDef} {r : Registries} {dialect : Option Dialect} {e : Entity}

end Binding

namespace Mapping

/-- A generic type is not a class, yet only values of its origin class are read for it:
anything else read back is refused. -/
theorem readValue_generic_of_not_holds {enums : List EnumDef} {r : Registries}
    {dialect : Option Dialect} {model : String} {f : MappedField} {raw v : Value}
    {o : ValueClass} {args : List TypeExpr} (ht : f.valueType = .generic o args)
    (h : Converter.fromDbAll enums f (r.convertersFor f dialect) raw = .ok v) (hv : v ≠ .none)
    (ho : o.holds v = false) (hof : o ≠ .float) :
    readValue enums r dialect model f raw = .error (mismatch model f v) := by
  have hnone : v.isNone = false := by cases v <;> simp_all [Value.isNone]
  have hadm : admits f.valueType v = false := by
    rw [ht]
    unfold admits
    cases o <;> simp_all [TypeExpr.checkedClass?, ValueClass.holds]
  have hco : coerce v f.valueType = .ok v := by rw [ht]; rfl
  unfold readValue
  simp only [h, except_ok_bind, hnone, Bool.false_eq_true, if_false, hco]
  cases v <;> simp_all

end Mapping

section Rows

open Describe

variable {enums : List EnumDef} {r : Registries} {dialect : Option Dialect} {voc : Vocabulary}
  {m : Model} {d : MappedModel}

/-- Reading the cells of stored fields with distinct names, each under its field's column,
adds each field's value read back, in field order. -/
theorem foldlM_readColumn (hd : DescribesAs voc m d) {fields : List MappedField}
    (hsub : ∀ f ∈ fields, f ∈ d.fields) (hnames : (fields.map (·.name)).Nodup)
    {w u : MappedField → Value}
    (hu : ∀ f ∈ fields, Mapping.readValue enums r dialect d.model.name f (w f) = .ok (u f))
    (acc : List (String × Value)) (hacc : ∀ f ∈ fields, ∀ p ∈ acc, p.1 ≠ f.name) :
    (fields.map fun f => (Value.str f.column, w f)).foldlM (readColumn enums r dialect d) acc =
      .ok (acc ++ fields.map fun f => (f.name, u f)) := by
  induction fields generalizing acc with
  | nil => simp
  | cons f fs ih =>
    rw [List.map_cons, List.nodup_cons] at hnames
    have hfind : d.fieldForColumn? f.column = some f :=
      (MappedModel.fieldForColumn?_eq_some hd (hsub f (.head fs)) f.column).mpr rfl
    have hstep : readColumn enums r dialect d acc (.str f.column, w f) =
        .ok (acc ++ [(f.name, u f)]) := by
      simp [readColumn, Value.plain, hfind, hu f (.head fs),
        assocPut_of_forall_ne acc (u f) (hacc f (.head fs))]
    have hfresh := fresh_append (fun g : MappedField => g.name) (u f) hnames.1 hacc
    rw [List.map_cons, List.foldlM_cons, hstep, except_ok_bind,
      ih (fun g hg => hsub g (.tail f hg)) hnames.2 (fun g hg => hu g (.tail f hg)) _ hfresh]
    simp

/-- A row holding a value under each stored field's column gives the instance built from the
values read back. -/
theorem mapRow_eq (hd : DescribesAs voc m d) (hnames : (d.fields.map (·.name)).Nodup)
    {w u : MappedField → Value}
    (hu : ∀ f ∈ d.fields, Mapping.readValue enums r dialect d.model.name f (w f) = .ok (u f)) :
    mapRow enums r dialect d (d.fields.map fun f => (.str f.column, w f)) =
      .ok (m.instantiate (d.fields.map fun f => (f.name, u f))) := by
  unfold mapRow
  rw [foldlM_readColumn hd (fun _ h => h) hnames hu [] (by simp), except_ok_bind, hd.model]
  simp

end Rows

end DataMapper
