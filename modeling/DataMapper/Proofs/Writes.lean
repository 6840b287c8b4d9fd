import Mathlib
import DataMapper.Mapper.Write
import DataMapper.Proofs.Steps

namespace DataMapper

open Act Mapper

/-- The world an outcome leaves. -/
def worldOf {α : Type} : EStateM.Result Failure World α → World
  | .ok _ w => w
  | .error _ w => w

/-- A step that leaves the database as it was, whatever its outcome. -/
def KeepsDb {α : Type} (x : Act α) : Prop := ∀ w, (worldOf (x w)).db = w.db

namespace KeepsDb

variable {α β γ : Type}

theorem ret (a : α) : KeepsDb (pure a : Act α) := fun _ => rfl

theorem fail (e : Failure) : KeepsDb (throw e : Act α) := fun _ => rfl

theorem read : KeepsDb (get : Act World) := fun _ => rfl

theorem update {f : World → World} (hf : ∀ w, (f w).db = w.db) : KeepsDb (modify f) := hf

theorem lift (r : Except Failure α) : KeepsDb (Act.lift r) := by
  cases r <;> exact fun _ => rfl

theorem bind {x : Act α} {f : α → Act β} (hx : KeepsDb x) (hf : ∀ a, KeepsDb (f a)) :
    KeepsDb (x >>= f) := by
  intro w
  have h := hx w
  cases hxw : x w with
  | ok a s =>
    rw [hxw] at h
    rw [run_bind_ok hxw]
    exact (hf a s).trans h
  | error e s =>
    rw [hxw] at h
    rw [run_bind_error hxw]
    exact h

theorem handle {x : Act α} {h : Failure → Act α} (hx : KeepsDb x) (hh : ∀ e, KeepsDb (h e)) :
    KeepsDb (tryCatch x h) := by
  intro w
  have h1 := hx w
  cases hxw : x w with
  | ok a s =>
    rw [hxw] at h1
    rw [run_tryCatch_ok hxw]
    exact h1
  | error e s =>
    rw [hxw] at h1
    rw [run_tryCatch_error hxw]
    exact (hh e s).trans h1

theorem mapM {f : γ → Act α} (hf : ∀ c, KeepsDb (f c)) (cs : List γ) : KeepsDb (cs.mapM f) := by
  induction cs with
  | nil => exact .ret _
  | cons c cs ih =>
    rw [List.mapM_cons]
    exact .bind (hf c) fun _ => .bind ih fun _ => .ret _

end KeepsDb

namespace Mapper

variable (m : Mapper)

theorem heldAt_keepsDb (i : Nat) : KeepsDb (heldAt i) := .bind .read fun _ => .ret _

theorem current_keepsDb (i : Nat) : KeepsDb (current i) := by
  refine .bind (heldAt_keepsDb i) fun r => ?_
  cases r with
  | some e => exact .ret e
  | none => exact .fail _

theorem hold_keepsDb (es : List (Option Entity)) : KeepsDb (hold es) := .update fun _ => rfl

theorem heldAll_keepsDb : KeepsDb heldAll := .bind .read fun _ => .ret _

theorem metadata_keepsDb (model : Model) : KeepsDb (m.metadata model) := .lift _

theorem entityMetadata_keepsDb (i : Nat) : KeepsDb (m.entityMetadata i) := by
  refine .bind (heldAt_keepsDb i) fun r => ?_
  cases r with
  | none => exact .fail _
  | some e => exact .bind (.lift _) fun model => .bind (m.metadata_keepsDb model) fun _ => .ret _

theorem requireWritable_keepsDb (d : MappedModel) (action : String) :
    KeepsDb (requireWritable d action) := by
  unfold requireWritable
  split
  · exact .fail _
  · exact .ret _

theorem requireId_keepsDb (d : MappedModel) (action : String) : KeepsDb (requireId d action) := by
  unfold requireId
  split
  · exact .ret _
  · exact .fail _

theorem requireIdValue_keepsDb (e : Entity) (d : MappedModel) (action : String) :
    KeepsDb (requireIdValue e d action) := by
  refine .bind (requireId_keepsDb d action) fun f => .bind (.lift _) fun v => ?_
  split
  · exact .fail _
  · exact .ret _

theorem fill_keepsDb (i : Nat) (d : MappedModel) (insert : Bool) : KeepsDb (m.fill i d insert) := by
  intro w
  unfold fill
  simp only [bind, EStateM.bind, get, getThe, MonadStateOf.get, EStateM.get]
  cases w.held.getD i none with
  | none => rfl
  | some e =>
    dsimp only
    cases EStateM.run (applyGenerated m.enums m.registries d insert) ⟨e, w.supply⟩ <;> rfl

theorem check_keepsDb (i : Nat) (d : MappedModel) : KeepsDb (m.check i d) :=
  .bind (current_keepsDb i) fun _ => .lift _

theorem bindAt_keepsDb (i : Nat) (fields : List MappedField) : KeepsDb (m.bindAt i fields) :=
  .bind (current_keepsDb i) fun _ => .lift _

theorem idParams_keepsDb (f : MappedField) (v : Value) : KeepsDb (m.idParams f v) :=
  .bind (.lift _) fun _ => .ret _

theorem prepareInsert_keepsDb (i : Nat) : KeepsDb (m.prepareInsert i) := by
  refine .bind (m.entityMetadata_keepsDb i) fun ⟨_, d⟩ => ?_
  refine .bind (requireWritable_keepsDb d _) fun _ => ?_
  refine .bind (m.fill_keepsDb i d true) fun _ => ?_
  refine .bind (m.check_keepsDb i d) fun _ => ?_
  exact .bind (m.bindAt_keepsDb i _) fun _ => .ret _

theorem prepareUpdate_keepsDb (i : Nat) : KeepsDb (m.prepareUpdate i) := by
  refine .bind (m.entityMetadata_keepsDb i) fun ⟨e, d⟩ => ?_
  refine .bind (requireWritable_keepsDb d _) fun _ => ?_
  refine .bind (requireIdValue_keepsDb e d _) fun _ => ?_
  refine .bind (m.fill_keepsDb i d false) fun _ => ?_
  refine .bind (m.check_keepsDb i d) fun _ => ?_
  refine .bind (.lift _) fun _ => ?_
  exact .bind (m.bindAt_keepsDb i _) fun _ => .ret _

theorem prepareDelete_keepsDb (i : Nat) : KeepsDb (m.prepareDelete i) := by
  refine .bind (m.entityMetadata_keepsDb i) fun ⟨e, d⟩ => ?_
  refine .bind (requireWritable_keepsDb d _) fun _ => ?_
  refine .bind (requireIdValue_keepsDb e d _) fun _ => ?_
  refine .bind (.lift _) fun _ => ?_
  refine .bind (requireId_keepsDb d _) fun _ => ?_
  exact .bind (m.bindAt_keepsDb i _) fun _ => .ret _

theorem prepareDeleteByIds_keepsDb (model : Model) (ids : List Value) :
    KeepsDb (m.prepareDeleteByIds model ids) := by
  refine .bind (m.metadata_keepsDb model) fun d => ?_
  refine .bind (requireWritable_keepsDb d _) fun _ => ?_
  refine .bind (requireId_keepsDb d _) fun f => ?_
  refine .bind (.lift _) fun _ => ?_
  exact .bind (.mapM (m.idParams_keepsDb f) ids) fun _ => .ret _

theorem prepareAll_keepsDb {prepare : Nat → Act Statement} (hp : ∀ i, KeepsDb (prepare i))
    (is : List Nat) : KeepsDb (prepareAll prepare is) := by
  induction is with
  | nil => exact .ret _
  | cons i is ih =>
    refine .bind (.handle (.bind (hp i) fun _ => .ret _) fun e => ?_) fun r => ?_
    · cases e.gathered? with
      | some es => exact .ret _
      | none => exact .fail _
    · refine .bind ih fun ⟨sts, fails⟩ => ?_
      cases r with
      | inl st => exact .ret _
      | inr es => exact .ret _

theorem prepareBatch_keepsDb {prepare : Nat → Act Statement} (hp : ∀ i, KeepsDb (prepare i))
    (n : Nat) : KeepsDb (prepareBatch prepare n) := by
  refine .bind (prepareAll_keepsDb hp _) fun ⟨sts, fails⟩ => ?_
  dsimp only
  split
  · exact .ret _
  · exact .fail _

/-- How preparing one item of a batch ended: with its statement, refused with validation errors,
or with another failure. -/
inductive ItemOutcome
  | prepared (st : Statement)
  | refused (errors : List FieldError)
  | failed (e : Failure)

namespace ItemOutcome

def statement? : ItemOutcome → Option Statement
  | .prepared st => some st
  | .refused _ => none
  | .failed _ => none

def errors? : ItemOutcome → Option (List FieldError)
  | .prepared _ => none
  | .refused es => some es
  | .failed _ => none

def failure? : ItemOutcome → Option Failure
  | .prepared _ => none
  | .refused _ => none
  | .failed e => some e

attribute [simp] statement?.eq_1 statement?.eq_2 statement?.eq_3 errors?.eq_1 errors?.eq_2
  errors?.eq_3 failure?.eq_1 failure?.eq_2 failure?.eq_3

end ItemOutcome

/-- Preparing items one after another, each in the world the items before it left: each item's
outcome in order, up to the first item that failed otherwise than by validation, and the world
after them. -/
def prepTrace (prepare : Nat → Act Statement) : List Nat → World → List (Nat × ItemOutcome) × World
  | [], w => ([], w)
  | i :: is, w =>
    match prepare i w with
    | .ok st w' =>
      let r := prepTrace prepare is w'
      ((i, .prepared st) :: r.1, r.2)
    | .error e w' =>
      match e.gathered? with
      | some es =>
        let r := prepTrace prepare is w'
        ((i, .refused es) :: r.1, r.2)
      | none => ([(i, .failed e)], w')

/-- The items of a trace refused by validation, with their errors, in order. -/
def refusals (trace : List (Nat × ItemOutcome)) : List (Nat × List FieldError) :=
  trace.filterMap fun p => p.2.errors?.map (p.1, ·)

/-- What a batch comes to once its items are prepared. -/
inductive Verdict
  /-- an item failed otherwise than by validation: the batch fails with that failure -/
  | stop (e : Failure)
  /-- some items failed validation: the batch is refused with those items and their errors -/
  | refuse (items : List (Nat × List FieldError))
  /-- every item was prepared: its statements run -/
  | run (sts : List Statement)

/-- The verdict on a batch from its items' outcomes. -/
def verdict (trace : List (Nat × ItemOutcome)) : Verdict :=
  match trace.findSome? (·.2.failure?) with
  | some e => .stop e
  | none =>
    if (refusals trace).isEmpty then .run (trace.filterMap (·.2.statement?))
    else .refuse (refusals trace)

/-- Preparing a batch gathers the items' outcomes: it fails with the first failure that is not a
validation failure, and otherwise gives the statements of the prepared items and the refused
items with their errors. -/
theorem prepareAll_eq (prepare : Nat → Act Statement) (is : List Nat) (w : World) :
    prepareAll prepare is w =
      match (prepTrace prepare is w).1.findSome? (·.2.failure?) with
      | some e => .error e (prepTrace prepare is w).2
      | none => .ok ((prepTrace prepare is w).1.filterMap (·.2.statement?),
          refusals (prepTrace prepare is w).1) (prepTrace prepare is w).2 := by
  induction is generalizing w with
  | nil => rfl
  | cons i is ih =>
    rw [prepareAll]
    have hrest : ∀ w' (k : List Statement × List (Nat × List FieldError) →
        Act (List Statement × List (Nat × List FieldError))),
        (prepareAll prepare is >>= k) w' =
          match (prepTrace prepare is w').1.findSome? (·.2.failure?) with
          | some e => .error e (prepTrace prepare is w').2
          | none => k ((prepTrace prepare is w').1.filterMap (·.2.statement?),
              refusals (prepTrace prepare is w').1) (prepTrace prepare is w').2 := by
      intro w' k
      cases hr : (prepTrace prepare is w').1.findSome? (·.2.failure?) with
      | some e => exact run_bind_error ((ih w').trans (by rw [hr]))
      | none => exact run_bind_ok ((ih w').trans (by rw [hr]))
    cases hp : prepare i w with
    | ok st w' =>
      rw [run_tryCatch_bind_ok (run_bind_pure_ok hp), hrest]
      simp only [prepTrace, hp]
      cases hr : (prepTrace prepare is w').1.findSome? (·.2.failure?) with
      | some e' => simp [hr]
      | none =>
        simp [hr, refusals]
        rfl
    | error e w' =>
      rw [run_tryCatch_bind_error (run_bind_error hp)]
      simp only [prepTrace, hp]
      cases hg : e.gathered? with
      | none => rfl
      | some es =>
        rw [pure_bind, hrest]
        cases hr : (prepTrace prepare is w').1.findSome? (·.2.failure?) with
      | some e' => simp [hr]
      | none =>
        simp [hr, refusals]
        rfl

/-- A batch is prepared to its verdict: the first failure that is not a validation failure stops
it, refused items make it fail with exactly those items, and otherwise it gives the statements. -/
theorem prepareBatch_eq (prepare : Nat → Act Statement) (n : Nat) (w : World) :
    prepareBatch prepare n w =
      match verdict (prepTrace prepare (List.range n) w).1 with
      | .stop e => .error e (prepTrace prepare (List.range n) w).2
      | .refuse items => .error (.batch items) (prepTrace prepare (List.range n) w).2
      | .run sts => .ok sts (prepTrace prepare (List.range n) w).2 := by
  have hall := prepareAll_eq prepare (List.range n) w
  unfold prepareBatch verdict
  cases hr : (prepTrace prepare (List.range n) w).1.findSome? (·.2.failure?) with
  | some e =>
    rw [hr] at hall
    exact run_bind_error hall
  | none =>
    rw [hr] at hall
    rw [run_bind_ok hall]
    by_cases hempty : (refusals (prepTrace prepare (List.range n) w).1).isEmpty = true
    · simp [hempty]
      rfl
    · simp [hempty]
      rfl

theorem prepTrace_indices_isPrefix (prepare : Nat → Act Statement) (is : List Nat) (w : World) :
    (prepTrace prepare is w).1.map Prod.fst <+: is := by
  induction is generalizing w with
  | nil => simp [prepTrace]
  | cons i is ih =>
    simp only [prepTrace]
    cases hp : prepare i w with
    | ok st w' => simpa [List.cons_prefix_cons] using ih w'
    | error e w' =>
      cases hg : e.gathered? with
      | some es => simpa [hg, List.cons_prefix_cons] using ih w'
      | none => simp [hg]

theorem mem_refusals {trace : List (Nat × ItemOutcome)} {i : Nat} {es : List FieldError} :
    (i, es) ∈ refusals trace ↔ (i, .refused es) ∈ trace := by
  unfold refusals
  rw [List.mem_filterMap]
  constructor
  · rintro ⟨⟨j, o⟩, hmem, ho⟩
    cases o <;> simp_all
  · intro h
    exact ⟨_, h, rfl⟩

theorem refusals_indices_sublist (trace : List (Nat × ItemOutcome)) :
    List.Sublist ((refusals trace).map Prod.fst) (trace.map Prod.fst) := by
  induction trace with
  | nil => simp [refusals]
  | cons p trace ih =>
    obtain ⟨i, o⟩ := p
    cases o with
    | refused es => simpa [refusals] using ih.cons_cons i
    | prepared st => simpa [refusals] using ih.cons i
    | failed e => simpa [refusals] using ih.cons i

theorem refusals_ascending (prepare : Nat → Act Statement) (n : Nat) (w : World) :
    ((refusals (prepTrace prepare (List.range n) w).1).map Prod.fst).Pairwise (· < ·) :=
  List.pairwise_lt_range.sublist ((refusals_indices_sublist _).trans
    (prepTrace_indices_isPrefix prepare _ w).sublist)

end Mapper

/-- A write that prepares without touching the database, then runs what it prepared in one
transaction and finishes without touching the database. -/
structure AllOrNothing {α β γ : Type} (op : Act α) (prep : Act β) (body : β → Act γ)
    (finish : γ → Act α) : Prop where
  prep_keepsDb : KeepsDb prep
  finish_keepsDb : ∀ c, KeepsDb (finish c)
  run : op = prep >>= fun b => transaction (body b) >>= finish

namespace AllOrNothing

variable {α β γ : Type} {op : Act α} {prep : Act β} {body : β → Act γ} {finish : γ → Act α}
  {w w' : World}

theorem fails (h : AllOrNothing op prep body finish) {e : Failure} (hp : prep w = .error e w') :
    op w = .error e w' ∧ w'.db = w.db := by
  have hdb := h.prep_keepsDb w
  rw [hp] at hdb
  rw [h.run]
  exact ⟨run_bind_error hp, hdb⟩

/-- A write whose preparation succeeds is the one transaction over what it prepared, run on the
database as it was. -/
theorem runs (h : AllOrNothing op prep body finish) {b : β} (hp : prep w = .ok b w') :
    op w = (transaction (body b) >>= finish) w' ∧ w'.db = w.db := by
  have hdb := h.prep_keepsDb w
  rw [hp] at hdb
  rw [h.run]
  exact ⟨run_bind_ok hp, hdb⟩

end AllOrNothing

namespace Mapper

variable (m : Mapper)

theorem insert_allOrNothing (e : Option Entity) :
    AllOrNothing (m.insert e) (hold [e] >>= fun _ => m.prepareInsert 0) executeInsert
      fun _ => current 0 where
  prep_keepsDb := .bind (hold_keepsDb _) fun _ => m.prepareInsert_keepsDb 0
  finish_keepsDb _ := current_keepsDb 0
  run := by simp only [Mapper.insert, insertAt, bind_assoc]

theorem update_allOrNothing (e : Option Entity) :
    AllOrNothing (m.update e) (hold [e] >>= fun _ => m.prepareUpdate 0) executeCounted pure where
  prep_keepsDb := .bind (hold_keepsDb _) fun _ => m.prepareUpdate_keepsDb 0
  finish_keepsDb _ := .ret _
  run := by simp only [Mapper.update, updateAt, bind_assoc, bind_pure]

theorem delete_allOrNothing (e : Option Entity) :
    AllOrNothing (m.delete e) (hold [e] >>= fun _ => m.prepareDelete 0) executeCounted pure where
  prep_keepsDb := .bind (hold_keepsDb _) fun _ => m.prepareDelete_keepsDb 0
  finish_keepsDb _ := .ret _
  run := by simp only [Mapper.delete, bind_assoc, bind_pure]

theorem insertAll_allOrNothing {es : List (Option Entity)} (hes : es ≠ []) :
    AllOrNothing (m.insertAll es) (hold es >>= fun _ => prepareBatch m.prepareInsert es.length)
      (fun sts => sts.forM executeInsert) fun _ => heldAll where
  prep_keepsDb := .bind (hold_keepsDb _) fun _ => prepareBatch_keepsDb m.prepareInsert_keepsDb _
  finish_keepsDb _ := heldAll_keepsDb
  run := by
    have hne : es.isEmpty = false := by simpa using hes
    simp only [Mapper.insertAll, hne, bind_assoc]
    rfl

theorem updateAll_allOrNothing {es : List (Option Entity)} (hes : es ≠ []) :
    AllOrNothing (m.updateAll es) (hold es >>= fun _ => prepareBatch m.prepareUpdate es.length)
      executeSum pure where
  prep_keepsDb := .bind (hold_keepsDb _) fun _ => prepareBatch_keepsDb m.prepareUpdate_keepsDb _
  finish_keepsDb _ := .ret _
  run := by
    have hne : es.isEmpty = false := by simpa using hes
    simp only [Mapper.updateAll, hne, bind_assoc, bind_pure]
    rfl

theorem deleteAll_allOrNothing {es : List (Option Entity)} (hes : es ≠ []) :
    AllOrNothing (m.deleteAll es)
      (hold es >>= fun _ => (List.range es.length).mapM m.prepareDelete) executeSum pure where
  prep_keepsDb := .bind (hold_keepsDb _) fun _ => .mapM m.prepareDelete_keepsDb _
  finish_keepsDb _ := .ret _
  run := by
    have hne : es.isEmpty = false := by simpa using hes
    simp only [Mapper.deleteAll, hne, bind_assoc, bind_pure]
    rfl

theorem deleteByIds_allOrNothing {model : Model} {ids : List Value} (hids : ids ≠ []) :
    AllOrNothing (m.deleteByIds model ids) (m.prepareDeleteByIds model ids)
      (fun p => executeEach p.1 p.2) pure where
  prep_keepsDb := m.prepareDeleteByIds_keepsDb model ids
  finish_keepsDb _ := .ret _
  run := by
    have hne : ids.isEmpty = false := by simpa using hids
    simp only [Mapper.deleteByIds, hne, bind_pure]
    rfl

/-- Writes are all or nothing towards the database. Every write, of one entity or of a non-empty
list, prepares without touching the database and only then runs what it prepared in one
transaction, so a write whose preparation fails leaves the database as it was. A batch of
inserts or updates is prepared item by item to its verdict: the first failure that is not a
validation failure stops it as raised; otherwise the items refused by validation make it fail
with exactly those items, in ascending order and each with its own errors; otherwise its
statements run. -/
theorem writes_all_or_nothing :
    (∀ e, AllOrNothing (m.insert e) (hold [e] >>= fun _ => m.prepareInsert 0) executeInsert
        fun _ => current 0) ∧
      (∀ e, AllOrNothing (m.update e) (hold [e] >>= fun _ => m.prepareUpdate 0) executeCounted
        pure) ∧
      (∀ e, AllOrNothing (m.delete e) (hold [e] >>= fun _ => m.prepareDelete 0) executeCounted
        pure) ∧
      (∀ es, es ≠ [] → AllOrNothing (m.insertAll es)
        (hold es >>= fun _ => prepareBatch m.prepareInsert es.length)
        (fun sts => sts.forM executeInsert) fun _ => heldAll) ∧
      (∀ es, es ≠ [] → AllOrNothing (m.updateAll es)
        (hold es >>= fun _ => prepareBatch m.prepareUpdate es.length) executeSum pure) ∧
      (∀ es, es ≠ [] → AllOrNothing (m.deleteAll es)
        (hold es >>= fun _ => (List.range es.length).mapM m.prepareDelete) executeSum pure) ∧
      (∀ model ids, ids ≠ [] → AllOrNothing (m.deleteByIds model ids)
        (m.prepareDeleteByIds model ids) (fun p => executeEach p.1 p.2) pure) ∧
      (∀ prepare n w, prepareBatch prepare n w =
        match verdict (prepTrace prepare (List.range n) w).1 with
        | .stop e => .error e (prepTrace prepare (List.range n) w).2
        | .refuse items => .error (.batch items) (prepTrace prepare (List.range n) w).2
        | .run sts => .ok sts (prepTrace prepare (List.range n) w).2) ∧
      (∀ prepare n w,
        ((refusals (prepTrace prepare (List.range n) w).1).map Prod.fst).Pairwise (· < ·)) ∧
      (∀ trace i es, (i, es) ∈ refusals trace ↔ (i, ItemOutcome.refused es) ∈ trace) :=
  ⟨m.insert_allOrNothing, m.update_allOrNothing, m.delete_allOrNothing,
    fun _ => m.insertAll_allOrNothing, fun _ => m.updateAll_allOrNothing,
    fun _ => m.deleteAll_allOrNothing, fun _ _ => m.deleteByIds_allOrNothing, prepareBatch_eq,
    refusals_ascending, fun _ _ _ => mem_refusals⟩

/-- Inserting a list whose one entity is missing fails before any transaction, with the
database as it was. -/
theorem insertAll_missing_entity_keeps_db :
    let m : Mapper := ⟨{}, ⟨"SQLITE"⟩, {}, [], []⟩
    let w : World := ⟨⟨.scripted ⟨[], []⟩, .qmark, false, 0⟩, ⟨Supply.defaultNow, 0, []⟩, []⟩
    m.insertAll [none] w = .error (.invalidEntity "Entity cannot be None.") { w with held := [none] } ∧
      ({ w with held := [none] } : World).db = w.db :=
  ((writes_all_or_nothing _).2.2.2.1 [none] (by simp)).fails rfl

end Mapper

end DataMapper
