import DataMapper.Generation.Apply
import DataMapper.Proofs.Steps
import DataMapper.Proofs.RoundTrip

namespace DataMapper

namespace Generation

section

variable {ε σ α : Type} (g : α → EStateM ε σ PUnit)

theorem forM_error_iff (xs : List α) (s s' : σ) (e : ε) :
    (forM xs g).run s = .error e s' ↔
      ∃ i, ∃ h : i < xs.length, ∃ si,
        (forM (xs.take i) g).run s = .ok ⟨⟩ si ∧ (g xs[i]).run si = .error e s' := by
  induction xs generalizing s with
  | nil => simp [List.forM_nil, pure, EStateM.pure, EStateM.run]
  | cons x xs ih =>
    rw [List.forM_cons]
    cases hx : (g x).run s with
    | ok u sx =>
      have hb : (g x >>= fun _ => forM xs g).run s = (forM xs g).run sx := run_bind_ok hx
      rw [hb, ih]
      constructor
      · rintro ⟨i, hi, si, hpre, hstep⟩
        refine ⟨i + 1, by simpa using hi, si, ?_, by simpa using hstep⟩
        rw [List.take_succ_cons, List.forM_cons]
        exact (run_bind_ok hx).trans hpre
      · rintro ⟨_ | i, hi, si, hpre, hstep⟩
        · simp only [List.take_zero, List.forM_nil] at hpre
          cases hpre
          simp only [List.getElem_cons_zero] at hstep
          rw [hx] at hstep
          cases hstep
        · rw [List.take_succ_cons, List.forM_cons] at hpre
          exact ⟨i, by simpa using hi, si, (run_bind_ok hx).symm.trans hpre, by simpa using hstep⟩
    | error e' sx =>
      have hb : (g x >>= fun _ => forM xs g).run s = .error e' sx := run_bind_error hx
      rw [hb]
      constructor
      · rintro ⟨⟩
        exact ⟨0, by simp, s, rfl, by simpa using hx⟩
      · rintro ⟨_ | i, hi, si, hpre, hstep⟩
        · simp only [List.take_zero, List.forM_nil] at hpre
          cases hpre
          simp only [List.getElem_cons_zero] at hstep
          rw [hx] at hstep
          exact hstep
        · rw [List.take_succ_cons, List.forM_cons] at hpre
          have hb' : (g x >>= fun _ => forM (xs.take i) g).run s = .error e' sx := run_bind_error hx
          rw [hb'] at hpre
          cases hpre

theorem forM_keeps (P : σ → Prop) (xs : List α)
    (hok : ∀ x ∈ xs, ∀ s s', P s → (g x).run s = .ok ⟨⟩ s' → P s')
    (herr : ∀ x ∈ xs, ∀ s s' e, P s → (g x).run s = .error e s' → P s') (s : σ) (hs : P s) :
    (∀ s', (forM xs g).run s = .ok ⟨⟩ s' → P s') ∧
      (∀ e s', (forM xs g).run s = .error e s' → P s') := by
  induction xs generalizing s with
  | nil =>
    refine ⟨fun s' h => ?_, fun e s' h => ?_⟩ <;> cases h
    exact hs
  | cons x xs ih =>
    have ih' := ih (fun y hy => hok y (by simp [hy])) (fun y hy => herr y (by simp [hy]))
    rw [List.forM_cons]
    cases hx : (g x).run s with
    | ok u sx =>
      have hb : (g x >>= fun _ => forM xs g).run s = (forM xs g).run sx := run_bind_ok hx
      rw [hb]
      exact ih' sx (hok x (by simp) s sx hs hx)
    | error e' sx =>
      have hb : (g x >>= fun _ => forM xs g).run s = .error e' sx := run_bind_error hx
      rw [hb]
      refine ⟨fun s' h => (by cases h), fun e s' h => ?_⟩
      cases h
      exact herr x (by simp) s sx e' hs hx

variable {β : Type}

theorem run_bind_eq_ok_iff {x : EStateM ε σ α} {f : α → EStateM ε σ β} {s s' : σ} {b : β} :
    (x >>= f).run s = .ok b s' ↔ ∃ a s₁, x.run s = .ok a s₁ ∧ (f a).run s₁ = .ok b s' := by
  cases hx : x.run s with
  | ok a s₁ =>
    have hb : (x >>= f).run s = (f a).run s₁ := run_bind_ok hx
    rw [hb]
    simp
  | error e s₁ =>
    have hb : (x >>= f).run s = .error e s₁ := run_bind_error hx
    rw [hb]
    simp

theorem run_bind_eq_error_iff {x : EStateM ε σ α} {f : α → EStateM ε σ β} {s s' : σ} {e : ε} :
    (x >>= f).run s = .error e s' ↔
      x.run s = .error e s' ∨ ∃ a s₁, x.run s = .ok a s₁ ∧ (f a).run s₁ = .error e s' := by
  cases hx : x.run s with
  | ok a s₁ =>
    have hb : (x >>= f).run s = (f a).run s₁ := run_bind_ok hx
    rw [hb]
    simp
  | error e' s₁ =>
    have hb : (x >>= f).run s = .error e' s₁ := run_bind_error hx
    rw [hb]
    simp

end

/-- One step of filling an entity: a field's default (the literal and the source name of its
first default tag), or one of its generated tags, by the source it names. -/
inductive FillStep
  | default (f : MappedField) (literal generator : Value)
  | generated (f : MappedField) (name : Value)

namespace FillStep

/-- The field a step writes. -/
def field : FillStep → MappedField
  | .default f _ _ => f
  | .generated f _ => f

/-- The value a step writes. -/
def value (enums : List EnumDef) (r : Registries) : FillStep → Filling Value
  | .default f literal generator => defaultValue enums r f literal generator
  | .generated f name => run r name f

/-- Runs a step: a default reads the field and writes only a value that is nothing; a generated
tag writes its source's output. -/
def run (enums : List EnumDef) (r : Registries) : FillStep → Filling Unit
  | .default f literal generator => fillDefault enums r f literal generator
  | .generated f name => do assign f (← Generation.run r name f)

end FillStep

/-- The generated steps of a field's tags whose flag for the operation is set, in tag order. -/
def enabledSteps (insert : Bool) (f : MappedField) : List Tag → List FillStep
  | [] => []
  | t :: ts =>
    match t.body with
    | .generated name onInsert onUpdate =>
      if (if insert then onInsert else onUpdate).truthy then .generated f name :: enabledSteps insert f ts
      else enabledSteps insert f ts
    | _ => enabledSteps insert f ts

/-- The default step of a field: on insert, when it has a default tag. -/
def defaultSteps (insert : Bool) (f : MappedField) : List FillStep :=
  if insert then
    match f.tag? .defaultValue with
    | some ⟨_, .defaultValue literal generator⟩ => [.default f literal generator]
    | _ => []
  else []

/-- The steps of filling the fields, in order: each field's default step, then its enabled
generated steps. -/
def fillSteps (insert : Bool) (fields : List MappedField) : List FillStep :=
  fields.flatMap fun f => defaultSteps insert f ++ enabledSteps insert f (f.tagsOf .generated)

theorem applyTags_eq (enums : List EnumDef) (r : Registries) (insert : Bool) (f : MappedField)
    (ts : List Tag) :
    applyTags r insert f ts = forM (enabledSteps insert f ts) (FillStep.run enums r) := by
  induction ts with
  | nil => rfl
  | cons t ts ih =>
    rw [applyTags]
    cases hb : t.body with
    | generated name onInsert onUpdate =>
      by_cases hflag : (if insert then onInsert else onUpdate).truthy = true
      · simp only [enabledSteps, hb, hflag, if_true, List.forM_cons, FillStep.run, ih, bind_assoc]
      · simp only [enabledSteps, hb, hflag, ih]
        simp
    | _ => simp [enabledSteps, hb, ih]

theorem applyDefault_eq (enums : List EnumDef) (r : Registries) (insert : Bool) (f : MappedField) :
    (if insert then applyDefault enums r f else pure ()) =
      forM (defaultSteps insert f) (FillStep.run enums r) := by
  cases insert with
  | false => rfl
  | true =>
    simp only [if_true, defaultSteps]
    unfold applyDefault
    cases h : f.tag? .defaultValue with
    | none => rfl
    | some t =>
      obtain ⟨c, b⟩ := t
      cases b <;> simp [FillStep.run]

theorem applyGenerated_eq_forM (enums : List EnumDef) (r : Registries) (d : MappedModel)
    (insert : Bool) :
    applyGenerated enums r d insert = forM (fillSteps insert d.fields) (FillStep.run enums r) := by
  unfold applyGenerated fillSteps
  induction d.fields with
  | nil => rfl
  | cons f fs ih =>
    rw [applyFields, List.flatMap_cons, List.forM_append, List.forM_append, ← ih,
      ← applyDefault_eq enums r insert f, ← applyTags_eq enums r insert f]
    cases insert <;> simp only [Bool.false_eq_true, if_false, if_true, pure_bind, bind_assoc]

theorem hashFailure?_type {v : Value} {e : Failure} (h : v.hashFailure? = some e) :
    ∃ msg, e = .type msg := by
  refine Value.hashFailure?.induct
    (fun v => ∀ e, v.hashFailure? = some e → ∃ msg, e = .type msg)
    (fun xs => ∀ e, Value.hashFailureIn? xs = some e → ∃ msg, e = .type msg)
    ?list ?dict ?signaling ?tuple ?other ?nil ?consFails ?consHashes v e h
  case list | dict =>
    intro _ e h
    simp only [Value.hashFailure?, Option.some.injEq] at h
    exact ⟨_, h.symm⟩
  case signaling =>
    intro _ _ e h
    simp only [Value.hashFailure?, Option.some.injEq] at h
    exact ⟨_, h.symm⟩
  case tuple =>
    intro xs ih e h
    exact ih e h
  case other =>
    intro t h1 h2 h3 h4 e h
    unfold Value.hashFailure? at h
    split at h <;> simp_all
  case nil =>
    intro e h
    cases h
  case consFails =>
    intro x xs f hx ih e h
    simp only [Value.hashFailureIn?, hx, Option.some.injEq] at h
    exact ih e (h ▸ hx)
  case consHashes =>
    intro x xs hx _ ih e h
    simp only [Value.hashFailureIn?, hx] at h
    exact ih e h

/-- No source is registered under a name that can be hashed, or the source fails on the
state. -/
def SourceRefuses (r : Registries) (name : Value) (f : MappedField) (w : Work) : Prop :=
  (name.hashFailure? = none ∧ ∃ x, sourceNamed r name = .error x) ∨
    ∃ s x, sourceNamed r name = .ok s ∧ s.generate w.entity f w.supply = .error x

/-- Looking a source up fails with the failure of hashing its name or, for a name that can be
hashed, with a generation failure. -/
theorem sourceNamed_error {r : Registries} {name : Value} {x : Failure}
    (h : sourceNamed r name = .error x) :
    name.hashFailure? = some x ∨ (name.hashFailure? = none ∧ ∃ m, x = .generation m) := by
  unfold sourceNamed at h
  dsimp only at h
  split at h
  · next f hf => cases h; exact .inl hf
  · next hf =>
    refine .inr ⟨hf, ?_⟩
    split at h
    · split at h
      · cases h
      · cases h; exact ⟨_, rfl⟩
    · cases h; exact ⟨_, rfl⟩

theorem run_of_sourceNamed_error {r : Registries} {name : Value} {f : MappedField} {x : Failure}
    (h : sourceNamed r name = .error x) (w : Work) : (run r name f).run w = .error x w := by
  simp only [run, h]
  rfl

theorem run_of_generate_ok {r : Registries} {name : Value} {f : MappedField} {w : Work}
    {s : Source} {v : Value} {sup : Supply} (hs : sourceNamed r name = .ok s)
    (hg : s.generate w.entity f w.supply = .ok (v, sup)) :
    (run r name f).run w = .ok v { w with supply := sup } := by
  simp only [run, hs]
  simp [bind, EStateM.bind, lift, get, getThe, MonadStateOf.get, EStateM.get, hg, set,
    EStateM.set, pure, EStateM.pure, EStateM.run]

/-- A failing source fails the run with a generation failure, leaving the state: its own when it
is one, else one naming the source and the field. -/
theorem run_of_generate_error {r : Registries} {name : Value} {f : MappedField} {w : Work}
    {s : Source} {x : Failure} (hs : sourceNamed r name = .ok s)
    (hg : s.generate w.entity f w.supply = .error x) :
    ∃ m, (run r name f).run w = .error (.generation m) w ∧ ∀ m', x = .generation m' → m = m' := by
  simp only [run, hs]
  cases x <;>
    simp [bind, EStateM.bind, lift, get, getThe, MonadStateOf.get, EStateM.get, hg, throw,
      throwThe, MonadExceptOf.throw, EStateM.throw, EStateM.run, pure, EStateM.pure]

/-- A run fails leaving the state: with a generation failure when its source refuses, else
with the failure of hashing the name. -/
theorem run_error {r : Registries} {name : Value} {f : MappedField} {w w' : Work} {e : Failure}
    (h : (run r name f).run w = .error e w') :
    w' = w ∧ (((∃ m, e = .generation m) ∧ SourceRefuses r name f w) ∨
      name.hashFailure? = some e) := by
  cases hs : sourceNamed r name with
  | error x =>
    rw [run_of_sourceNamed_error hs] at h
    cases h
    rcases sourceNamed_error hs with hh | ⟨hh, hm⟩
    · exact ⟨rfl, .inr hh⟩
    · exact ⟨rfl, .inl ⟨hm, .inl ⟨hh, _, hs⟩⟩⟩
  | ok src =>
    cases hg : src.generate w.entity f w.supply with
    | error x =>
      obtain ⟨m, hm, -⟩ := run_of_generate_error hs hg
      rw [hm] at h
      cases h
      exact ⟨rfl, .inl ⟨⟨m, rfl⟩, .inr ⟨src, x, hs, hg⟩⟩⟩
    | ok p =>
      rw [run_of_generate_ok hs hg] at h
      cases h

theorem run_ok {r : Registries} {name : Value} {f : MappedField} {w w' : Work} {v : Value}
    (h : (run r name f).run w = .ok v w') : w'.entity = w.entity := by
  cases hs : sourceNamed r name with
  | error x => rw [run_of_sourceNamed_error hs] at h; cases h
  | ok src =>
    cases hg : src.generate w.entity f w.supply with
    | error x =>
      obtain ⟨m, hm, -⟩ := run_of_generate_error hs hg
      rw [hm] at h
      cases h
    | ok p =>
      rw [run_of_generate_ok hs hg] at h
      cases h
      rfl

theorem run_of_refuses {r : Registries} {name : Value} {f : MappedField} {w : Work}
    (h : SourceRefuses r name f w) : ∃ m, (run r name f).run w = .error (.generation m) w := by
  rcases h with ⟨hh, x, hs⟩ | ⟨src, x, hs, hg⟩
  · rcases sourceNamed_error hs with hx | ⟨-, m, rfl⟩
    · rw [hh] at hx
      cases hx
    · exact ⟨m, run_of_sourceNamed_error hs w⟩
  · obtain ⟨m, hm, -⟩ := run_of_generate_error hs hg
    exact ⟨m, hm⟩

theorem sourceNamed_of_hashFailure {r : Registries} {name : Value} {x : Failure}
    (h : name.hashFailure? = some x) : sourceNamed r name = .error x := by
  simp [sourceNamed, h]

theorem not_sourceRefuses_of_hashFailure {r : Registries} {name : Value} {f : MappedField}
    {w : Work} {x : Failure} (h : name.hashFailure? = some x) : ¬ SourceRefuses r name f w := by
  rintro (⟨hh, -⟩ | ⟨src, y, hs, -⟩)
  · rw [hh] at h
    cases h
  · rw [sourceNamed_of_hashFailure h] at hs
    cases hs

theorem assign_run (f : MappedField) (v : Value) (w : Work) :
    (assign f v).run w =
      match w.entity.assign f.name v with
      | .ok e => .ok () { w with entity := e }
      | .error x => .error x w := by
  cases h : w.entity.assign f.name v <;>
    simp [assign, h, bind, EStateM.bind, lift, get, getThe, MonadStateOf.get, EStateM.get, set,
      EStateM.set, EStateM.run, pure, EStateM.pure, throw, throwThe, MonadExceptOf.throw,
      EStateM.throw]

theorem intOfText_error {s : String} {x : Failure} (h : Cast.intOfText s = .error x) :
    x.isValueError := by
  unfold Cast.intOfText at h
  split at h
  · cases h
  · cases h
    rename_i e _
    cases e <;> rfl

theorem uuidOfText_error {s : String} {x : Failure} (h : uuidOfText s = .error x) :
    x.isValueError := by
  dsimp only [uuidOfText] at h
  split at h
  · cases h; rfl
  · split at h
    · cases h; rfl
    · split at h
      · cases h; rfl
      · cases h

theorem parseLiteral_error {enums : List EnumDef} {raw : Value} {t : TypeExpr} {x : Failure}
    (h : parseLiteral enums raw t = .error x) : x.isValueError ∨ x.isKeyError := by
  unfold parseLiteral at h
  split at h
  · rename_i s c _
    cases c with
    | bool =>
      simp only at h
      split at h
      · cases h
      · split at h
        · cases h
        · cases h; exact .inl rfl
    | int =>
      cases hi : Cast.intOfText s with
      | error y => simp [hi, Except.map] at h; exact .inl (h ▸ intOfText_error hi)
      | ok n => simp [hi, Except.map] at h
    | float =>
      simp only [Cast.floatOfText] at h
      split at h <;> simp [Except.map] at h
      exact .inl (h ▸ rfl)
    | decimal =>
      simp only at h
      split at h
      · cases h
      · cases h; exact .inl rfl
    | enum n =>
      simp only at h
      split at h
      · cases h
      · split at h
        · cases h
        · split at h
          · cases h
          · cases h; exact .inr rfl
    -- the readers are opened by `delta` and a split on what they read, since their equation
    -- lemmas are costly to build
    | datetime =>
      delta readDateTime at h
      cases hr : DateTime.ofIso s with
      | ok t => rw [hr] at h; cases h
      | error e => rw [hr] at h; cases h; exact .inl rfl
    | date =>
      delta readDate at h
      cases hr : Date.ofIso s with
      | ok t => rw [hr] at h; cases h
      | error e => rw [hr] at h; cases h; exact .inl rfl
    | time =>
      delta readTime at h
      cases hr : TimeOfDay.ofIso s with
      | ok t => rw [hr] at h; cases h
      | error e => rw [hr] at h; cases h; exact .inl rfl
    | uuid =>
      cases hu : uuidOfText s with
      | error y => simp [hu, Except.map] at h; exact .inl (h ▸ uuidOfText_error hu)
      | ok n => simp [hu, Except.map] at h
    | _ => cases h
  · cases h

theorem defaultValue_of_truthy {enums : List EnumDef} {r : Registries} {f : MappedField}
    {literal generator : Value} (hg : generator.truthy = true) :
    defaultValue enums r f literal generator = run r generator f := by
  simp [defaultValue, hg]

theorem defaultValue_of_literal_ok {enums : List EnumDef} {r : Registries} {f : MappedField}
    {literal generator v : Value} (hg : generator.truthy = false)
    (hp : parseLiteral enums literal f.valueType = .ok v) (w : Work) :
    (defaultValue enums r f literal generator).run w = .ok v w := by
  simp [defaultValue, hg, hp]

theorem defaultValue_of_literal_error {enums : List EnumDef} {r : Registries} {f : MappedField}
    {literal generator : Value} {x : Failure} (hg : generator.truthy = false)
    (hp : parseLiteral enums literal f.valueType = .error x) (w : Work) :
    ∃ m, (defaultValue enums r f literal generator).run w = .error (.generation m) w := by
  have hx : (x.isValueError || x.isKeyError) = true := by
    simpa only [Bool.or_eq_true] using parseLiteral_error hp
  simp only [defaultValue, hg, hp, hx]
  exact ⟨_, rfl⟩

theorem fillDefault_run (enums : List EnumDef) (r : Registries) (f : MappedField)
    (literal generator : Value) (w : Work) :
    (fillDefault enums r f literal generator).run w =
      match w.entity.get f.name with
      | .error x => .error x w
      | .ok cur =>
        if cur.isNone then (defaultValue enums r f literal generator >>= assign f).run w
        else .ok () w := by
  cases h : w.entity.get f.name with
  | error x =>
    simp [fillDefault, h, bind, EStateM.bind, lift, get, getThe, MonadStateOf.get, EStateM.get,
      EStateM.run, throw, throwThe, MonadExceptOf.throw, EStateM.throw]
  | ok cur =>
    cases hc : cur.isNone <;>
      simp [fillDefault, h, hc, bind, EStateM.bind, lift, get, getThe, MonadStateOf.get,
        EStateM.get, EStateM.run, pure, EStateM.pure]

namespace FillStep

/-- Whether a step looks for its value: a generated tag always does, a default only when the
field's value is nothing. -/
def Reads : FillStep → Work → Prop
  | .default f _ _, w => w.entity.get f.name = .ok .none
  | .generated _ _, _ => True

/-- Why a step's value cannot be had: the source it names is not registered or fails, or (a
default without a source) its literal does not read as the field's declared type. -/
def Refused (enums : List EnumDef) (r : Registries) : FillStep → Work → Prop
  | .default f literal generator, w =>
    if generator.truthy then SourceRefuses r generator f w
    else ∃ x, parseLiteral enums literal f.valueType = .error x
  | .generated f name, w => SourceRefuses r name f w

/-- The source a step runs, if any: a generated tag's, or a default's when it names one. -/
def source? : FillStep → Option Value
  | .default _ _ generator => if generator.truthy then some generator else none
  | .generated _ name => some name

/-- How a step fails, by the failure it raises: a step that looks for its value fails with a
generation failure when the value is refused, or with the failure of hashing the name of its
source; a default fails with the missing-attribute failure when the entity lacks its field; a
step whose value is had fails with the frozen record's refusal of the assignment. -/
def FailsWith (enums : List EnumDef) (r : Registries) (s : FillStep) (w : Work) (e : Failure) :
    Prop :=
  (s.Reads w ∧ s.Refused enums r w ∧ ∃ m, e = .generation m) ∨
  (s.Reads w ∧ ∃ name, s.source? = some name ∧ name.hashFailure? = some e) ∨
  (∃ f literal generator, s = .default f literal generator ∧
    w.entity.get f.name = .error e ∧ e = Entity.missing w.entity.model f.name) ∨
  (s.Reads w ∧ ¬ s.Refused enums r w ∧ w.entity.frozen = true ∧
    e = .frozen ("cannot assign to field '" ++ s.field.name ++ "'"))

variable {enums : List EnumDef} {r : Registries}

theorem value_ok {s : FillStep} {w w' : Work} {v : Value} (h : (s.value enums r).run w = .ok v w') :
    w'.entity = w.entity := by
  cases s with
  | generated f name => exact run_ok h
  | default f literal generator =>
    cases hg : generator.truthy with
    | true => rw [value, defaultValue_of_truthy hg] at h; exact run_ok h
    | false =>
      cases hp : parseLiteral enums literal f.valueType with
      | ok v' => rw [value, defaultValue_of_literal_ok hg hp] at h; cases h; rfl
      | error x =>
        obtain ⟨m, hm⟩ := defaultValue_of_literal_error (r := r) hg hp w
        rw [value, hm] at h
        cases h

/-- A step's value fails leaving the state as it was: with a generation failure when it is
refused, else with the failure of hashing the name of the source it runs. -/
theorem value_error {s : FillStep} {w w' : Work} {e : Failure}
    (h : (s.value enums r).run w = .error e w') :
    w' = w ∧ (((∃ m, e = .generation m) ∧ s.Refused enums r w) ∨
      ∃ name, s.source? = some name ∧ name.hashFailure? = some e) := by
  cases s with
  | generated f name =>
    obtain ⟨rfl, h | h⟩ := run_error h
    · exact ⟨rfl, .inl h⟩
    · exact ⟨rfl, .inr ⟨name, rfl, h⟩⟩
  | default f literal generator =>
    cases hg : generator.truthy with
    | true =>
      rw [value, defaultValue_of_truthy hg] at h
      obtain ⟨rfl, h | h⟩ := run_error h
      · exact ⟨rfl, .inl (by simpa [Refused, hg] using h)⟩
      · exact ⟨rfl, .inr ⟨generator, by simp [source?, hg], h⟩⟩
    | false =>
      cases hp : parseLiteral enums literal f.valueType with
      | ok v' => rw [value, defaultValue_of_literal_ok hg hp] at h; cases h
      | error x =>
        obtain ⟨m, hm⟩ := defaultValue_of_literal_error (r := r) hg hp w
        rw [value, hm] at h
        cases h
        exact ⟨rfl, .inl ⟨⟨m, rfl⟩, by simpa [Refused, hg] using ⟨x, hp⟩⟩⟩

theorem value_of_refused {s : FillStep} {w : Work} (h : s.Refused enums r w) :
    ∃ m, (s.value enums r).run w = .error (.generation m) w := by
  cases s with
  | generated f name => exact run_of_refuses h
  | default f literal generator =>
    cases hg : generator.truthy with
    | true =>
      simp only [Refused, hg, if_true] at h
      rw [value, defaultValue_of_truthy hg]
      exact run_of_refuses h
    | false =>
      simp only [Refused, hg, Bool.false_eq_true, if_false] at h
      obtain ⟨x, hp⟩ := h
      exact defaultValue_of_literal_error hg hp w

theorem not_refused_of_hashFailure {s : FillStep} {w : Work} {name : Value} {x : Failure}
    (hn : s.source? = some name) (h : name.hashFailure? = some x) : ¬ s.Refused enums r w := by
  cases s with
  | generated f name' =>
    simp only [source?, Option.some.injEq] at hn
    subst hn
    exact not_sourceRefuses_of_hashFailure h
  | default f literal generator =>
    simp only [source?] at hn
    split at hn
    · next hg =>
      cases hn
      simp only [Refused, hg, if_true]
      exact not_sourceRefuses_of_hashFailure h
    · cases hn

theorem assign_ok_iff {f : MappedField} {v : Value} {w w' : Work} :
    (assign f v).run w = .ok () w' ↔ ∃ e, w.entity.assign f.name v = .ok e ∧ w' = { w with entity := e } := by
  rw [assign_run]
  cases w.entity.assign f.name v <;> simp [eq_comm]

theorem assign_error_iff {f : MappedField} {v : Value} {w w' : Work} {e : Failure} :
    (assign f v).run w = .error e w' ↔ w.entity.assign f.name v = .error e ∧ w' = w := by
  rw [assign_run]
  cases w.entity.assign f.name v <;> simp [eq_comm]

theorem run_of_reads {s : FillStep} {w : Work} (h : s.Reads w) :
    (s.run enums r).run w = (s.value enums r >>= assign s.field).run w := by
  cases s with
  | generated f name => rfl
  | default f literal generator =>
    simp only [Reads] at h
    simp [run, value, field, fillDefault_run, h, Value.isNone]

theorem run_of_not_reads {s : FillStep} {w : Work} (h : ¬ s.Reads w) {cur : Value}
    (hcur : w.entity.get s.field.name = .ok cur) : (s.run enums r).run w = .ok () w := by
  cases s with
  | generated f name => exact absurd trivial h
  | default f literal generator =>
    simp only [Reads] at h
    simp only [field] at hcur
    have hn : cur.isNone = false := by
      cases cur <;> simp_all [Value.isNone]
    simp [run, fillDefault_run, hcur, hn]

/-- What a step does when it succeeds: a default whose field's value is something else keeps
the state; otherwise the step's value is written to its field. -/
theorem run_ok_iff {s : FillStep} {w w' : Work} :
    (s.run enums r).run w = .ok () w' ↔
      (¬ s.Reads w ∧ (∃ cur, w.entity.get s.field.name = .ok cur) ∧ w' = w) ∨
      (s.Reads w ∧ ∃ v w₁ e, (s.value enums r).run w = .ok v w₁ ∧
        w₁.entity.assign s.field.name v = .ok e ∧ w' = { w₁ with entity := e }) := by
  by_cases hr : s.Reads w
  · rw [run_of_reads hr, run_bind_eq_ok_iff]
    simp only [hr, not_true_eq_false, false_and, true_and, false_or, assign_ok_iff]
    constructor
    · rintro ⟨v, w₁, hv, e, ha, rfl⟩
      exact ⟨v, w₁, e, hv, ha, rfl⟩
    · rintro ⟨v, w₁, e, hv, ha, rfl⟩
      exact ⟨v, w₁, hv, e, ha, rfl⟩
  · cases s with
    | generated f name => exact absurd trivial hr
    | default f literal generator =>
      cases hcur : w.entity.get f.name with
      | error x =>
        simp only [run, fillDefault_run, hcur]
        simp [hr, field, hcur]
      | ok cur =>
        rw [run_of_not_reads hr hcur]
        simp [hr, field, hcur, eq_comm]

/-- How a step fails: its value cannot be had, or (a default) the entity lacks the field, or the
entity refuses the assignment. -/
theorem run_error_iff {s : FillStep} {w w' : Work} {e : Failure} :
    (s.run enums r).run w = .error e w' ↔
      (s.Reads w ∧ (s.value enums r).run w = .error e w') ∨
      (∃ f literal generator, s = .default f literal generator ∧
        w.entity.get f.name = .error e ∧ w' = w) ∨
      (s.Reads w ∧ ∃ v w₁, (s.value enums r).run w = .ok v w₁ ∧
        w₁.entity.assign s.field.name v = .error e ∧ w' = w₁) := by
  by_cases hr : s.Reads w
  · rw [run_of_reads hr, run_bind_eq_error_iff]
    simp only [hr, true_and, assign_error_iff]
    constructor
    · rintro (h | ⟨v, w₁, hv, ha, rfl⟩)
      · exact .inl h
      · exact .inr (.inr ⟨v, _, hv, ha, rfl⟩)
    · rintro (h | ⟨f, literal, generator, rfl, hget, rfl⟩ | ⟨v, w₁, hv, ha, rfl⟩)
      · exact .inl h
      · simp [Reads, hget] at hr
      · exact .inr ⟨v, _, hv, ha, rfl⟩
  · cases s with
    | generated f name => exact absurd trivial hr
    | default f literal generator =>
      cases hcur : w.entity.get f.name with
      | error x =>
        simp only [run, fillDefault_run, hcur]
        simp [hr, hcur, eq_comm]
      | ok cur =>
        rw [run_of_not_reads hr hcur]
        simp [hr, hcur]

theorem run_error_entity {s : FillStep} {w w' : Work} {e : Failure}
    (h : (s.run enums r).run w = .error e w') : w'.entity = w.entity := by
  rcases run_error_iff.mp h with ⟨-, hv⟩ | ⟨-, -, -, -, -, rfl⟩ | ⟨-, v, w₁, hv, -, rfl⟩
  · rw [(value_error hv).1]
  · rfl
  · exact value_ok hv

theorem run_error_cases {s : FillStep} {w w' : Work} {e : Failure}
    (h : (s.run enums r).run w = .error e w') : s.FailsWith enums r w e := by
  rcases run_error_iff.mp h with ⟨hr, hv⟩ | ⟨f, literal, generator, rfl, hget, -⟩ |
      ⟨hr, v, w₁, hv, ha, -⟩
  · obtain ⟨-, ⟨hm, hf⟩ | hh⟩ := value_error hv
    · exact .inl ⟨hr, hf, hm⟩
    · exact .inr (.inl ⟨hr, hh⟩)
  · refine .inr (.inr (.inl ⟨f, literal, generator, rfl, hget, ?_⟩))
    simp only [Entity.get] at hget
    split at hget <;> cases hget
    rfl
  · have hent := value_ok hv
    simp only [Entity.assign] at ha
    split at ha
    · next hfz =>
      cases ha
      refine .inr (.inr (.inr ⟨hr, fun hf => ?_, hent ▸ hfz, rfl⟩))
      obtain ⟨m, he'⟩ := value_of_refused hf
      rw [hv] at he'
      cases he'
    · cases ha

theorem run_error_generation_iff {s : FillStep} {w w' : Work} {e : Failure}
    (h : (s.run enums r).run w = .error e w') :
    (∃ m, e = .generation m) ↔ s.Reads w ∧ s.Refused enums r w := by
  rcases run_error_cases h with ⟨hr, hf, hm⟩ | ⟨hr, name, hn, hh⟩ |
      ⟨f, literal, generator, rfl, hget, rfl⟩ | ⟨hr, hf, -, rfl⟩
  · exact ⟨fun _ => ⟨hr, hf⟩, fun _ => hm⟩
  · obtain ⟨msg, rfl⟩ := hashFailure?_type hh
    refine ⟨?_, fun ⟨_, hf⟩ => absurd hf (not_refused_of_hashFailure hn hh)⟩
    rintro ⟨m, hm⟩
    cases hm
  · refine ⟨?_, fun ⟨hr, _⟩ => ?_⟩
    · rintro ⟨m, hm⟩
      simp [Entity.missing] at hm
    · simp [Reads, hget] at hr
  · refine ⟨?_, fun ⟨_, hf'⟩ => absurd hf' hf⟩
    rintro ⟨m, hm⟩
    cases hm

theorem run_of_refused {s : FillStep} {w : Work} (hr : s.Reads w) (hf : s.Refused enums r w) :
    ∃ m w', (s.run enums r).run w = .error (.generation m) w' := by
  obtain ⟨m, hv⟩ := value_of_refused hf
  exact ⟨m, w, run_error_iff.mpr (.inl ⟨hr, hv⟩)⟩

theorem run_of_source_generation {s : FillStep} {w : Work} {name : Value} {src : Source}
    {m : String} (hr : s.Reads w) (hn : s.source? = some name) (hs : sourceNamed r name = .ok src)
    (hg : src.generate w.entity s.field w.supply = .error (.generation m)) :
    (s.run enums r).run w = .error (.generation m) w := by
  have hv : (s.value enums r).run w = .error (.generation m) w := by
    obtain ⟨m', hm', hsame⟩ := run_of_generate_error hs hg
    rw [hsame m rfl] at hm'
    cases s with
    | generated f name' =>
      simp only [source?, Option.some.injEq] at hn
      subst hn
      exact hm'
    | default f literal generator =>
      simp only [source?] at hn
      split at hn
      · rename_i hgt
        cases hn
        rw [value, defaultValue_of_truthy hgt]
        exact hm'
      · cases hn
  exact run_error_iff.mpr (.inl ⟨hr, hv⟩)

theorem run_ok_get {s : FillStep} {w w' : Work} (h : (s.run enums r).run w = .ok () w')
    {a : String} (ha : s.field.name ≠ a) : w'.entity.get a = w.entity.get a := by
  rcases run_ok_iff.mp h with ⟨-, -, rfl⟩ | ⟨-, v, w₁, e, hv, he, rfl⟩
  · rfl
  · have hput : e = w₁.entity.put s.field.name v := by
      simp only [Entity.assign] at he
      split at he <;> cases he
      rfl
    rw [hput, ← value_ok hv]
    exact Entity.get_put_of_ne _ _ ha

end FillStep

/-- Filling an entity is the fold of its steps: each step sees the entity as the steps before
it left it; a successful step writes its value to its own field, or keeps the state when it is
a default whose field's value is something else. A run fails at its first failing step, with
the entity as the steps before it left it; it fails with a generation failure exactly at a
first failing step that looks for a value that is refused (its source not registered or
failing, or its literal not reading), a source's own generation failure passing unchanged.
Otherwise the first failing step raises the failure of hashing its source's name, or the
entity's missing-attribute failure (a default reading its field), or the frozen record's
refusal of the assignment. A field that no step writes keeps its value. -/
theorem applyGenerated_fold (enums : List EnumDef) (r : Registries) (d : MappedModel)
    (insert : Bool) (w : Work) :
    let steps := fillSteps insert d.fields
    (applyGenerated enums r d insert).run w = (forM steps (FillStep.run enums r)).run w ∧
    (∀ s ∈ steps, ∀ w₀ w₁, (s.run enums r).run w₀ = .ok () w₁ ↔
      (¬ s.Reads w₀ ∧ (∃ cur, w₀.entity.get s.field.name = .ok cur) ∧ w₁ = w₀) ∨
      (s.Reads w₀ ∧ ∃ v w₂ e, (s.value enums r).run w₀ = .ok v w₂ ∧
        w₂.entity.assign s.field.name v = .ok e ∧ w₁ = { w₂ with entity := e })) ∧
    (∀ s ∈ steps, ∀ w₀ name src m, s.Reads w₀ → s.source? = some name →
      sourceNamed r name = .ok src → src.generate w₀.entity s.field w₀.supply = .error (.generation m) →
      (s.run enums r).run w₀ = .error (.generation m) w₀) ∧
    (∀ e w', (applyGenerated enums r d insert).run w = .error e w' →
      ∃ i, ∃ h : i < steps.length, ∃ wi,
        (forM (steps.take i) (FillStep.run enums r)).run w = .ok ⟨⟩ wi ∧
        (steps[i].run enums r).run wi = .error e w' ∧ w'.entity = wi.entity ∧
        ((∃ m, e = .generation m) ↔ steps[i].Reads wi ∧ steps[i].Refused enums r wi) ∧
        steps[i].FailsWith enums r wi e) ∧
    ((∃ m w', (applyGenerated enums r d insert).run w = .error (.generation m) w') ↔
      ∃ i, ∃ h : i < steps.length, ∃ wi,
        (forM (steps.take i) (FillStep.run enums r)).run w = .ok ⟨⟩ wi ∧
        steps[i].Reads wi ∧ steps[i].Refused enums r wi) ∧
    (∀ a, (∀ s ∈ steps, s.field.name ≠ a) →
      (∀ w', (applyGenerated enums r d insert).run w = .ok ⟨⟩ w' →
        w'.entity.get a = w.entity.get a) ∧
      (∀ e w', (applyGenerated enums r d insert).run w = .error e w' →
        w'.entity.get a = w.entity.get a)) := by
  intro steps
  have hfold := applyGenerated_eq_forM enums r d insert
  refine ⟨by rw [hfold], fun s _ w₀ w₁ => FillStep.run_ok_iff,
    fun s _ w₀ name src m hr hn hs hg => FillStep.run_of_source_generation hr hn hs hg, ?_, ?_, ?_⟩
  · intro e w' h
    rw [hfold, forM_error_iff] at h
    obtain ⟨i, hi, wi, hpre, hstep⟩ := h
    exact ⟨i, hi, wi, hpre, hstep, FillStep.run_error_entity hstep,
      FillStep.run_error_generation_iff hstep, FillStep.run_error_cases hstep⟩
  · rw [hfold]
    constructor
    · rintro ⟨m, w', h⟩
      obtain ⟨i, hi, wi, hpre, hstep⟩ := (forM_error_iff _ _ _ _ _).mp h
      obtain ⟨hr, hf⟩ := (FillStep.run_error_generation_iff hstep).mp ⟨m, rfl⟩
      exact ⟨i, hi, wi, hpre, hr, hf⟩
    · rintro ⟨i, hi, wi, hpre, hr, hf⟩
      obtain ⟨m, w', hstep⟩ := FillStep.run_of_refused hr hf
      exact ⟨m, w', (forM_error_iff _ _ _ _ _).mpr ⟨i, hi, wi, hpre, hstep⟩⟩
  · intro a ha
    rw [hfold]
    exact forM_keeps _ (fun w' => w'.entity.get a = w.entity.get a) steps
      (fun s hs w₀ w₁ h₀ h => (FillStep.run_ok_get h (ha s hs)).trans h₀)
      (fun s _ w₀ w₁ e h₀ h => by rw [FillStep.run_error_entity h]; exact h₀) w rfl

/-- A frozen entity refuses its default. Filling, on insert, the field `x` of a frozen entity
whose value is nothing, from the default literal `5`: no step's value is refused, yet filling
fails at the default with the frozen record's refusal, which is no generation failure. -/
theorem frozen_entity_refuses_default :
    let f : MappedField := ⟨"x", "x", .cls .int, .cls .int,
      [⟨"DefaultValue", .defaultValue (.int 5) .none⟩], false, false, true⟩
    let d : MappedModel := ⟨{ name := "M", frozen := true }, "m", none, [f], none, false⟩
    let w : Work := ⟨⟨"M", true, [("x", .none)]⟩, { now := Supply.defaultNow }⟩
    (∀ s ∈ fillSteps true d.fields, ¬ s.Refused [] {} w) ∧
      (applyGenerated [] {} d true).run w = .error (.frozen "cannot assign to field 'x'") w := by
  intro f d w
  constructor
  · have hsteps : fillSteps true d.fields = [.default f (.int 5) .none] := rfl
    have hread : parseLiteral [] (.int 5) f.valueType = .ok (.int 5) := rfl
    rw [hsteps]
    intro s hs
    rw [List.mem_singleton] at hs
    subst hs
    simp [FillStep.Refused, Value.truthy, hread]
  · rfl

end Generation

end DataMapper
