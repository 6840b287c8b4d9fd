import DataMapper.Validation.Entity
import DataMapper.Proofs.Except

namespace DataMapper

namespace Validation

/-- What one check reports on a value: its validation errors, each given the field's name when
it names no field; any other failure is passed on. -/
def reported (f : MappedField) (v : Value) (c : Check) : Except Failure (List FieldError) :=
  match c.run f v with
  | .ok () => .ok []
  | .error (.validation es) => .ok (es.map (claim f))
  | .error other => .error other

/-- What one field reports: its value is read, then each check registered for its tags runs on
it, in tag order. -/
def fieldReport (r : Registries) (e : Entity) (f : MappedField) : Except Failure (List FieldError) := do
  let v ← e.get f.name
  let ess ← (r.checksFor f).mapM (reported f v)
  pure ess.flatten

/-- The loop over a field's checks, collecting after `acc`, is the traversal of `reported`: the
induction carries the collected errors along. -/
theorem fieldErrors_eq (f : MappedField) (v : Value) (acc : List FieldError) (cs : List Check) :
    fieldErrors f v acc cs = (cs.mapM (reported f v)).map (acc ++ ·.flatten) := by
  induction cs generalizing acc with
  | nil => simp [fieldErrors, Except.map]
  | cons c cs ih =>
    cases hc : c.run f v with
    | ok u =>
      simp [fieldErrors, reported, hc, ih]
      cases cs.mapM (reported f v) <;> simp [Except.map]
    | error x =>
      cases x <;> simp [fieldErrors, reported, hc, ih, Except.map]
      rename_i es
      cases cs.mapM (reported f v) <;> simp

theorem errors_eq (r : Registries) (e : Entity) (acc : List FieldError) (fs : List MappedField) :
    errors r e acc fs = (fs.mapM (fieldReport r e)).map (acc ++ ·.flatten) := by
  induction fs generalizing acc with
  | nil => simp [errors, Except.map]
  | cons f fs ih =>
    cases hv : e.get f.name with
    | error x => simp [errors, fieldReport, hv, Except.map]
    | ok v =>
      simp only [errors, fieldReport, hv, except_ok_bind, fieldErrors_eq, List.mapM_cons]
      cases hc : (r.checksFor f).mapM (reported f v) with
      | error x => simp [Except.map]
      | ok ess =>
        simp only [Except.map, except_ok_bind, except_pure, ih]
        cases fs.mapM (fieldReport r e) <;> simp

/-- Checking an entity fails with every validation error its fields report, gathered in order,
or with the first other failure met. -/
theorem validateEntity_eq (r : Registries) (d : MappedModel) (e : Entity) :
    validateEntity r d e = (d.fields.mapM (fieldReport r e) >>= fun ess =>
      if ess.flatten = [] then .ok () else .error (.validation ess.flatten)) := by
  unfold validateEntity
  rw [errors_eq]
  cases d.fields.mapM (fieldReport r e) with
  | error x => rfl
  | ok ess =>
    simp only [Except.map, except_ok_bind, List.nil_append, List.isEmpty_iff]
    split <;> rfl

theorem tag?_of_first (f : MappedField) (k : TagKind) :
    ({ f with tags := (f.tag? k).toList } : MappedField).tag? k = f.tag? k := by
  unfold MappedField.tag?
  cases h : f.tags.find? (·.kind == k) with
  | none => rfl
  | some t => simpa using List.find?_some h

/-- A built-in check reads, of the field, only its name and its first tag of the check's
class. -/
theorem builtin_congr (c : BuiltinCheck) {f g : MappedField} (hname : f.name = g.name)
    (htag : f.tag? c.tagKind = g.tag? c.tagKind) (v : Value) : builtin c f v = builtin c g v := by
  cases c <;> simp only [BuiltinCheck.tagKind] at htag <;>
    simp only [builtin, reject, configTag, hname, htag]

/-- A built-in check behaves as on the field carrying its first tag of the check's class alone,
whichever tag selected the check. -/
theorem builtin_first_tag (c : BuiltinCheck) (f : MappedField) (v : Value) :
    builtin c f v = builtin c { f with tags := (f.tag? c.tagKind).toList } v := by
  refine builtin_congr c ?_ ?_ v
  · rfl
  · exact (tag?_of_first f c.tagKind).symm

/-- The validation errors a check reports on a value, each given the field's name when it names
no field; none when the check accepts the value or fails another way. -/
def reportedErrors (f : MappedField) (v : Value) (c : Check) : List FieldError :=
  match c.run f v with
  | .error (.validation es) => es.map (claim f)
  | _ => []

/-- A check that, on this value, accepts it or reports validation errors, and fails no other
way. -/
def Reports (f : MappedField) (v : Value) (c : Check) : Prop :=
  ∀ x, c.run f v = .error x → ∃ es, x = .validation es

theorem reported_eq_ok_iff (f : MappedField) (v : Value) (c : Check) (es : List FieldError) :
    reported f v c = .ok es ↔ Reports f v c ∧ es = reportedErrors f v c := by
  unfold reported reportedErrors Reports
  cases hc : c.run f v with
  | ok u => simp [eq_comm]
  | error x =>
    cases x <;> simp [eq_comm]

theorem reported_eq_error_iff (f : MappedField) (v : Value) (c : Check) (x : Failure)
    (hx : ∀ es, x ≠ .validation es) : reported f v c = .error x ↔ c.run f v = .error x := by
  unfold reported
  cases hc : c.run f v with
  | ok u => simp
  | error y =>
    cases y with
    | validation es => simpa using fun h => hx es h.symm
    | _ => simp

theorem mapM_reported_eq_ok_iff (f : MappedField) (v : Value) (cs : List Check)
    (ess : List (List FieldError)) :
    cs.mapM (reported f v) = .ok ess ↔
      (∀ c ∈ cs, Reports f v c) ∧ ess = cs.map (reportedErrors f v) := by
  rw [mapM_eq_ok]
  induction cs generalizing ess with
  | nil => cases ess <;> simp
  | cons c cs ih =>
    cases ess with
    | nil => simp
    | cons es ess =>
      rw [List.forall₂_cons, ih, reported_eq_ok_iff]
      simp only [List.forall_mem_cons, List.map_cons, List.cons.injEq]
      tauto

/-- A field reports errors exactly when its value reads and every check registered for its tags
accepts the value or reports validation errors; it reports theirs, in tag order. -/
theorem fieldReport_eq_ok_iff (r : Registries) (e : Entity) (f : MappedField)
    (es : List FieldError) :
    fieldReport r e f = .ok es ↔ ∃ v, e.get f.name = .ok v ∧
      (∀ c ∈ r.checksFor f, Reports f v c) ∧ es = (r.checksFor f).flatMap (reportedErrors f v) := by
  unfold fieldReport
  cases hv : e.get f.name with
  | error x => simp
  | ok v =>
    simp only [except_ok_bind, Except.ok.injEq, exists_eq_left']
    cases hc : (r.checksFor f).mapM (reported f v) with
    | error x =>
      simp only [except_error_bind, reduceCtorEq, false_iff, not_and]
      intro hall
      have hok := (mapM_reported_eq_ok_iff f v _ _).mpr ⟨hall, rfl⟩
      simp [hc] at hok
    | ok ess =>
      obtain ⟨hall, rfl⟩ := (mapM_reported_eq_ok_iff f v _ _).mp hc
      simp only [except_ok_bind, except_pure, Except.ok.injEq, List.flatMap_def, eq_comm,
        iff_and_self]
      exact fun _ => hall

theorem reported_ok_iff_reports (f : MappedField) (v : Value) (c : Check) :
    (∃ es, reported f v c = .ok es) ↔ Reports f v c := by
  simp [reported_eq_ok_iff]

/-- A field fails with a failure other than a validation one exactly when its value does not
read, or some check fails with it after every earlier check reported. -/
theorem fieldReport_eq_error_iff (r : Registries) (e : Entity) (f : MappedField) (x : Failure)
    (hx : ∀ es, x ≠ .validation es) :
    fieldReport r e f = .error x ↔ e.get f.name = .error x ∨ ∃ v, e.get f.name = .ok v ∧
      ∃ before c after, r.checksFor f = before ++ c :: after ∧
        (∀ b ∈ before, Reports f v b) ∧ c.run f v = .error x := by
  unfold fieldReport
  cases hv : e.get f.name with
  | error y => simp
  | ok v =>
    simp only [except_ok_bind, reduceCtorEq, Except.ok.injEq, exists_eq_left', false_or,
      except_bind_eq_error, except_pure, and_false, exists_false, or_false]
    rw [mapM_eq_error_iff]
    simp only [← reported_ok_iff_reports, reported_eq_error_iff f v _ x hx]

/-- Checking an entity fails with a failure other than a validation one exactly when some field
fails with it after every earlier field reported. -/
theorem validateEntity_eq_error_iff (r : Registries) (d : MappedModel) (e : Entity) (x : Failure)
    (hx : ∀ es, x ≠ .validation es) :
    validateEntity r d e = .error x ↔ ∃ before f after, d.fields = before ++ f :: after ∧
      (∀ g ∈ before, ∃ es, fieldReport r e g = .ok es) ∧ fieldReport r e f = .error x := by
  rw [validateEntity_eq, except_bind_eq_error, ← mapM_eq_error_iff]
  have hgather : ∀ ess : List (List FieldError),
      (if ess.flatten = [] then Except.ok () else .error (.validation ess.flatten)) ≠ .error x := by
    intro ess
    split
    · simp
    · simpa using fun h => hx _ h.symm
  constructor
  · rintro (h | ⟨ess, -, h⟩)
    · exact h
    · exact absurd h (hgather ess)
  · exact Or.inl

/-- When every field's value reads and every check reports, checking an entity fails exactly
when some check reported an error, with all reported errors in field and tag order. -/
theorem validateEntity_of_reports (r : Registries) (d : MappedModel) (e : Entity)
    (vals : MappedField → Value) (hv : ∀ f ∈ d.fields, e.get f.name = .ok (vals f))
    (hc : ∀ f ∈ d.fields, ∀ c ∈ r.checksFor f, Reports f (vals f) c) :
    validateEntity r d e =
      let found := d.fields.flatMap fun f => (r.checksFor f).flatMap (reportedErrors f (vals f))
      if found = [] then .ok () else .error (.validation found) := by
  have hreports : d.fields.mapM (fieldReport r e) =
      .ok (d.fields.map fun f => (r.checksFor f).flatMap (reportedErrors f (vals f))) := by
    rw [mapM_eq_ok, List.forall₂_map_right_iff, List.forall₂_same]
    intro f hf
    exact (fieldReport_eq_ok_iff r e f _).mpr ⟨vals f, hv f hf, hc f hf, rfl⟩
  rw [validateEntity_eq, hreports, except_ok_bind, ← List.flatMap_def]

/-- Checking an entity gathers every validation error in field and tag order, and stops at the
first failure of another kind. A built-in check behaves as on the field's first tag of its
class alone, whichever tag selected it. -/
theorem validateEntity_gathers (r : Registries) (d : MappedModel) (e : Entity) :
    (∀ vals : MappedField → Value, (∀ f ∈ d.fields, e.get f.name = .ok (vals f)) →
      (∀ f ∈ d.fields, ∀ c ∈ r.checksFor f, Reports f (vals f) c) →
      validateEntity r d e =
        let found := d.fields.flatMap fun f => (r.checksFor f).flatMap (reportedErrors f (vals f))
        if found = [] then .ok () else .error (.validation found)) ∧
    (∀ x, (∀ es, x ≠ .validation es) →
      (validateEntity r d e = .error x ↔ ∃ before f after, d.fields = before ++ f :: after ∧
        (∀ g ∈ before, ∃ es, fieldReport r e g = .ok es) ∧ fieldReport r e f = .error x) ∧
      ∀ f, fieldReport r e f = .error x ↔ e.get f.name = .error x ∨ ∃ v, e.get f.name = .ok v ∧
        ∃ before c after, r.checksFor f = before ++ c :: after ∧
          (∀ b ∈ before, Reports f v b) ∧ c.run f v = .error x) ∧
    (∀ f es, fieldReport r e f = .ok es ↔ ∃ v, e.get f.name = .ok v ∧
      (∀ c ∈ r.checksFor f, Reports f v c) ∧ es = (r.checksFor f).flatMap (reportedErrors f v)) ∧
    (∀ c f v, builtin c f v = builtin c { f with tags := (f.tag? c.tagKind).toList } v) := by
  refine ⟨fun vals hv hc => validateEntity_of_reports r d e vals hv hc, fun x hx => ?_,
    fieldReport_eq_ok_iff r e, builtin_first_tag⟩
  exact ⟨validateEntity_eq_error_iff r d e x hx, fun f => fieldReport_eq_error_iff r e f x hx⟩

/-- A field whose value is under its minimum and over its maximum: both checks report, and
checking gathers the two errors in tag order. -/
theorem validateEntity_gathers_bounds :
    let f : MappedField := ⟨"x", "x", .cls .int, .cls .int,
      [⟨"Min", .min (.int 10)⟩, ⟨"Max", .max (.int 0)⟩], false, false, true⟩
    let d : MappedModel := ⟨{ name := "M" }, "m", none, [f], none, false⟩
    let r : Registries := { checks := [("Min", .builtin .min), ("Max", .builtin .max)] }
    let e : Entity := ⟨"M", false, [("x", .int 5)]⟩
    (∀ g ∈ d.fields, e.get g.name = .ok (.int 5)) ∧
      (∀ g ∈ d.fields, ∀ c ∈ r.checksFor g, Reports g (.int 5) c) ∧
      validateEntity r d e = .error (.validation
        [⟨some "x", "x must be at least 10"⟩, ⟨some "x", "x must be at most 0"⟩]) := by
  intro f d r e
  have hv : ∀ g ∈ d.fields, e.get g.name = .ok (.int 5) := by
    intro g hg
    simp only [d, List.mem_singleton] at hg
    subst hg
    rfl
  have hmin : (Check.builtin .min).run f (.int 5) = .error (reject f "must be at least 10") := rfl
  have hmax : (Check.builtin .max).run f (.int 5) = .error (reject f "must be at most 0") := rfl
  have hc : ∀ g ∈ d.fields, ∀ c ∈ r.checksFor g, Reports g (.int 5) c := by
    intro g hg c hc x hx
    simp only [d, List.mem_singleton] at hg
    subst hg
    have hchecks : r.checksFor f = [.builtin .min, .builtin .max] := rfl
    simp only [hchecks, List.mem_cons, List.not_mem_nil, or_false] at hc
    rcases hc with rfl | rfl
    · rw [hmin] at hx
      cases hx
      exact ⟨_, rfl⟩
    · rw [hmax] at hx
      cases hx
      exact ⟨_, rfl⟩
  refine ⟨hv, hc, ?_⟩
  rw [(validateEntity_gathers r d e).1 (fun _ => .int 5) hv hc]
  rfl

/-- A `Min` tag selects the minimum check, which reads its bound from the field's first tag of
the class: here a derived tag with a lower bound, so a value below the selecting tag's bound
passes. -/
theorem derived_min_tag_shadows_selecting_tag :
    let f : MappedField := ⟨"x", "x", .cls .int, .cls .int,
      [⟨"MyMin", .min (.int 0)⟩, ⟨"Min", .min (.int 10)⟩], false, false, true⟩
    let d : MappedModel := ⟨{ name := "M" }, "m", none, [f], none, false⟩
    let r : Registries := { checks := [("Min", .builtin .min)] }
    let e : Entity := ⟨"M", false, [("x", .int 5)]⟩
    r.checksFor f = [.builtin .min] ∧
      builtin .min { f with tags := [⟨"Min", .min (.int 10)⟩] } (.int 5) =
        .error (reject f "must be at least 10") ∧
      validateEntity r d e = .ok () := by
  intro f d r e
  exact ⟨rfl, rfl, rfl⟩

end Validation

end DataMapper
