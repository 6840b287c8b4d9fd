import DataMapper.Failure
import Mathlib.Data.List.Forall2

namespace DataMapper

@[simp] theorem except_ok_bind {ε : Type u} {α β : Type v} (a : α) (f : α → Except ε β) :
    (Except.ok a >>= f) = f a := rfl

@[simp] theorem except_pure {ε : Type u} {α : Type v} (a : α) :
    (pure a : Except ε α) = .ok a := rfl

@[simp] theorem except_throw {ε : Type u} {α : Type v} (e : ε) :
    (throw e : Except ε α) = .error e := rfl

@[simp] theorem except_error_bind {ε : Type u} {α β : Type v} (e : ε) (f : α → Except ε β) :
    (Except.error e >>= f) = .error e := rfl

theorem except_bind_eq_ok {ε : Type u} {α β : Type v} {x : Except ε α} {f : α → Except ε β}
    {b : β} : (x >>= f) = .ok b ↔ ∃ a, x = .ok a ∧ f a = .ok b := by
  cases x <;> simp

theorem except_bind_eq_error {ε : Type u} {α β : Type v} {x : Except ε α} {f : α → Except ε β}
    {e : ε} : (x >>= f) = .error e ↔ x = .error e ∨ ∃ a, x = .ok a ∧ f a = .error e := by
  cases x <;> simp

theorem except_map_eq_ok {ε : Type u} {α β : Type v} {x : Except ε α} {f : α → β} {b : β} :
    x.map f = .ok b ↔ ∃ a, x = .ok a ∧ f a = b := by
  cases x <;> simp [Except.map]

/-- `filterMapM` succeeds exactly when the step of every element does; the kept values are those
of the steps, in order. -/
theorem filterMapM_eq_ok {ε α β : Type} (g : α → Except ε (Option β)) (xs : List α)
    (ys : List β) :
    xs.filterMapM g = .ok ys ↔
      ∃ rs, List.Forall₂ (fun x r => g x = .ok r) xs rs ∧ ys = rs.filterMap id := by
  induction xs generalizing ys with
  | nil => simp [eq_comm]
  | cons x xs ih =>
    rw [List.filterMapM_cons]
    cases hx : g x with
    | error e =>
      simp only [except_error_bind, reduceCtorEq, false_iff]
      rintro ⟨_ | ⟨r, rs⟩, hrs, -⟩
      · cases hrs
      · cases hrs with
        | cons h _ => rw [hx] at h; cases h
    | ok r =>
      cases r with
      | none =>
        simp only [except_ok_bind, ih]
        constructor
        · rintro ⟨rs, hrs, rfl⟩
          exact ⟨none :: rs, .cons hx hrs, rfl⟩
        · rintro ⟨_ | ⟨_, rs⟩, hrs, rfl⟩
          · cases hrs
          · cases hrs with
            | cons h hrs => rw [hx] at h; cases h; exact ⟨rs, hrs, rfl⟩
      | some b =>
        simp only [except_ok_bind, except_bind_eq_ok, ih]
        constructor
        · rintro ⟨zs, ⟨rs, hrs, rfl⟩, h⟩
          cases h
          exact ⟨some b :: rs, .cons hx hrs, rfl⟩
        · rintro ⟨_ | ⟨_, rs⟩, hrs, rfl⟩
          · cases hrs
          · cases hrs with
            | cons h hrs => rw [hx] at h; cases h; exact ⟨_, ⟨rs, hrs, rfl⟩, rfl⟩

theorem mapM_eq_ok {ε α β : Type} (g : α → Except ε β) (xs : List α) (ys : List β) :
    xs.mapM g = .ok ys ↔ List.Forall₂ (fun x y => g x = .ok y) xs ys := by
  induction xs generalizing ys with
  | nil => cases ys <;> simp
  | cons x xs ih =>
    cases hx : g x with
    | error e =>
      simp only [List.mapM_cons, hx, except_error_bind, reduceCtorEq, false_iff]
      intro h
      cases h with
      | cons h _ => rw [hx] at h; cases h
    | ok y =>
      cases ys with
      | nil => simp [List.mapM_cons, hx, except_bind_eq_ok]
      | cons y' ys =>
        simp only [List.mapM_cons, hx, except_ok_bind, except_bind_eq_ok, except_pure,
          Except.ok.injEq, List.cons.injEq, List.forall₂_cons, ih]
        constructor
        · rintro ⟨zs, hzs, rfl, rfl⟩
          exact ⟨rfl, hzs⟩
        · rintro ⟨rfl, hzs⟩
          exact ⟨ys, hzs, rfl, rfl⟩

theorem mapM_error {ε α β : Type} {g : α → Except ε β} {xs : List α} {e : ε}
    (h : xs.mapM g = .error e) : ∃ x ∈ xs, g x = .error e := by
  induction xs with
  | nil => cases h
  | cons x xs ih =>
    simp only [List.mapM_cons] at h
    cases hx : g x with
    | error e' =>
      rw [hx] at h
      cases h
      exact ⟨x, by simp, hx⟩
    | ok y =>
      rw [hx, except_ok_bind] at h
      cases hxs : xs.mapM g with
      | error e' =>
        rw [hxs] at h
        cases h
        obtain ⟨z, hz, hgz⟩ := ih hxs
        exact ⟨z, by simp [hz], hgz⟩
      | ok zs => rw [hxs] at h; cases h

/-- A `mapM` fails with `x` exactly when some element fails with it after a prefix whose
elements all succeed; the elements after it are never looked at. -/
theorem mapM_eq_error_iff {ε α β : Type} (g : α → Except ε β) (xs : List α) (x : ε) :
    xs.mapM g = .error x ↔ ∃ before a after, xs = before ++ a :: after ∧
      (∀ b ∈ before, ∃ y, g b = .ok y) ∧ g a = .error x := by
  induction xs with
  | nil => simp
  | cons y xs ih =>
    rw [List.mapM_cons]
    simp only [List.cons_eq_append_iff]
    cases hy : g y with
    | error e =>
      simp only [except_error_bind, Except.error.injEq]
      constructor
      · rintro rfl
        exact ⟨[], y, xs, Or.inl ⟨rfl, rfl⟩, nofun, hy⟩
      · rintro ⟨before, a, after, ⟨rfl, h⟩ | ⟨tail, rfl, _⟩, hb, ha⟩
        · simp only [List.cons.injEq] at h
          rw [h.1, hy] at ha
          exact Except.error.inj ha
        · obtain ⟨z, hz⟩ := hb y List.mem_cons_self
          rw [hy] at hz
          cases hz
    | ok b =>
      have htail : (xs.mapM g >>= fun bs => pure (b :: bs)) = .error x ↔ xs.mapM g = .error x := by
        cases xs.mapM g <;> simp
      rw [except_ok_bind, htail, ih]
      constructor
      · rintro ⟨before, a, after, rfl, hb, ha⟩
        exact ⟨y :: before, a, after, Or.inr ⟨before, rfl, rfl⟩,
          List.forall_mem_cons.mpr ⟨⟨b, hy⟩, hb⟩, ha⟩
      · rintro ⟨before, a, after, ⟨rfl, h⟩ | ⟨tail, rfl, rfl⟩, hb, ha⟩
        · simp only [List.cons.injEq] at h
          rw [h.1, hy] at ha
          cases ha
        · exact ⟨tail, a, after, rfl, fun c hc => hb c (List.mem_cons_of_mem y hc), ha⟩

theorem filterMapM_error {ε α β : Type} {g : α → Except ε (Option β)} {xs : List α} {e : ε}
    (h : xs.filterMapM g = .error e) : ∃ x ∈ xs, g x = .error e := by
  induction xs with
  | nil => cases h
  | cons x xs ih =>
    rw [List.filterMapM_cons] at h
    cases hx : g x with
    | error e' => rw [hx] at h; cases h; exact ⟨x, by simp, hx⟩
    | ok r =>
      rw [hx, except_ok_bind] at h
      have hxs : xs.filterMapM g = .error e := by
        cases r with
        | none => exact h
        | some b =>
          cases hxs : xs.filterMapM g with
          | error e' => rw [hxs] at h; cases h; rfl
          | ok ys => rw [hxs] at h; cases h
      obtain ⟨y, hy, hgy⟩ := ih hxs
      exact ⟨y, by simp [hy], hgy⟩

end DataMapper
