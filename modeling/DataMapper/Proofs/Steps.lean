import Mathlib

namespace DataMapper

section

variable {ε σ α β : Type} {x : EStateM ε σ α} {s s' : σ}

theorem run_bind_ok {f : α → EStateM ε σ β} {a : α} (h : x s = .ok a s') :
    (x >>= f) s = f a s' := by
  change EStateM.bind x f s = _
  simp [EStateM.bind, h]

theorem run_bind_error {f : α → EStateM ε σ β} {e : ε} (h : x s = .error e s') :
    (x >>= f) s = .error e s' := by
  change EStateM.bind x f s = _
  simp [EStateM.bind, h]

theorem run_tryCatch_ok {handler : ε → EStateM ε σ α} {a : α} (h : x s = .ok a s') :
    tryCatch x handler s = .ok a s' := by
  change EStateM.tryCatch x handler s = _
  simp [EStateM.tryCatch, h]

theorem run_bind_pure_ok {g : α → β} {a : α} (h : x s = .ok a s') :
    (x >>= fun a => pure (g a)) s = .ok (g a) s' :=
  run_bind_ok h

theorem run_tryCatch_error {handler : ε → EStateM ε σ α} {e : ε} (h : x s = .error e s') :
    tryCatch x handler s = handler e s' := by
  change EStateM.tryCatch x handler s = _
  simp [EStateM.tryCatch, h, EStateM.Backtrackable.restore, EStateM.dummyRestore]

theorem run_tryCatch_bind_ok {handler : ε → EStateM ε σ α} {f : α → EStateM ε σ β} {a : α}
    (h : x s = .ok a s') : (tryCatch x handler >>= f) s = f a s' :=
  run_bind_ok (run_tryCatch_ok h)

theorem run_tryCatch_bind_error {handler : ε → EStateM ε σ α} {f : α → EStateM ε σ β} {e : ε}
    (h : x s = .error e s') : (tryCatch x handler >>= f) s = (handler e >>= f) s' := by
  have hc : tryCatch x handler s = handler e s' := run_tryCatch_error h
  cases hh : handler e s' with
  | ok a s'' => rw [run_bind_ok (hc.trans hh), run_bind_ok hh]
  | error e' s'' => rw [run_bind_error (hc.trans hh), run_bind_error hh]

end

end DataMapper
