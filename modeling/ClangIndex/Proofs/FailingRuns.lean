
namespace ClangIndex.FailingRun

variable {ε σ α β : Type} {m : ExceptT ε (StateM σ) α} {s t : σ} {a : α} {e : ε}

theorem bind_ok {f : α → ExceptT ε (StateM σ) β} (h : m s = (.ok a, t)) :
    (m >>= f) s = f a t := by
  change ExceptT.bindCont f (m s).1 (m s).2 = _
  rw [h]
  rfl

theorem bind_error {f : α → ExceptT ε (StateM σ) β} (h : m s = (.error e, t)) :
    (m >>= f) s = (.error e, t) := by
  change ExceptT.bindCont f (m s).1 (m s).2 = _
  rw [h]
  rfl

theorem tryCatch_ok {g : ε → ExceptT ε (StateM σ) α} (h : m s = (.ok a, t)) :
    (tryCatch m g : ExceptT ε (StateM σ) α) s = (.ok a, t) := by
  change ExceptT.tryCatch m g s = _
  simp only [ExceptT.tryCatch, ExceptT.mk, bind, StateT.bind]
  rw [h]
  rfl

theorem tryCatch_error {g : ε → ExceptT ε (StateM σ) α} (h : m s = (.error e, t)) :
    (tryCatch m g : ExceptT ε (StateM σ) α) s = g e t := by
  change ExceptT.tryCatch m g s = _
  simp only [ExceptT.tryCatch, ExceptT.mk, bind, StateT.bind]
  rw [h]

theorem observing_eq {r : Except ε α} (h : m s = (r, t)) :
    (observing m : ExceptT ε (StateM σ) _) s = (.ok r, t) := by
  cases r with
  | ok a => exact tryCatch_ok (bind_ok h)
  | error e => exact tryCatch_error (bind_error h)

end ClangIndex.FailingRun
