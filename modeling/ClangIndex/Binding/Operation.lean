import ClangIndex.Binding.Accounts

/-!
Operations of the interface over a native side. An operation comes with the proof that it changes
the accounts by moves only, so that what the moves keep is kept by everything made of operations.
-/

namespace ClangIndex

open Native (HandleClass Side)

/-- An operation of which nothing is known yet. -/
abbrev Effect (α : Type) : Type := ReaderT Side (ExceptT Failure (StateM World)) α

@[ext]
structure Binding (α : Type) where
  effect : Effect α
  evolves : ∀ (side : Side) (w : World), Evolution w.accounts (effect side w).2.accounts

namespace Binding

variable {α β : Type}

def exec (m : Binding α) (side : Side) (w : World) : Except Failure α × World := m.effect side w

theorem exec_evolves (m : Binding α) (side : Side) (w : World) :
    Evolution w.accounts (m.exec side w).2.accounts := m.evolves side w

protected def pure (a : α) : Binding α := ⟨pure a, fun _ w => .refl w.accounts⟩

protected def bind (m : Binding α) (f : α → Binding β) : Binding β where
  effect := m.effect >>= fun a => (f a).effect
  evolves side w := by
    have first := m.evolves side w
    change Evolution _ (ExceptT.bindCont (fun a => (f a).effect side) (m.effect side w).1
      (m.effect side w).2).2.accounts
    cases (m.effect side w).1 with
    | ok a => exact first.trans ((f a).evolves side _)
    | error e => exact first

instance : Monad Binding where
  pure := Binding.pure
  bind := Binding.bind

instance : LawfulMonad Binding :=
  .mk' _ (fun m => Binding.ext (bind_pure m.effect))
    (fun a f => Binding.ext (pure_bind a fun a => (f a).effect))
    (fun m f g =>
      Binding.ext (bind_assoc m.effect (fun a => (f a).effect) fun b => (g b).effect))

section

variable {m : Binding α} {f : α → Binding β} {side : Side} {w v : World}

@[simp]
theorem exec_pure (a : α) : (pure a : Binding α).exec side w = (.ok a, w) := rfl

theorem exec_bind_ok {a : α} (h : m.exec side w = (.ok a, v)) :
    (m >>= f).exec side w = (f a).exec side v := by
  change ExceptT.bindCont (fun a => (f a).effect side) (m.exec side w).1 (m.exec side w).2 = _
  rw [h]
  rfl

theorem exec_bind_error {e : Failure} (h : m.exec side w = (.error e, v)) :
    (m >>= f).exec side w = (.error e, v) := by
  change ExceptT.bindCont (fun a => (f a).effect side) (m.exec side w).1 (m.exec side w).2 = _
  rw [h]
  rfl

theorem exec_bind_congr {k : Binding α} (h : m.exec side w = k.exec side v) :
    (m >>= f).exec side w = (k >>= f).exec side v := by
  change ExceptT.bindCont (fun a => (f a).effect side) (m.exec side w).1 (m.exec side w).2 = _
  rw [h]
  rfl

theorem exec_bind_pure (g : α → β) :
    ((m >>= fun a => pure (g a)).exec side w).2 = (m.exec side w).2 := by
  cases e : m.exec side w with
  | mk r v =>
    cases r with
    | ok a => rw [exec_bind_ok e, exec_pure]
    | error x => rw [exec_bind_error e]

theorem exec_bind_cases {b : β} (h : (m >>= f).exec side w = (.ok b, v)) :
    ∃ a u, m.exec side w = (.ok a, u) ∧ (f a).exec side u = (.ok b, v) := by
  cases e : m.exec side w with
  | mk r u =>
    cases r with
    | ok a => exact ⟨a, u, rfl, exec_bind_ok e ▸ h⟩
    | error x =>
      rw [exec_bind_error e] at h
      cases h

end

def attempt (m : Binding α) : Binding (Except Failure α) where
  effect := fun side w =>
    let (r, w) := m.effect side w
    (.ok r, w)
  evolves := m.evolves

instance : MonadExceptOf Failure Binding where
  throw e := ⟨throw e, fun _ w => .refl w.accounts⟩
  tryCatch m recover := do
    match ← attempt m with
    | .ok a => pure a
    | .error e => recover e

instance : MonadLift (Except Failure) Binding where
  monadLift
    | .ok a => pure a
    | .error e => throw e

instance : MonadReaderOf Side Binding where
  read := ⟨read, fun _ w => .refl w.accounts⟩

def andFinally (m : Binding α) (last : Binding Unit) : Binding α := do
  match ← attempt m with
  | .ok a => last; pure a
  | .error e => last; throw e

def keeping (f : World → α × World)
    (h : ∀ w, (f w).2.accounts = w.accounts := by exact fun _ => rfl) : Binding α where
  effect := fun _ w => let (a, w) := f w; (.ok a, w)
  evolves _ w := .of_eq (h w)

def update (f : World → World) (h : ∀ w, (f w).accounts = w.accounts := by exact fun _ => rfl) :
    Binding Unit :=
  keeping (fun w => ((), f w)) h

def log (level : Log.Level) (logger message : String) : Binding Unit :=
  update fun w => { w with records := ⟨level, logger, message, w.context⟩ :: w.records }

/-- A record whose message is put together as it is written. If that fails there is none. -/
def logLazily (level : Log.Level) (logger : String) (message : Binding String) : Binding Unit := do
  match ← attempt message with
  | .ok s => log level logger s
  | .error _ => pure ()

def print (s : String) : Binding Unit :=
  update fun w => { w with printed := (s ++ "\n") :: w.printed }

end Binding

def World.now : Binding World := .keeping fun w => (w, w)

namespace Binding

variable {α : Type}

def inPhase (phase : String) (m : Binding α) : Binding α := do
  let before := (← World.now).context.phase
  update fun w => { w with context := { w.context with phase := phase } }
  andFinally m (update fun w => { w with context := { w.context with phase := before } })

/-- Copies texts out of strings, all of which are given back. -/
def copying (m : StateM Ledger α) (settles : ForeignString.Settles m) : Binding α where
  effect := fun _ w =>
    let (a, strings) := m.run w.strings
    (.ok a, { w with strings })
  evolves _ w := by
    obtain ⟨n, h⟩ := settles w.strings
    refine .single ?_
    have := Move.copy w.accounts n
    rwa [show w.accounts.strings.pass n = (m.run w.strings).2 from h.symm] at this

end Binding

namespace Handle

def make (state : HandleState) : Binding Handle where
  effect := fun _ w =>
    (.ok ⟨state.cls, w.handles.size⟩, { w with handles := w.handles.push state })
  evolves _ w := by
    have : ({ w with handles := w.handles.push state } : World).accounts =
        { w.accounts with standings := w.accounts.standings ++ [state.standing] } := by
      simp [World.accounts]
    exact .single (this ▸ .create w.accounts state.standing)

def create (cls : HandleClass) (held : Held) (role : Role := .plain)
    (fits : role.fits cls = true := by exact Eq.refl true) : Binding Handle :=
  make { cls, held := some held, role, fits }

def ensureAlive (h : Handle) : Binding Unit := do
  match h.obstacle (← World.now) with
  | some f => throw f
  | none => pure ()

def held (h : Handle) : Binding Held := do
  h.ensureAlive
  return ((← World.now).held? h).getD (.handle none)

def symbol (h : Handle) : Binding (Option Symbol) := do
  let held ← h.held
  return (← World.now).symbolOf held

def pointer (h : Handle) : Binding Value := do
  let s ← h.symbol
  let own := ((← World.now).handle? h).bind (·.pointer)
  return .object (.pointer h.cls.pointee s) (own.getD (.within h))

end Handle

namespace Version

def store (v : Version) : Binding Nat :=
  .keeping fun w => (w.versions.size, { w with versions := w.versions.push v })

end Version

namespace Value

def iteratorOver (xs : List Value) : Binding Value :=
  .keeping fun w => (.iterator w.supplies.size, { w with supplies := w.supplies.push xs })

def diagnosticsOf (items : List Value) (owner : Value) : Binding Value :=
  .keeping fun w =>
    (.diagnostics items w.owners.size, { w with owners := w.owners.push owner })

def chunkOf (string key : Value) : Binding Value :=
  .keeping fun w => (.chunk w.chunks.size, { w with chunks := w.chunks.push ⟨string, key⟩ })

end Value

end ClangIndex
