import ClangIndex.Proofs.SessionStates

namespace ClangIndex

open Native (Side)

namespace Accounts

variable {a b : Accounts} {h : Handle} {s : Standing}

def releases (a : Accounts) (h : Handle) : Nat := a.dealings.countP (·.releases h)

end Accounts

theorem Dealing.releases_of_keeps {d : Dealing}
    (keeps : d.call.function.releases = false ∨ d.parties = []) (h : Handle) :
    d.releases h = false := by
  cases keeps with
  | inl f => simp [releases, f]
  | inr e =>
    obtain ⟨arguments, holder⟩ := List.append_eq_nil_iff.mp e
    have holder : d.holder = none := by simpa using holder
    simp [releases, clients, arguments, holder]

/-- A call that released an object: of the function of its class, for an object that was not only
lent and is disposed of. -/
structure Accounts.Releases (a : Accounts) (d : Dealing) (h : Handle) : Prop where
  function : h.cls.release? = some d.call.function
  standing : ∃ s, a.standing? h = some s ∧ s.borrowed = false ∧ s.disposed = true

def Accounts.ReleasedOnce (a : Accounts) : Prop :=
  ∀ h, a.releases h ≤ 1 ∧ ∀ d ∈ a.dealings, d.releases h = true → a.Releases d h

namespace Accounts

variable {a b : Accounts}

theorem Releases.move {d : Dealing} {h : Handle} (r : a.Releases d h) (move : Move a b) :
    b.Releases d h := by
  obtain ⟨s, e, lent, gone⟩ := r.standing
  obtain ⟨s', e', lent', -, -, gone'⟩ := move.standing e
  exact ⟨r.function, s', e', lent'.trans lent, gone' gone⟩

theorem ReleasedOnce.none_of_live (inv : a.ReleasedOnce) {h : Handle} {s : Standing}
    (stands : a.standing? h = some s) (live : s.disposed = false) : a.releases h = 0 := by
  refine List.countP_eq_zero.mpr fun d m r => ?_
  obtain ⟨s', e, -, gone⟩ := ((inv h).2 d m r).standing
  cases stands.symm.trans e
  simp [live] at gone

end Accounts

theorem Move.releasedOnce {a b : Accounts} (move : Move a b) (inv : a.ReleasedOnce) :
    b.ReleasedOnce := by
  intro h
  have still (d : Dealing) (m : d ∈ a.dealings) (r : d.releases h = true) : b.Releases d h :=
    ((inv h).2 d m r).move move
  cases move with
  | call d usable keeps =>
    have no := Dealing.releases_of_keeps keeps h
    refine ⟨by simpa [Accounts.releases, no] using (inv h).1, fun d' m r => ?_⟩
    cases List.mem_cons.mp m with
    | inl e => simp [e, no] at r
    | inr m => exact still d' m r
  | release k s stands live owned d usable holder function =>
    have clients : d.clients = [k] := by simp [Dealing.clients, holder]
    by_cases same : k = h
    · subst same
      have yes : d.releases k = true := by
        simp [Dealing.releases, clients, Native.HandleClass.releases_of_release? function]
      -- Every release in the log is of a disposed object, so a live one has none before this call.
      refine ⟨?_, fun d' m r => ?_⟩
      · have before := inv.none_of_live stands (Accounts.live_of_not_spent live stands)
        simp only [Accounts.releases] at before
        simp [Accounts.releases, yes, before]
      · cases List.mem_cons.mp m with
        | inl e =>
          subst e
          exact ⟨function, _, Accounts.standing?_retire_self stands, owned, rfl⟩
        | inr m => exact still d' m r
    · have no : d.releases h = false := by
        simp [Dealing.releases, clients, Ne.symm same]
      refine ⟨by simpa [Accounts.releases, no] using (inv h).1, fun d' m r => ?_⟩
      cases List.mem_cons.mp m with
      | inl e => simp [e, no] at r
      | inr m => exact still d' m r
  | _ => exact ⟨(inv h).1, still⟩

namespace World

variable {w v : World} {h : Handle}

def releases (w : World) (h : Handle) : Nat := w.dealings.countP (·.releases h)

theorem Evolves.handle (k : w.Evolves v) {s : HandleState} (e : w.handle? h = some s) :
    ∃ s', v.handle? h = some s' ∧ s'.role.borrowed = s.role.borrowed ∧
      (s.held = none → s'.held = none) := by
  obtain ⟨t, stands, lent, -, -, gone⟩ := Evolution.standing k
    (show w.accounts.standing? h = some s.standing by simp [standing?_accounts, e])
  rw [standing?_accounts] at stands
  obtain ⟨s', e', rfl⟩ := Option.map_eq_some_iff.mp stands
  exact ⟨s', e', lent, fun n => by simpa using gone (by simp [n])⟩

theorem handle?_of_push {a : Array HandleState} {s : HandleState} (h : v.handles = a.push s) :
    v.handle? ⟨s.cls, a.size⟩ = some s := by
  simp [handle?, h, Option.filter]

theorem role_of_push {a : Array HandleState} {s : HandleState} (h : v.handles = a.push s) :
    v.role ⟨s.cls, a.size⟩ = s.role := by
  rw [role, handle?_of_push h]
  rfl

end World

theorem Cursor.translationUnit_role {c : Cursor} {side : Side} {w v : World} {h : Handle}
    (forgotten : c.unit = none) (e : c.translationUnit.exec side w = (.ok (.handle h), v)) :
    v.role h = .unit .none false := by
  rw [translationUnit, forgotten] at e
  obtain ⟨r, u, -, e⟩ := Binding.exec_bind_cases e
  cases r with
  | none => cases e
  | some s =>
    cases e
    let state : HandleState :=
      ⟨.translationUnit, some (.handle (some s)), .unit .none false, none, rfl⟩
    exact World.role_of_push (s := state) rfl

namespace Session

theorem releasedOnce_of_mem_states {side : Side} {steps : List Step} {w : World}
    (m : w ∈ states side steps) : w.accounts.ReleasedOnce :=
  (evolves_of_mem_states m).keeps (fun _ _ => Move.releasedOnce) fun _ =>
    ⟨Nat.zero_le 1, fun _ m => nomatch m⟩

/-- An object is released at most once, by the function of its class, and is disposed of then; a
lent unit or an object of a class that only borrows is not released. What is disposed of stays so,
and what is lent too, among it each unit that the native side names for a cursor. -/
theorem released_once (side : Side) (steps : List Step) :
    (∀ w ∈ states side steps, ∀ h : Handle,
      w.releases h ≤ 1 ∧
      ((w.role h).borrowed = true ∨ h.cls.release? = none → w.releases h = 0) ∧
      ∀ d ∈ w.dealings, d.releases h = true →
        h.cls.release? = some d.call.function ∧ w.isDisposed h = true) ∧
    (states side steps).Pairwise (fun u v => ∀ h s, u.handle? h = some s →
      ∃ s', v.handle? h = some s' ∧ s'.role.borrowed = s.role.borrowed ∧
        (s.held = none → s'.held = none)) ∧
    ∀ (c : Cursor) (w v : World) (h : Handle), c.unit = none →
      c.translationUnit.exec side w = (.ok (.handle h), v) → v.role h = .unit .none false := by
  refine ⟨fun w m h => ?_, ?_, fun c w v h => Cursor.translationUnit_role⟩
  · have inv := releasedOnce_of_mem_states m h
    have own (d : Dealing) (md : d ∈ w.dealings) (r : d.releases h = true) :
        h.cls.release? = some d.call.function ∧ (w.role h).borrowed = false ∧
          w.isDisposed h = true := by
      obtain ⟨function, s, e, lent, gone⟩ := inv.2 d md r
      rw [World.standing?_accounts] at e
      obtain ⟨t, stands, rfl⟩ := Option.map_eq_some_iff.mp e
      rw [World.role, World.isDisposed, World.held?, stands]
      exact ⟨function, lent, by simpa using gone⟩
    refine ⟨inv.1, fun none => List.countP_eq_zero.mpr fun d md r => ?_, fun d md r => ?_⟩
    · obtain ⟨function, lent, -⟩ := own d md r
      cases none with
      | inl b => simp [lent] at b
      | inr n => simp [n] at function
    · exact ⟨(own d md r).1, (own d md r).2.2⟩
  · refine List.Pairwise.imp ?_ (pairwise_states side steps)
    exact fun k _ _ e => World.Evolves.handle k e

def lending : Side where
  answer _ c := match c.function with
    | .createIndex => { result := .handle (some "index") }
    | .cursorGetTranslationUnit => { result := .handle (some "unit") }
    | _ => {}

def disposals : List Step := [
  .mk (.make "Index" [] []) (some "index"),
  .mk (.read "translation_unit" (.plain (.cursor ⟨"cursor", none⟩))) (some "unit"),
  .mk (.call "dispose" (.register "index") [] []) none,
  .mk (.call "dispose" (.register "index") [] []) none,
  .mk (.call "dispose" (.register "unit") [] []) none]

theorem released_once_disposals :
    (run lending disposals).2.releases ⟨.index, 0⟩ = 1 ∧
      (run lending disposals).2.isDisposed ⟨.index, 0⟩ = true ∧
      (run lending disposals).2.releases ⟨.translationUnit, 1⟩ = 0 ∧
      (run lending disposals).2.isDisposed ⟨.translationUnit, 1⟩ = true ∧
      ∃ v : World, v.role ⟨.translationUnit, 0⟩ = .unit .none false := by
  have all := released_once lending disposals
  have final := all.1 _ (run_mem_states lending disposals)
  have once : 0 < (run lending disposals).2.releases ⟨.index, 0⟩ := by decide +kernel
  have lent : ((run lending disposals).2.role ⟨.translationUnit, 1⟩).borrowed = true := by
    decide +kernel
  refine ⟨Nat.le_antisymm (final _).1 once, by decide +kernel, (final _).2.1 (.inl lent),
    by decide +kernel, _, all.2.2 ⟨"cursor", none⟩ {} _ _ rfl rfl⟩

end Session

end ClangIndex
