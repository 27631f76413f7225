import ClangIndex.Proofs.LiveSequences
import ClangIndex.Proofs.ToolReleases

/-!
What operations find out and print, by what the native side answers. Objects that stand from the
beginning can be asked all along, so that the calls alone decide what comes next.
-/

namespace ClangIndex

open Native (Answer Argument Call CType Function HandleClass Side)
open Diagnostics (Adds)

/-- What is found out by calls, from the answers to them after the earlier calls, the latest
first. -/
abbrev Hearing (α : Type) : Type := ReaderT Side (StateM (List Call)) α

namespace Hearing

def ask (c : Call) : Hearing Answer := fun side calls => (side.answer calls c, c :: calls)

def number (c : Call) : Hearing Int := return (← ask c).number c

def text (c : Call) : Hearing String := return ((← ask c).text.map Text.ofUtf8).getD ""

section

variable {α β : Type} {side : Side} {calls later : List Call}

theorem bind_apply (m : Hearing α) (g : α → Hearing β) (side : Side) (calls : List Call) :
    (m >>= g) side calls = g (m side calls).1 side (m side calls).2 := rfl

variable {m : ExceptT Failure Hearing α} {g : α → ExceptT Failure Hearing β}

theorem bind_apply_ok {a : α} (h : m side calls = (.ok a, later)) :
    (m >>= g) side calls = g a side later := by
  change ExceptT.bindCont g (m side calls).1 side (m side calls).2 = _
  rw [h]
  rfl

theorem bind_apply_error {e : Failure} (h : m side calls = (.error e, later)) :
    (m >>= g) side calls = (.error e, later) := by
  change ExceptT.bindCont g (m side calls).1 side (m side calls).2 = _
  rw [h]
  rfl

theorem length_mapM (q : α → Hearing β) (xs : List α) (side : Side) (calls : List Call) :
    (xs.mapM q side calls).1.length = xs.length := by
  induction xs generalizing calls with
  | nil => rfl
  | cons x r ih =>
    rw [List.mapM_cons]
    exact congrArg (· + 1) (ih _)

theorem mapM_cases (q : α → ExceptT Failure Hearing β) (xs : List α) (side : Side)
    (calls : List Call) :
    (∃ ys, (xs.mapM q side calls).1 = .ok ys ∧
      List.Forall₂ (fun x y => ∃ earlier, (q x side earlier).1 = .ok y) xs ys) ∨
    ∃ e, (xs.mapM q side calls).1 = .error e ∧
      ∃ x ∈ xs, ∃ earlier, (q x side earlier).1 = .error e := by
  induction xs generalizing calls with
  | nil => exact .inl ⟨[], rfl, .nil⟩
  | cons x r ih =>
    rw [List.mapM_cons]
    cases first : q x side calls with
    | mk outcome between =>
      cases outcome with
      | error e =>
        rw [bind_apply_error first]
        exact .inr ⟨e, rfl, x, List.mem_cons_self, calls, by rw [first]⟩
      | ok y =>
        rw [bind_apply_ok first]
        cases rest : r.mapM q side between with
        | mk outcome later =>
          have others := ih between
          rw [rest] at others
          obtain ⟨ys, same, each⟩ | ⟨e, same, z, among, fails⟩ := others
          · cases same
            rw [bind_apply_ok rest]
            exact .inl ⟨y :: ys, rfl, .cons ⟨calls, by rw [first]⟩ each⟩
          · cases same
            rw [bind_apply_error rest]
            exact .inr ⟨e, rfl, z, List.mem_cons_of_mem _ among, fails⟩

end

end Hearing

namespace World

variable {counter : Nat} {u v w : World} {lines lines' : List String} {n n' : Nat}
  {calls calls' : List Call}

/-- A later state, to which objects were added at most. Lines were printed on the way, and these are
all calls so far. -/
structure Shows (w v : World) (lines : List String) (calls : List Call) : Prop where
  adds : Adds w v
  calls : v.calls = calls
  printed : v.printed = (lines.map (· ++ "\n")).reverse ++ w.printed

theorem Shows.of_silent (adds : Adds w v) (made : v.calls = calls)
    (printed : v.printed = w.printed) : w.Shows v [] calls :=
  ⟨adds, made, printed⟩

theorem Shows.trans (h : w.Shows u lines calls) (k : u.Shows v lines' calls') :
    w.Shows v (lines ++ lines') calls' :=
  ⟨h.adds.trans k.adds, k.calls, by simp [k.printed, h.printed]⟩

structure Tells (counter : Nat) (w v : World) (lines : List String) (n : Nat)
    (calls : List Call) : Prop extends w.Shows v lines calls where
  counters : v.counters = w.counters.modify counter (· + n)

theorem Tells.of_silent (adds : Adds w v) (made : v.calls = calls) (printed : v.printed = w.printed)
    (counters : v.counters = w.counters) : w.Tells counter v [] 0 calls := by
  refine ⟨.of_silent adds made printed, ?_⟩
  ext i
  · simp [counters]
  · simp [counters, Array.getElem_modify]

theorem Tells.refl (w : World) : w.Tells counter w [] 0 w.calls :=
  .of_silent ⟨[], by simp⟩ rfl rfl rfl

theorem Tells.trans (h : w.Tells counter u lines n calls) (k : u.Tells counter v lines' n' calls') :
    w.Tells counter v (lines ++ lines') (n + n') calls' := by
  refine ⟨h.toShows.trans k.toShows, ?_⟩
  rw [k.counters, h.counters]
  ext i
  · simp
  · simp only [Array.getElem_modify]
    split <;> simp [Nat.add_assoc]

end World

theorem Handle.Usable.adds {v w : World} {h : Handle} (usable : h.Usable w) (adds : Adds w v) :
    h.Usable v := by
  have live {k : Handle} (alive : w.isDisposed k = false) :
      v.handle? k = w.handle? k ∧ v.isDisposed k = false := by
    cases stands : w.handle? k with
    | none => simp [World.isDisposed, World.held?, stands] at alive
    | some s =>
      have there := adds.handle? stands
      simpa [World.isDisposed, World.held?, there, stands] using alive
  obtain ⟨same, alive⟩ := live usable.1
  refine ⟨alive, fun o own => (live (usable.2 o ?_)).2⟩
  rw [← own, World.role, World.role, same]

namespace Binding

variable {α β : Type} {m : Binding α} {g : α → Binding β}

def Mute (m : Binding α) : Prop := m.Within fun w v => v.printed = w.printed

namespace Mute

theorem pure (a : α) : (pure a : Binding α).Mute := fun _ _ => rfl

theorem throw (e : Failure) : (throw e : Binding α).Mute := fun _ _ => rfl

theorem log (level : Log.Level) (logger message : String) :
    (Binding.log level logger message).Mute := fun _ _ => rfl

theorem create {cls : HandleClass} {held : Held} {role : Role} {fits : role.fits cls = true} :
    (Handle.create cls held role fits).Mute := fun _ _ => rfl

theorem bind (h : m.Mute) (k : ∀ a, (g a).Mute) : (m >>= g).Mute :=
  Within.bind (fun first next => next.trans first) h k

theorem mapM {g : α → Binding β} {xs : List α} (h : ∀ a ∈ xs, (g a).Mute) : (xs.mapM g).Mute :=
  Within.mapM (R := fun w v => v.printed = w.printed) (fun _ => rfl)
    (fun first next => next.trans first) h

theorem invoke {f : Function} {actuals : List Actual} {keeps : f.releases = false} :
    (f.invoke actuals keeps).Mute := by
  intro side w
  obtain ⟨x, refused⟩ | ⟨d, made, -⟩ := f.perform_cases none actuals side w
  · exact congrArg (·.2.printed) refused
  · exact congrArg (·.2.printed) made

theorem handle {f : Function} {actuals : List Actual} {keeps : f.releases = false} :
    (f.handle actuals keeps).Mute :=
  bind invoke fun _ => pure _

theorem number {f : Function} {actuals : List Actual} {keeps : f.releases = false} :
    (f.number actuals keeps).Mute :=
  bind invoke fun _ => pure _

theorem text {f : Function} {actuals : List Actual} {keeps : f.releases = false} :
    (f.text actuals keeps).Mute :=
  bind invoke fun _ _ _ => rfl

theorem inPhase (phase : String) (h : m.Mute) : (Binding.inPhase phase m).Mute := by
  intro side w
  obtain ⟨inside, outside, entered⟩ := exec_inPhase phase m side w
  rw [entered]
  exact h side { w with context := inside }

end Mute

end Binding

theorem Handle.mute_dispose (h : Handle) : h.dispose.Mute := by
  refine .bind (fun side w => ?_) fun given => ?_
  · change (h.giveUp.effect side w).2.printed = w.printed
    unfold giveUp
    dsimp only
    split
    · rfl
    · split
      · rfl
      · rename_i f actuals _
        obtain ⟨x, refused⟩ | ⟨d, made, -⟩ := f.perform_cases (some h) actuals side (w.retire h)
        · rw [refused]
          rfl
        · rw [made]
          rfl
  · split
    · exact .pure _
    · exact .pure _
    · exact .log _ _ _

theorem Binding.printed_of_releasing {α : Type} {h : Handle} {m : Binding α} {side : Side}
    {u v w : World} {r r' : Except Failure α} (e : m.exec side w = (r, u))
    (k : (releasing h m).exec side w = (r', v)) : v.printed = u.printed := by
  have attempted : (attempt m).exec side w = (.ok (m.exec side w).1, (m.exec side w).2) := rfl
  rw [releasing, andFinally, exec_bind_ok attempted, e] at k
  have later : v = _ := (congrArg Prod.snd k).symm
  rw [later]
  cases r with
  | ok a => exact Mute.bind h.mute_dispose (fun _ => .pure a) side u
  | error x => exact Mute.bind h.mute_dispose (fun _ => .throw x) side u

theorem Value.mute_disposeEach (depth : Nat) (ds : List Handle) :
    ((ds.map Value.handle).forM (disposeWithin depth)).Mute := by
  induction ds with
  | nil => exact .pure _
  | cons d r ih =>
    have first : ((Value.handle d).disposeWithin depth).Mute := by
      rw [disposeWithin_handle]
      exact d.mute_dispose
    exact .bind first fun _ => ih

theorem Value.mute_dispose_diagnostics (ds : List Handle) (id : Nat) :
    (Value.diagnostics (ds.map .handle) id).dispose.Mute := mute_disposeEach _ ds

/-- A native side, the objects that stand from the beginning, and a counter. -/
structure Stage where
  side : Side
  base : World
  counter : Nat

namespace Stage

variable {s : Stage} {α β : Type} {m : Binding α} {g : α → Binding β} {f : Function} {a : α}
  {r : Except Failure β} {before between after : List Call} {line : String} {lines : List String}
  {n : Nat} {actuals rest : List Actual} {c : Call} {keeps : f.releases = false}

/-- After these calls an operation ends like this, wherever the objects stand. -/
def Tells (s : Stage) (m : Binding α) (before : List Call) (r : Except Failure α)
    (lines : List String) (n : Nat) (after : List Call) : Prop :=
  ∀ w, Adds s.base w → w.calls = before →
    ∃ v, m.exec s.side w = (r, v) ∧ w.Tells s.counter v lines n after

structure Poses (s : Stage) (f : Function) (actuals : List Actual) (c : Call) : Prop where
  function : c.function = f
  usable : ∀ v, Adds s.base v → ∀ h ∈ Actual.objects actuals, h.Usable v
  fits : ∀ v, Adds s.base v → Actual.convert v f.inputs actuals = some c.arguments

theorem poses_plain {arguments : List Argument} (plain : Actual.objects actuals = [])
    (fits : ∀ v, Actual.convert v f.inputs actuals = some arguments) :
    s.Poses f actuals ⟨f, arguments⟩ :=
  ⟨rfl, fun _ _ _ mem => (List.not_mem_nil (plain ▸ mem)).elim, fun v _ => fits v⟩

theorem poses_cursor (inputs : f.inputs = [.struct .cursor]) (c : Cursor) :
    s.Poses f [.value (.cursor c)] ⟨f, [.struct c.symbol]⟩ :=
  poses_plain rfl fun v => by rw [inputs]; rfl

theorem poses_object {h : Handle} {x : Option Symbol} {cls : HandleClass} {ts : List CType}
    {arguments : List Argument} (inputs : f.inputs = .wrapper cls :: ts)
    (usable : h.Usable s.base) (held : s.base.held? h = some (.handle x))
    (plain : Actual.objects rest = []) (fits : ∀ v, Actual.convert v ts rest = some arguments) :
    s.Poses f (.value (.handle h) :: rest) ⟨f, .handle x :: arguments⟩ := by
  refine ⟨rfl, fun v adds k mem => ?_, fun v adds => ?_⟩
  · rw [Actual.objects, plain] at mem
    exact List.mem_singleton.mp mem ▸ usable.adds adds
  · rw [inputs, Actual.convert, fits v, Value.argument?, adds.held? held]
    rfl

namespace Tells

theorem pure (a : α) : s.Tells (pure a) before (.ok a) [] 0 before :=
  fun w _ calls => ⟨w, rfl, calls ▸ .refl w⟩

theorem throw (e : Failure) : s.Tells (throw e : Binding α) before (.error e) [] 0 before :=
  fun w _ calls => ⟨w, rfl, calls ▸ .refl w⟩

theorem read : s.Tells (MonadReaderOf.read : Binding Side) before (.ok s.side) [] 0 before :=
  fun w _ calls => ⟨w, rfl, calls ▸ .refl w⟩

theorem bind {lines' : List String} {n' : Nat} (h : s.Tells m before (.ok a) lines n between)
    (k : s.Tells (g a) between r lines' n' after) :
    s.Tells (m >>= g) before r (lines ++ lines') (n + n') after := by
  intro w adds calls
  obtain ⟨u, first, told⟩ := h w adds calls
  obtain ⟨v, next, told'⟩ := k u (adds.trans told.adds) told.calls
  exact ⟨v, (Binding.exec_bind_ok first).trans next, told.trans told'⟩

theorem ask (h : s.Tells m before (.ok a) [] 0 between)
    (k : s.Tells (g a) between r lines n after) : s.Tells (m >>= g) before r lines n after := by
  have both := h.bind k
  rwa [List.nil_append, Nat.zero_add] at both

theorem fail {e : Failure} (h : s.Tells m before (.error e) lines n after) :
    s.Tells (m >>= g) before (.error e) lines n after := by
  intro w adds calls
  obtain ⟨v, failed, told⟩ := h w adds calls
  exact ⟨v, Binding.exec_bind_error failed, told⟩

theorem say {g : Unit → Binding β} (k : s.Tells (g ()) before r lines n after) :
    s.Tells (Binding.print line >>= g) before r (line :: lines) n after := by
  have printed : s.Tells (Binding.print line) before (.ok ()) [line] 0 before := by
    intro w _ calls
    have same : w.Tells s.counter w [] 0 before := calls ▸ .refl w
    exact ⟨_, rfl, ⟨same.adds, calls, rfl⟩, same.counters⟩
  have both := printed.bind k
  rwa [Nat.zero_add] at both

theorem invoke (h : s.Poses f actuals c) :
    s.Tells (f.invoke actuals keeps) before (.ok (c, s.side.answer before c)) [] 0
      (c :: before) := by
  intro w adds calls
  obtain ⟨function, usable, fits⟩ := h
  subst function
  let d := Actual.dealing w c none actuals
  refine ⟨{ w with dealings := d :: w.dealings }, ?_,
    .of_silent ⟨[], by simp⟩ (congrArg (c :: ·) calls) rfl rfl⟩
  change c.function.perform none actuals s.side w = _
  rw [Function.perform, Actual.obstacle_eq_none.mpr (usable w adds), fits w adds, ← calls]

theorem number (h : s.Poses f actuals c) :
    s.Tells (f.number actuals keeps) before (.ok (Hearing.number c s.side before).1) [] 0
      (c :: before) :=
  (invoke h).ask (.pure _)

theorem struct (h : s.Poses f actuals c) :
    s.Tells (f.struct actuals keeps) before (.ok (s.side.answer before c).struct) [] 0
      (c :: before) :=
  (invoke h).ask (.pure _)

theorem text (h : s.Poses f actuals c) :
    s.Tells (f.text actuals keeps) before (.ok (Hearing.text c s.side before).1) [] 0
      (c :: before) := by
  refine (invoke h).ask fun w _ calls => ⟨_, rfl, ?_⟩
  exact .of_silent ⟨[], by simp⟩ calls rfl rfl

theorem make {cls : HandleClass} {x : Option Symbol} {fits : Role.plain.fits cls = true}
    {g : Handle → Binding β} (other : cls ≠ .tokens)
    (k : ∀ made h, h.Keeps made x →
      Stage.Tells { s with base := made } (g h) before r lines n after) :
    s.Tells (Handle.create cls (.handle x) .plain fits >>= g) before r lines n after := by
  intro w _ calls
  let state : HandleState := ⟨cls, some (.handle x), .plain, none, fits⟩
  let made : World := { w with handles := w.handles.push state }
  have pushed : made.handles = w.handles.push state := rfl
  have created : (Handle.create cls (.handle x) .plain fits).exec s.side w =
    (.ok ⟨cls, w.handles.size⟩, made) := rfl
  obtain ⟨v, ended, told⟩ :=
    k made _ (.of_push pushed rfl rfl rfl other) made ⟨[], by simp⟩ calls
  have kept : w.Tells s.counter made [] 0 before :=
    .of_silent (World.adds_of_push pushed) calls rfl rfl
  refine ⟨v, (Binding.exec_bind_ok created).trans ended, ?_⟩
  have both := kept.trans told
  rwa [List.nil_append, Nat.zero_add] at both

end Tells

/-- After any calls an operation ends in what is found out by calls, and prints nothing. -/
def Hears (s : Stage) (m : Binding α) (q : ExceptT Failure Hearing α) : Prop :=
  ∀ before, s.Tells m before (q s.side before).1 [] 0 (q s.side before).2

namespace Hears

variable {p : ExceptT Failure Hearing α} {q : α → ExceptT Failure Hearing β}

theorem pure (a : α) : s.Hears (pure a) (pure a) := fun _ => .pure a

theorem bind (h : s.Hears m p) (k : ∀ a, s.Hears (g a) (q a)) : s.Hears (m >>= g) (p >>= q) := by
  intro before
  have first := h before
  cases heard : p s.side before with
  | mk outcome between =>
    rw [heard] at first
    cases outcome with
    | error e =>
      rw [Hearing.bind_apply_error heard]
      exact .fail first
    | ok a =>
      rw [Hearing.bind_apply_ok heard]
      exact .ask first (k a between)

theorem mapM {g : α → Binding β} {xs : List α} (each : ∀ x ∈ xs, s.Hears (g x) (q x)) :
    s.Hears (xs.mapM g) (xs.mapM q) := by
  induction xs with
  | nil => exact .pure []
  | cons x r ih =>
    obtain ⟨here, others⟩ := List.forall_mem_cons.mp each
    rw [List.mapM_cons, List.mapM_cons]
    exact here.bind fun y => (ih others).bind fun ys => .pure (y :: ys)

end Hears

end Stage

end ClangIndex
