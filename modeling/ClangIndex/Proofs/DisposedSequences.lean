import ClangIndex.Binding.Sequence
import ClangIndex.Proofs.CheckedCalls

namespace ClangIndex

open Native (Function HandleClass Side)

/-- An iteration between two items: what is left of a list, or the indices that are left of a
sequence, once its size was asked. -/
inductive Iteration
  | list (xs : List Value)
  | unstarted (h : Handle)
  | within (h : Handle) (is : List Nat)

namespace Iteration

def next : Iteration → Binding (Option (Value × Iteration))
  | .list [] => pure none
  | .list (x :: r) => pure (some (x, .list r))
  | .unstarted h => do
    match List.range (← h.size) with
    | [] => return none
    | i :: r => return some (← h.item (.int i), .within h r)
  | .within _ [] => pure none
  | .within h (i :: r) => do return some (← h.item (.int i), .within h r)

def isOver : Iteration → Bool
  | .list xs => xs.isEmpty
  | .unstarted _ => false
  | .within _ is => is.isEmpty

variable {β : Type} (f : β → Value → Binding (Progress β))

def fold : Iteration → β → Binding β
  | .list xs, b => Supply.foldItems f xs b
  | .unstarted h, b => do Supply.foldArray f h (List.range (← h.size)) b
  | .within h is, b => Supply.foldArray f h is b

theorem foldArray_next (h : Handle) (is : List Nat) (b : β) :
    Supply.foldArray f h is b = (do
      match ← (within h is).next with
      | none => pure b
      | some (x, rest) => Supply.proceed (rest.fold f) (← f b x)) := by
  cases is with
  | nil => rfl
  | cons i r =>
    simp only [Supply.foldArray, next, bind_assoc, pure_bind]
    rfl

theorem fold_next (it : Iteration) (b : β) :
    it.fold f b = (do
      match ← it.next with
      | none => pure b
      | some (x, rest) => Supply.proceed (rest.fold f) (← f b x)) := by
  cases it with
  | list xs => cases xs <;> rfl
  | within h is => exact foldArray_next f h is b
  | unstarted h =>
    simp only [fold, next, bind_assoc]
    apply congrArg
    funext n
    rw [foldArray_next]
    cases List.range n <;> simp [next]

end Iteration

namespace Native.HandleClass

def isOwnedSequence (c : HandleClass) : Bool := c.isSequence && c.release?.isSome

end Native.HandleClass

namespace Handle

variable {h : Handle} {side : Side} {w v : World}

def iterate (h : Handle) : Binding Iteration :=
  match h.cls with
  | .codeCompleteResults => .list <$> CodeCompleteResults.results h
  | _ => pure (.unstarted h)

theorem fold_iterate (owned : h.cls.isOwnedSequence = true) {β : Type}
    (f : β → Value → Binding (Progress β)) (b : β) :
    ((Value.handle h).supply >>= fun s => s.fold f b) = h.iterate >>= fun it => it.fold f b := by
  cases cls : h.cls with
  | codeCompleteResults => simp [iterate, Value.supply, cls, Supply.fold, Iteration.fold]
  | tokens | overriddenCursors | compileCommands =>
    simp [iterate, Value.supply, cls, Supply.fold, Iteration.fold]
  | _ => rw [cls] at owned; cases owned

/-- Iterations over a sequence that were begun some time, and taken so many items from. -/
inductive Iterates (side : Side) (h : Handle) : World → Iteration → Prop
  | start {w v it} (e : h.iterate.exec side w = (.ok it, v)) : Iterates side h v it
  | next {w v it x rest} (before : Iterates side h w it)
      (e : it.next.exec side w = (.ok (some (x, rest)), v)) : Iterates side h v rest
  | later {w v it} (before : Iterates side h w it) (k : w.Evolves v) : Iterates side h v it

inductive Form (h : Handle) : Iteration → Prop
  | list (cls : h.cls = .codeCompleteResults) (xs : List Value) : Form h (.list xs)
  | unstarted (other : h.cls ≠ .codeCompleteResults) : Form h (.unstarted h)
  | within (other : h.cls ≠ .codeCompleteResults) (is : List Nat) : Form h (.within h is)

theorem Form.next {it rest : Iteration} {x : Value} (k : h.Form it)
    (e : it.next.exec side w = (.ok (some (x, rest)), v)) : h.Form rest := by
  cases k with
  | list cls xs =>
    cases xs with
    | nil => cases e
    | cons y r =>
      cases e
      exact .list cls r
  | unstarted other =>
    obtain ⟨n, u, -, e⟩ := Binding.exec_bind_cases e
    split at e
    · cases e
    · obtain ⟨y, u', -, e⟩ := Binding.exec_bind_cases e
      cases e
      exact .within other _
  | within other is =>
    cases is with
    | nil => cases e
    | cons i r =>
      obtain ⟨y, u, -, e⟩ := Binding.exec_bind_cases e
      cases e
      exact .within other r

theorem Iterates.form {it : Iteration} (k : h.Iterates side w it) : h.Form it := by
  induction k with
  | later _ _ ih => exact ih
  | next _ e ih => exact ih.next e
  | start e =>
    unfold iterate at e
    split at e
    · rename_i cls
      obtain ⟨xs, u, -, made⟩ := Binding.exec_bind_cases e
      cases made
      exact .list cls xs
    · rename_i other
      cases e
      exact .unstarted other

end Handle

namespace Value

variable {size : Binding Nat} {side : Side} {w v : World} {k : Int}

theorem exec_ensureWithin_negative (size : Binding Nat) (negative : k < 0) (side : Side)
    (w : World) :
    ((Value.int k).ensureWithin size).exec side w = (.error (.outOfRange k), w) := by
  have below : isBelow 0 (.inl k) = true := by simpa [isBelow] using negative
  simp only [ensureWithin, numeric?, below, if_true]
  rfl

theorem ensureWithin_of_nonneg (size : Binding Nat) (nonneg : 0 ≤ k) :
    (Value.int k).ensureWithin size = size >>= fun n =>
      if (n : Int) ≤ k then throw (.outOfRange k) else pure () := by
  have above : isBelow 0 (.inl k) = false := by simpa [isBelow] using nonneg
  simp [ensureWithin, numeric?, above, reaches, outOfRange]

end Value

namespace Handle

variable {h : Handle} {side : Side} {w v : World}

theorem exists_item_eq (sequence : h.cls.isSequence = true) :
    ∃ found : Value → Binding Value,
      ∀ i, h.item i = i.ensureWithin h.size >>= fun _ => found i := by
  unfold item size
  cases cls : h.cls with
  | compileCommands | completionString => exact ⟨_, fun i => rfl⟩
  | tokens | overriddenCursors | codeCompleteResults => exact ⟨_, fun i => rfl⟩
  | _ => rw [cls] at sequence; cases sequence

section

variable {k : Int} (sequence : h.cls.isSequence = true)

include sequence

theorem exec_item_negative (negative : k < 0) (side : Side) (w : World) :
    (h.item (.int k)).exec side w = (.error (.outOfRange k), w) := by
  obtain ⟨found, item⟩ := exists_item_eq sequence
  rw [item, Binding.exec_bind_error (Value.exec_ensureWithin_negative _ negative side w)]

theorem exec_item_of_size_error {e : Failure} (nonneg : 0 ≤ k)
    (fails : h.size.exec side w = (.error e, v)) :
    (h.item (.int k)).exec side w = (.error e, v) := by
  obtain ⟨found, item⟩ := exists_item_eq sequence
  rw [item, Value.ensureWithin_of_nonneg _ nonneg, bind_assoc, Binding.exec_bind_error fails]

theorem exec_item_beyond {n : Nat} (nonneg : 0 ≤ k) (size : h.size.exec side w = (.ok n, v))
    (beyond : (n : Int) ≤ k) : (h.item (.int k)).exec side w = (.error (.outOfRange k), v) := by
  obtain ⟨found, item⟩ := exists_item_eq sequence
  rw [item, Value.ensureWithin_of_nonneg _ nonneg, bind_assoc, Binding.exec_bind_ok size,
    if_pos beyond]
  rfl

end

theorem obstacle_of_isDisposed (gone : w.isDisposed h = true) (other : h.cls ≠ .diagnostic) :
    h.obstacle w = some (.disposed h.cls) :=
  obstacle_of_disposed (fun _ own => absurd (cls_of_owner own) other) gone

theorem exec_symbol_of_obstacle {e : Failure} (spent : h.obstacle w = some e) (side : Side) :
    h.symbol.exec side w = (.error e, w) := by
  have now : World.now.exec side w = (.ok w, w) := rfl
  have refused : h.ensureAlive.exec side w = (.error e, w) := by
    rw [ensureAlive, Binding.exec_bind_ok now, spent]
    rfl
  rw [symbol, held, bind_assoc, Binding.exec_bind_error refused]

end Handle

def IsRefusal {α : Type} (r : Except Failure α) : Prop :=
  ∃ e, r = .error e ∧ e.class? = some .disposedHandle

theorem isRefusal_discard {α : Type} (m : Binding α) (side : Side) (w : World) :
    IsRefusal ((discard m).exec side w).1 ↔ IsRefusal (m.exec side w).1 := by
  cases e : m.exec side w with
  | mk r v =>
    cases r with
    | ok a =>
      rw [show (discard m).exec side w = (.ok (), v) from Binding.exec_bind_ok e]
      simp [IsRefusal]
    | error x =>
      rw [show (discard m).exec side w = (.error x, v) from Binding.exec_bind_error e]
      simp [IsRefusal]

/-- What can be done with a sequence: to ask its size, to take the item at a key, to begin an
iteration and take its first item, or to take the next one of an iteration that was begun before. -/
inductive Access
  | size
  | item (key : Int)
  | iterate
  | resume (it : Iteration)

namespace Access

def on (h : Handle) : Access → Binding Unit
  | .size => discard h.size
  | .item k => discard (h.item (.int k))
  | .iterate => discard (h.iterate >>= Iteration.next)
  | .resume it => discard it.next

/-- Whether an access comes to ask the sequence itself. Results of a completion are asked nothing, a
negative key is out of range in any case, and an iteration that gave its last item is over. -/
def asks (h : Handle) : Access → Prop
  | .size | .iterate => h.cls ≠ .codeCompleteResults
  | .item k => h.cls ≠ .codeCompleteResults ∧ 0 ≤ k
  | .resume it => h.cls ≠ .codeCompleteResults ∧ it.isOver = false

end Access

namespace Handle

variable {h : Handle} {side : Side} {w : World} {α : Type} {m : Binding α}

/-- How an operation on something that was disposed of ends: nothing is changed, and it is refused
exactly if it asks. -/
def Ends (m : Binding α) (side : Side) (w : World) (asks : Prop) : Prop :=
  (IsRefusal (m.exec side w).1 ↔ asks) ∧ (m.exec side w).2 = w

theorem Ends.discard {asks : Prop} (ends : Ends m side w asks) :
    Ends (Functor.discard m) side w asks :=
  ⟨(isRefusal_discard m side w).trans ends.1, (Binding.exec_bind_pure _).trans ends.2⟩

theorem ends_of_ok {a : α} {asks : Prop} (e : m.exec side w = (.ok a, w)) (not : ¬asks) :
    Ends m side w asks := by
  rw [Ends, e]
  exact ⟨iff_of_false (by simp [IsRefusal]) not, rfl⟩

theorem ends_of_error {x : Failure} {asks : Prop} (e : m.exec side w = (.error x, w))
    (iff : x.class? = some .disposedHandle ↔ asks) : Ends m side w asks := by
  rw [Ends, e]
  exact ⟨by simpa [IsRefusal] using iff, rfl⟩

theorem exec_size_disposed (gone : w.isDisposed h = true)
    (owned : h.cls.isOwnedSequence = true) (side : Side) :
    (h.cls = .codeCompleteResults ∧ h.size.exec side w = (.ok 0, w)) ∨
      h.cls ≠ .codeCompleteResults ∧
        ∃ e : Failure, e.class? = some .disposedHandle ∧ h.size.exec side w = (.error e, w) := by
  unfold size
  have now : World.now.exec side w = (.ok w, w) := rfl
  cases cls : h.cls with
  | tokens =>
    refine .inr ⟨nofun, .tokensDisposed, rfl, ?_⟩
    rw [Tokens.size, Binding.exec_bind_ok now, if_pos gone]
    rfl
  | overriddenCursors =>
    refine .inr ⟨nofun, .disposed .overriddenCursors, rfl, ?_⟩
    rw [OverriddenCursors.size, Binding.exec_bind_ok now, if_pos gone]
    rfl
  | compileCommands =>
    have spent := obstacle_of_isDisposed gone (by simp [cls])
    refine .inr ⟨nofun, .disposed h.cls, rfl, ?_⟩
    rw [CompileCommands.size, Binding.exec_bind_error (exec_symbol_of_obstacle spent side)]
  | codeCompleteResults =>
    have none : w.held? h = none := by simpa [World.isDisposed] using gone
    refine .inl ⟨rfl, ?_⟩
    rw [CodeCompleteResults.size, Binding.exec_bind_ok now]
    simp [CodeCompleteResults.array?, none]
  | _ => rw [cls] at owned; cases owned

theorem ends_size (gone : w.isDisposed h = true) (owned : h.cls.isOwnedSequence = true)
    (side : Side) : Ends h.size side w (h.cls ≠ .codeCompleteResults) := by
  obtain ⟨cls, size⟩ | ⟨other, e, refused, size⟩ := exec_size_disposed gone owned side
  · exact ends_of_ok size (not_not_intro cls)
  · exact ends_of_error size (iff_of_true refused other)

theorem ends_item (gone : w.isDisposed h = true) (owned : h.cls.isOwnedSequence = true)
    (side : Side) (k : Int) :
    Ends (h.item (.int k)) side w (h.cls ≠ .codeCompleteResults ∧ 0 ≤ k) := by
  have sequence : h.cls.isSequence = true := (Bool.and_eq_true_iff.mp owned).1
  by_cases nonneg : 0 ≤ k
  · obtain ⟨cls, size⟩ | ⟨other, e, refused, size⟩ := exec_size_disposed gone owned side
    · exact ends_of_error (exec_item_beyond sequence nonneg size nonneg)
        (iff_of_false nofun fun asks => asks.1 cls)
    · exact ends_of_error (exec_item_of_size_error sequence nonneg size)
        (iff_of_true refused ⟨other, nonneg⟩)
  · exact ends_of_error (exec_item_negative sequence (Int.not_le.mp nonneg) side w)
      (iff_of_false nofun fun asks => nonneg asks.2)

theorem ends_unstarted (gone : w.isDisposed h = true) (owned : h.cls.isOwnedSequence = true)
    (other : h.cls ≠ .codeCompleteResults) (side : Side) :
    ∃ e : Failure, e.class? = some .disposedHandle ∧
      (Iteration.unstarted h).next.exec side w = (.error e, w) := by
  obtain ⟨cls, -⟩ | ⟨-, e, refused, size⟩ := exec_size_disposed gone owned side
  · exact absurd cls other
  · exact ⟨e, refused, Binding.exec_bind_error size⟩

theorem ends_iterate (gone : w.isDisposed h = true) (owned : h.cls.isOwnedSequence = true)
    (side : Side) :
    Ends (h.iterate >>= Iteration.next) side w (h.cls ≠ .codeCompleteResults) := by
  by_cases cls : h.cls = .codeCompleteResults
  · have none : w.held? h = none := by simpa [World.isDisposed] using gone
    have now : World.now.exec side w = (.ok w, w) := rfl
    have results : (CodeCompleteResults.results h).exec side w = (.ok [], w) := by
      rw [CodeCompleteResults.results, Binding.exec_bind_ok now]
      simp [CodeCompleteResults.array?, none]
    have begun : h.iterate.exec side w = (.ok (.list []), w) := by
      simp only [iterate, cls]
      exact Binding.exec_bind_ok results
    exact ends_of_ok (Binding.exec_bind_ok begun) (not_not_intro cls)
  · have begun : h.iterate.exec side w = (.ok (.unstarted h), w) := by
      unfold iterate
      split
      · contradiction
      · rfl
    obtain ⟨e, refused, next⟩ := ends_unstarted gone owned cls side
    exact ends_of_error ((Binding.exec_bind_ok begun).trans next) (iff_of_true refused cls)

theorem ends_resume (gone : w.isDisposed h = true) (owned : h.cls.isOwnedSequence = true)
    {it : Iteration} (form : h.Form it) :
    Ends it.next side w (h.cls ≠ .codeCompleteResults ∧ it.isOver = false) := by
  cases form with
  | list cls xs =>
    cases xs with
    | nil => exact ends_of_ok rfl fun asks => asks.1 cls
    | cons x r => exact ends_of_ok rfl fun asks => asks.1 cls
  | unstarted other =>
    obtain ⟨e, refused, next⟩ := ends_unstarted gone owned other side
    exact ends_of_error next (iff_of_true refused ⟨other, rfl⟩)
  | within other is =>
    cases is with
    | nil => exact ends_of_ok rfl fun asks => nomatch asks.2
    | cons i r =>
      have sequence : h.cls.isSequence = true := (Bool.and_eq_true_iff.mp owned).1
      obtain ⟨cls, -⟩ | ⟨-, e, refused, size⟩ := exec_size_disposed gone owned side
      · exact absurd cls other
      · have item := exec_item_of_size_error sequence (Int.natCast_nonneg i) size
        exact ends_of_error (Binding.exec_bind_error item) (iff_of_true refused ⟨other, rfl⟩)

/-- A sequence that was disposed of refuses every access that comes to ask it, and no others. No
access makes a call or changes anything else, refused or not. -/
theorem disposed_refuses_iff (h : Handle) (owned : h.cls.isOwnedSequence = true) (side : Side)
    (w : World) (gone : w.isDisposed h = true) (a : Access)
    (begun : ∀ it, a = .resume it → h.Iterates side w it) :
    (IsRefusal ((a.on h).exec side w).1 ↔ a.asks h) ∧ ((a.on h).exec side w).2 = w := by
  cases a with
  | size => exact (ends_size gone owned side).discard
  | item k => exact (ends_item gone owned side k).discard
  | iterate => exact (ends_iterate gone owned side).discard
  | resume it => exact (ends_resume gone owned (begun it rfl).form).discard

def tokenized : World where
  handles := #[
    ⟨.translationUnit, some (.handle (some "unit")), .unit .none true, none, rfl⟩,
    ⟨.tokens, some (.handle (some "array")), .tokens 0 2 ["a", "b"], none, rfl⟩]

theorem disposed_refuses_iff_resumed :
    IsRefusal (((Access.resume (.within ⟨.tokens, 1⟩ [1])).on ⟨.tokens, 1⟩).exec {}
      ((Handle.dispose ⟨.tokens, 1⟩).exec {} tokenized).2).1 := by
  have begun : Iterates {} ⟨.tokens, 1⟩ tokenized (.unstarted ⟨.tokens, 1⟩) :=
    .start (w := tokenized) rfl
  have left : Iterates {} ⟨.tokens, 1⟩ tokenized (.within ⟨.tokens, 1⟩ [1]) := .next begun rfl
  have refused := disposed_refuses_iff ⟨.tokens, 1⟩ rfl {}
    ((Handle.dispose ⟨.tokens, 1⟩).exec {} tokenized).2 (by decide +kernel)
    (.resume (.within ⟨.tokens, 1⟩ [1])) fun it e => by
      cases e
      exact .later left (.of_exec _ _ _)
  exact refused.1.mpr ⟨nofun, rfl⟩

end Handle

namespace Session

def completing : Side where
  answer _ c := match c.function with
    | .codeCompleteAt => { result := .handle (some "results"), completions := [(1, some "string")] }
    | _ => {}

def completedAndDisposed : List Step := [
  .mk (.value (.handle (.unit true) (some "unit"))) (some "unit"),
  .mk (.call "complete_at" (.register "unit")
    [.plain (.text "a.c"), .plain (.int 1), .plain (.int 1)] []) (some "results"),
  .mk (.call "dispose" (.register "results") [] []) none]

theorem disposed_completions_empty :
    (Handle.mk .codeCompleteResults 1).cls.isOwnedSequence = true ∧
      (run completing completedAndDisposed).2.isDisposed ⟨.codeCompleteResults, 1⟩ = true ∧
      ((Handle.size ⟨.codeCompleteResults, 1⟩).exec completing
        (run completing completedAndDisposed).2).1.toOption = some 0 :=
  ⟨rfl, by decide +kernel⟩

end Session

end ClangIndex
