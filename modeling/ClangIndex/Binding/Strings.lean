import ClangIndex.Native.Call

namespace ClangIndex

open Native (PlatformEntry)
open Text (Bytes)

/-- The account of native strings. A string is known by its number in the order of making. -/
structure Ledger where
  made : Nat := 0
  alive : List Nat := []
  disposed : Nat := 0
  twice : Nat := 0
  deriving DecidableEq, Repr, Inhabited

namespace Ledger

def make (l : Ledger) : Ledger := { l with made := l.made + 1, alive := l.made :: l.alive }

def dispose (l : Ledger) (n : Nat) : Ledger :=
  if n ∈ l.alive then { l with alive := l.alive.erase n, disposed := l.disposed + 1 }
  else { l with disposed := l.disposed + 1, twice := l.twice + 1 }

/-- A string structure without a number was only zeroed, and is nothing to give back. -/
def dispose? (l : Ledger) (n : Option Nat) : Ledger := n.elim l l.dispose

def pass (l : Ledger) (n : Nat) : Ledger :=
  { l with made := l.made + n, disposed := l.disposed + n }

@[simp]
theorem pass_zero (l : Ledger) : l.pass 0 = l := rfl

@[simp]
theorem pass_pass (l : Ledger) (m n : Nat) : (l.pass m).pass n = l.pass (m + n) := by
  simp [pass, Nat.add_assoc]

theorem dispose_made (l : Ledger) (n : Nat) : (l.dispose n).made = l.made := by
  unfold dispose
  split <;> rfl

@[simp]
theorem dispose_pass (l : Ledger) (i n : Nat) : (l.pass n).dispose i = (l.dispose i).pass n := by
  by_cases h : i ∈ l.alive <;> simp [dispose, pass, h, Nat.add_right_comm]

@[simp]
theorem dispose_make_self (l : Ledger) : l.make.dispose l.made = l.pass 1 := by
  simp [make, dispose, pass]

theorem dispose_make_older (l : Ledger) {n : Nat} (h : n < l.made) :
    l.make.dispose n = (l.dispose n).make := by
  have ne : n ≠ l.made := by omega
  by_cases m : n ∈ l.alive
  · simp [make, dispose, m, List.erase_cons_tail, ne.symm]
  · simp [make, dispose, m, ne]

end Ledger

structure ForeignString where
  serial : Option Nat := none
  data : Option Bytes := none
  deriving DecidableEq, Repr, Inhabited

namespace ForeignString

def receive (data : Option Bytes) : StateM Ledger ForeignString :=
  modifyGet fun l => (⟨some l.made, data⟩, l.make)

def receive? : Option (Option Bytes) → StateM Ledger ForeignString
  | some data => receive data
  | none => pure {}

def release (s : ForeignString) : StateM Ledger Unit := modify (·.dispose? s.serial)

def read (s : ForeignString) : String := (s.data.map Text.ofUtf8).getD ""

def consume (s : ForeignString) : StateM Ledger String := do
  s.release
  return s.read

def copy? (data : Option (Option Bytes)) : StateM Ledger String := do (← receive? data).consume

def copyBoth (first second : Option (Option Bytes)) : StateM Ledger (String × String) := do
  let first ← receive? first
  let second ← receive? second
  return (← first.consume, ← second.consume)

def copyWithin (outer : Option (Option Bytes)) (inner : Option Bytes) :
    StateM Ledger (String × String) := do
  let outer ← receive? outer
  let inner ← copy? (some inner)
  return (inner, ← outer.consume)

def Settles (m : StateM Ledger α) : Prop := ∀ l : Ledger, ∃ n, (m.run l).2 = l.pass n

theorem settles_copy? (data : Option (Option Bytes)) : Settles (copy? data) := by
  intro l
  cases data with
  | none => exact ⟨0, rfl⟩
  | some data => exact ⟨1, l.dispose_make_self⟩

theorem dispose_both (l : Ledger) :
    (l.make.make.dispose l.made).dispose (l.made + 1) = l.pass 2 := by
  rw [Ledger.dispose_make_older l.make (Nat.lt_succ_self _), Ledger.dispose_make_self]
  exact (l.pass 1).dispose_make_self

theorem settles_copyBoth (first second : Option (Option Bytes)) :
    Settles (copyBoth first second) := by
  intro l
  cases first with
  | none =>
    cases second with
    | none => exact ⟨0, rfl⟩
    | some _ => exact ⟨1, l.dispose_make_self⟩
  | some _ =>
    cases second with
    | none => exact ⟨1, l.dispose_make_self⟩
    | some _ => exact ⟨2, dispose_both l⟩

theorem settles_copyWithin (outer : Option (Option Bytes)) (inner : Option Bytes) :
    Settles (copyWithin outer inner) := by
  intro l
  cases outer with
  | none => exact ⟨1, l.dispose_make_self⟩
  | some _ =>
    refine ⟨2, ?_⟩
    calc (l.make.make.dispose (l.made + 1)).dispose l.made
        = (l.make.pass 1).dispose l.made := by rw [← l.make.dispose_make_self]; rfl
      _ = l.pass 2 := by simp

end ForeignString

structure Receipt where
  entry : PlatformEntry
  platform : ForeignString := {}
  message : ForeignString := {}

namespace Receipt

def receiveAll : Nat → List PlatformEntry → StateM Ledger (List Receipt)
  | 0, _ => pure []
  | n + 1, [] => do return ⟨.blank, {}, {}⟩ :: (← receiveAll n [])
  | n + 1, e :: r => do
    let platform ← ForeignString.receive e.platform
    let message ← ForeignString.receive e.message
    return ⟨e, platform, message⟩ :: (← receiveAll n r)

@[simp]
theorem run_receiveAll_zero (es : List PlatformEntry) (l : Ledger) :
    (receiveAll 0 es).run l = ([], l) := rfl

@[simp]
theorem run_receiveAll_nil (n : Nat) (l : Ledger) :
    (receiveAll (n + 1) []).run l =
      (⟨.blank, {}, {}⟩ :: ((receiveAll n []).run l).1, ((receiveAll n []).run l).2) := rfl

@[simp]
theorem run_receiveAll_cons (n : Nat) (e : PlatformEntry) (r : List PlatformEntry) (l : Ledger) :
    (receiveAll (n + 1) (e :: r)).run l =
      (⟨e, ⟨some l.made, e.platform⟩, ⟨some (l.made + 1), e.message⟩⟩ ::
        ((receiveAll n r).run l.make.make).1, ((receiveAll n r).run l.make.make).2) := rfl

theorem run_receiveAll_dispose (n : Nat) (es : List PlatformEntry) (l : Ledger) {i : Nat}
    (h : i < l.made) :
    (receiveAll n es).run (l.dispose i) =
      (((receiveAll n es).run l).1, ((receiveAll n es).run l).2.dispose i) := by
  induction n generalizing es l with
  | zero => simp
  | succ n ih =>
    cases es with
    | nil => simp [ih [] l h]
    | cons e r =>
      have older : (l.dispose i).make.make = l.make.make.dispose i := by
        rw [Ledger.dispose_make_older l.make (Nat.lt_succ_of_lt h), Ledger.dispose_make_older l h]
      have rest := ih r l.make.make (Nat.lt_succ_of_lt (Nat.lt_succ_of_lt h))
      simp [older, rest, Ledger.dispose_made]

def receiveWith (deprecated unavailable : Option (Option Bytes)) (n : Nat)
    (es : List PlatformEntry) : StateM Ledger ((String × String) × List Receipt) := do
  let deprecated ← ForeignString.receive? deprecated
  let unavailable ← ForeignString.receive? unavailable
  let receipts ← receiveAll n es
  return ((← deprecated.consume, ← unavailable.consume), receipts)

theorem run_receiveWith (deprecated unavailable : Option (Option Bytes)) (n : Nat)
    (es : List PlatformEntry) (l : Ledger) :
    ∃ k, (((receiveWith deprecated unavailable n es).run l).1.2,
      ((receiveWith deprecated unavailable n es).run l).2) = (receiveAll n es).run (l.pass k) := by
  cases deprecated with
  | none =>
    cases unavailable with
    | none => exact ⟨0, rfl⟩
    | some _ =>
      refine ⟨1, ?_⟩
      rw [← l.dispose_make_self, run_receiveAll_dispose _ _ _ (Nat.lt_succ_self _)]
      rfl
  | some _ =>
    cases unavailable with
    | none =>
      refine ⟨1, ?_⟩
      rw [← l.dispose_make_self, run_receiveAll_dispose _ _ _ (Nat.lt_succ_self _)]
      rfl
    | some _ =>
      have first : l.made < l.make.make.made := Nat.lt_succ_of_lt (Nat.lt_succ_self _)
      have second : l.made + 1 < (l.make.make.dispose l.made).made := by
        rw [Ledger.dispose_made]
        exact Nat.lt_succ_self _
      refine ⟨2, ?_⟩
      rw [← ForeignString.dispose_both, run_receiveAll_dispose _ _ _ second,
        run_receiveAll_dispose _ _ _ first]
      rfl

end Receipt

end ClangIndex
