import ClangIndex.Binding.Strings
import ClangIndex.Failure
import ClangIndex.Log.Record
import ClangIndex.Native.Call

/-!
The state that operations change: the calls made, the records written, the account of native
strings, the objects that wrap handles. An operation that fails keeps the changes it made.
-/

namespace ClangIndex

open Native (Argument Call HandleClass PlatformEntry)

/-- The native thing behind an object: a handle, null or not, or the completion string that stands
at a place of a result array. -/
inductive Held
  | handle (h : Option Symbol)
  | place (array : Symbol) (index : Nat)
  deriving DecidableEq, Repr, Inhabited

/-- What an object keeps beside its handle. A token array keeps the number of its unit. -/
inductive Role
  | plain
  | unit (index : Value) (owned : Bool)
  | diagnostic (owner : Option Handle)
  | tokens (unit : Nat) (count : Nat) (items : List Symbol)
  | overridden (unit : Option Handle) (count : Nat) (items : List Symbol)
  | completions (unit : Option Handle)
  | commands (database : Value)
  | command (commands : Value)
  deriving Inhabited

namespace Role

def fits : Role → HandleClass → Bool
  | .plain, .index | .plain, .file | .plain, .module | .plain, .cursorSet
  | .plain, .completionString | .plain, .compilationDatabase => true
  | .unit .., .translationUnit => true
  | .diagnostic _, .diagnostic => true
  | .tokens .., .tokens => true
  | .overridden .., .overriddenCursors => true
  | .completions _, .codeCompleteResults => true
  | .commands _, .compileCommands => true
  | .command _, .compileCommand => true
  | _, _ => false

def exchange (v : Value) : Role → Role
  | .unit _ owned => .unit v owned
  | .commands _ => .commands v
  | .command _ => .command v
  | r => r

@[simp]
theorem fits_exchange (v : Value) (r : Role) (c : HandleClass) :
    (r.exchange v).fits c = r.fits c := by
  cases r <;> cases c <;> rfl

def value : Role → Value
  | .unit v _ | .commands v | .command v => v
  | _ => .none

def borrowed : Role → Bool
  | .unit _ owned => !owned
  | _ => false

@[simp]
theorem borrowed_exchange (v : Value) (r : Role) : (r.exchange v).borrowed = r.borrowed := by
  cases r <;> rfl

def owner : Role → Option Handle
  | .diagnostic owner => owner
  | _ => none

@[simp]
theorem owner_exchange (v : Value) (r : Role) : (r.exchange v).owner = r.owner := by
  cases r <;> rfl

def unit? : Role → Option Handle
  | .tokens u _ _ => some ⟨.translationUnit, u⟩
  | .overridden u _ _ | .completions u => u
  | _ => none

@[simp]
theorem unit?_exchange (v : Value) (r : Role) : (r.exchange v).unit? = r.unit? := by
  cases r <;> rfl

end Role

/-- The state of an object; a disposed one holds nothing. Most objects have a pointer of their own;
one that was made from a pointer has that. -/
structure HandleState where
  cls : HandleClass
  held : Option Held
  role : Role
  pointer : Option Identity := none
  fits : role.fits cls = true

namespace HandleState

def exchange (v : Value) (s : HandleState) : HandleState :=
  { s with role := s.role.exchange v, fits := by simp [s.fits] }

def emptied (s : HandleState) : HandleState := { s with held := none }

end HandleState

structure Party where
  handle : Handle
  usable : Bool
  deriving DecidableEq, Repr

/-- A call with the objects that it is made for: those among its arguments, and the one whose handle
or array is passed as it is. -/
structure Dealing where
  call : Call
  arguments : List Party
  holder : Option Party
  deriving DecidableEq, Repr

structure PlatformState where
  platform : ForeignString := {}
  introduced : Nat
  deprecated : Nat
  obsoleted : Nat
  unavailable : Int := 0
  message : ForeignString := {}
  disposed : Bool := false
  deriving Inhabited

namespace PlatformState

def string (p : PlatformState) : EntryString → ForeignString
  | .platform => p.platform
  | .message => p.message

def withString (p : PlatformState) (s : ForeignString) : EntryString → PlatformState
  | .platform => { p with platform := s }
  | .message => { p with message := s }

end PlatformState

structure AvailabilityState where
  alwaysDeprecated : Value
  deprecatedMessage : Value
  alwaysUnavailable : Value
  unavailableMessage : Value
  platforms : Value
  replaced : Bool := false
  deriving Inhabited

namespace AvailabilityState

def fields (a : AvailabilityState) : List Value := [
    a.alwaysDeprecated, a.deprecatedMessage, a.alwaysUnavailable, a.unavailableMessage, a.platforms]

end AvailabilityState

structure ChunkState where
  string : Value
  key : Value
  deriving Inhabited

inductive Holder
  | object (id : Identity)
  | handle (h : Handle)
  | supply (id : Nat)
  | diagnostics (id : Nat)
  | platform (id : Nat)
  | availability (id : Nat)
  | chunk (id : Nat)
  | member (m : Member)
  | flags (f : FlagSet) (n : Nat)
  deriving DecidableEq, Repr

/-- The state. A supply is what an iterator or a stream still has to give; attributes stand with the
latest first; objects counts those that have a number. Callers have meddled once they gave back or
exchanged a string of an entry themselves. -/
structure World where
  dealings : List Dealing := []
  records : List Log.Record := []
  context : Log.Context := {}
  strings : Ledger := {}
  meddled : Bool := false
  handles : Array HandleState := #[]
  platforms : Array PlatformState := #[]
  availabilities : Array AvailabilityState := #[]
  versions : Array Version := #[]
  chunks : Array ChunkState := #[]
  owners : Array Value := #[]
  supplies : Array (List Value) := #[]
  counters : Array Nat := #[]
  attributes : List (Holder × String × Value) := []
  objects : Nat := 0
  completions : List (Symbol × List (Int × Option Symbol)) := []
  registers : List (String × Value) := []
  printed : List String := []
  trace : List Json := []
  deriving Inhabited

namespace Native.HandleClass

def pointee : HandleClass → String
  | .tokens => "Token"
  | .overriddenCursors => "Cursor"
  | .codeCompleteResults => "_CodeCompleteResultsData"
  | _ => "c_void_p"

end Native.HandleClass

namespace World

def calls (w : World) : List Call := w.dealings.map (·.call)

def handle? (w : World) (h : Handle) : Option HandleState :=
  (w.handles[h.id]?).filter fun s => s.cls == h.cls

def role (w : World) (h : Handle) : Role := ((w.handle? h).map (·.role)).getD .plain

def held? (w : World) (h : Handle) : Option Held := (w.handle? h).bind (·.held)

def isDisposed (w : World) (h : Handle) : Bool := (w.held? h).isNone

def symbolOf (w : World) : Held → Option Symbol
  | .handle h => h
  | .place array i => do
    let items ← lookup array w.completions
    let item ← items[i]?
    item.2

def version (w : World) (cell : Nat) : Version := (w.versions[cell]?).getD ⟨0, 0, 0⟩

def owner (w : World) (id : Nat) : Value := (w.owners[id]?).getD .none

def chunk (w : World) (id : Nat) : ChunkState := (w.chunks[id]?).getD ⟨.none, .none⟩

def supply (w : World) (id : Nat) : List Value := (w.supplies[id]?).getD []

def counter (w : World) (id : Nat) : Nat := (w.counters[id]?).getD 0

def setHandle (w : World) (h : Handle) (f : HandleState → HandleState) : World :=
  { w with handles := w.handles.modify h.id fun s => if s.cls = h.cls then f s else s }

def retire (w : World) (h : Handle) : World := w.setHandle h .emptied

theorem handle?_retire (w : World) (h : Handle) :
    (w.retire h).handle? h = (w.handle? h).map .emptied := by
  simp only [handle?, retire, setHandle, Array.getElem?_modify]
  cases w.handles[h.id]? with
  | none => rfl
  | some s => by_cases c : s.cls = h.cls <;> simp [Option.filter, HandleState.emptied, c]

theorem isDisposed_retire (w : World) (h : Handle) : (w.retire h).isDisposed h = true := by
  cases e : w.handle? h <;> simp [isDisposed, held?, handle?_retire, e, HandleState.emptied]

end World

namespace Handle

/-- Why an object cannot be used, if it cannot: it was disposed, or a diagnostic's owner was. -/
def obstacle (w : World) (h : Handle) : Option Failure :=
  match (w.role h).owner.filter w.isDisposed with
  | some owner => some (.ownerDisposed owner.cls)
  | none => if w.isDisposed h then some (.disposed h.cls) else none

theorem obstacle_eq_none {w : World} {h : Handle} :
    h.obstacle w = none ↔
      w.isDisposed h = false ∧ ∀ o, (w.role h).owner = some o → w.isDisposed o = false := by
  unfold obstacle
  cases (w.role h).owner with
  | none => simp
  | some o => cases d : w.isDisposed o <;> simp [Option.filter, d]

def party (w : World) (h : Handle) : Party := ⟨h, (h.obstacle w).isNone⟩

theorem party_retire (w : World) (h : Handle) : party (w.retire h) h = ⟨h, false⟩ := by
  have spent : obstacle (w.retire h) h ≠ none := fun n => by
    simpa [w.isDisposed_retire h] using (obstacle_eq_none.mp n).1
  cases e : obstacle (w.retire h) h with
  | none => exact absurd e spent
  | some _ => simp [party, e]

end Handle

end ClangIndex
