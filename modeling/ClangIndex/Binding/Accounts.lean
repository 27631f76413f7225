import ClangIndex.Binding.World
import ClangIndex.Value.Conversion

/-!
What the state says about the native side: the calls, the strings, and which objects and entries are
still to be given back. Every operation changes it by the moves below and in no other way.
-/

namespace ClangIndex

open Native (Function HandleClass)

theorem map_modify {α β : Type} (g : α → β) (f : α → α) (k : β → β) (h : ∀ x, g (f x) = k (g x))
    (xs : List α) (i : Nat) : (xs.modify i f).map g = (xs.map g).modify i k := by
  apply List.ext_getElem?
  intro j
  simp only [List.getElem?_map, List.getElem?_modify]
  cases xs[j]? with
  | none => rfl
  | some x => by_cases c : i = j <;> simp [c, h]

theorem map_modify_same {α β : Type} (g : α → β) (f : α → α) (h : ∀ x, g (f x) = g x)
    (xs : List α) (i : Nat) : (xs.modify i f).map g = xs.map g := by
  rw [map_modify g f id h, List.modify_id]

theorem getElem?_append_of_some {α : Type} {xs : List α} {i : Nat} {x : α} (h : xs[i]? = some x)
    (ys : List α) : (xs ++ ys)[i]? = some x := by
  obtain ⟨bound, -⟩ := List.getElem?_eq_some_iff.mp h
  rw [List.getElem?_append_left bound, h]

namespace Native

def HandleClass.release? : HandleClass → Option Function
  | .index => some .disposeIndex
  | .translationUnit => some .disposeTranslationUnit
  | .diagnostic => some .disposeDiagnostic
  | .tokens => some .disposeTokens
  | .cursorSet => some .disposeCXCursorSet
  | .overriddenCursors => some .disposeOverriddenCursors
  | .codeCompleteResults => some .disposeCodeCompleteResults
  | .compilationDatabase => some .compilationDatabaseDispose
  | .compileCommands => some .compileCommandsDispose
  | .file | .module | .completionString | .compileCommand => none

def Function.releases : Function → Bool
  | .disposeIndex | .disposeTranslationUnit | .disposeDiagnostic | .disposeTokens
  | .disposeCXCursorSet | .disposeOverriddenCursors | .disposeCodeCompleteResults
  | .compilationDatabaseDispose | .compileCommandsDispose => true
  | _ => false

theorem HandleClass.releases_of_release? {c : HandleClass} {f : Function}
    (h : c.release? = some f) : f.releases = true := by
  cases c <;> cases h <;> rfl

end Native

namespace Dealing

def parties (d : Dealing) : List Party := d.arguments ++ d.holder.toList

/-- The objects that a call is made on behalf of: the one whose handle or array is passed as it is,
else those among the arguments. -/
def clients (d : Dealing) : List Handle := (d.holder.elim d.arguments fun p => [p]).map (·.handle)

def releases (d : Dealing) (h : Handle) : Bool :=
  d.call.function.releases && d.clients.contains h

end Dealing

structure Standing where
  cls : HandleClass
  borrowed : Bool
  owner : Option Handle
  unit? : Option Handle
  disposed : Bool
  deriving DecidableEq, Repr

structure Deposit where
  platform : Option Nat
  message : Option Nat
  returned : Bool
  deriving DecidableEq, Repr

structure Listing where
  entries : List Nat
  replaced : Bool
  deriving DecidableEq, Repr

structure Accounts where
  dealings : List Dealing := []
  strings : Ledger := {}
  meddled : Bool := false
  standings : List Standing := []
  deposits : List Deposit := []
  listings : List Listing := []
  deriving DecidableEq, Repr

namespace HandleState

def standing (s : HandleState) : Standing :=
  ⟨s.cls, s.role.borrowed, s.role.owner, s.role.unit?, s.held.isNone⟩

@[simp]
theorem cls_standing (s : HandleState) : s.standing.cls = s.cls := rfl

@[simp]
theorem borrowed_standing (s : HandleState) : s.standing.borrowed = s.role.borrowed := rfl

@[simp]
theorem owner_standing (s : HandleState) : s.standing.owner = s.role.owner := rfl

@[simp]
theorem unit?_standing (s : HandleState) : s.standing.unit? = s.role.unit? := rfl

@[simp]
theorem disposed_standing (s : HandleState) : s.standing.disposed = s.held.isNone := rfl

@[simp]
theorem standing_exchange (v : Value) (s : HandleState) : (s.exchange v).standing = s.standing := by
  simp [standing, exchange]

end HandleState

def Deposit.withSerial (d : Deposit) (n : Option Nat) : EntryString → Deposit
  | .platform => { d with platform := n }
  | .message => { d with message := n }

theorem Deposit.returned_withSerial (d : Deposit) (n : Option Nat) (field : EntryString) :
    (d.withSerial n field).returned = d.returned := by
  cases field <;> rfl

def PlatformState.deposit (p : PlatformState) : Deposit :=
  ⟨p.platform.serial, p.message.serial, p.disposed⟩

theorem PlatformState.deposit_withString (p : PlatformState) (s : ForeignString)
    (field : EntryString) :
    (p.withString s field).deposit = p.deposit.withSerial s.serial field := by
  cases field <;> rfl

def Value.entries (v : Value) : List Nat :=
  (v.items?.getD []).filterMap fun
    | .platform id => some id
    | _ => Option.none

theorem Value.mem_items_of_mem_entries {v : Value} {items : List Value} {i : Nat}
    (h : v.items? = some items) (m : i ∈ v.entries) : .platform i ∈ items := by
  simp only [entries, h, Option.getD_some, List.mem_filterMap] at m
  obtain ⟨x, mem, e⟩ := m
  split at e <;> cases e
  exact mem

def AvailabilityState.listing (a : AvailabilityState) : Listing := ⟨a.platforms.entries, a.replaced⟩

def World.accounts (w : World) : Accounts where
  dealings := w.dealings
  strings := w.strings
  meddled := w.meddled
  standings := w.handles.toList.map HandleState.standing
  deposits := w.platforms.toList.map PlatformState.deposit
  listings := w.availabilities.toList.map AvailabilityState.listing

namespace Accounts

variable {a b c : Accounts} {h : Handle} {s : Standing}

def standing? (a : Accounts) (h : Handle) : Option Standing :=
  (a.standings[h.id]?).filter fun s => s.cls == h.cls

/-- An object that cannot be used any more: it was disposed of, or what it belongs to was. -/
def Spent (a : Accounts) (h : Handle) : Prop :=
  ∃ s, a.standing? h = some s ∧ (s.disposed = true ∨
    ∃ o t, s.owner = some o ∧ a.standing? o = some t ∧ t.disposed = true)

theorem live_of_not_spent (n : ¬a.Spent h) (e : a.standing? h = some s) : s.disposed = false := by
  cases d : s.disposed with
  | false => rfl
  | true => exact absurd ⟨s, e, .inl d⟩ n

def retire (a : Accounts) (h : Handle) : Accounts :=
  { a with standings := a.standings.modify h.id fun s =>
      if s.cls = h.cls then { s with disposed := true } else s }

theorem standing?_append (e : a.standing? h = some s) (t : Standing) :
    ({ a with standings := a.standings ++ [t] } : Accounts).standing? h = some s := by
  obtain ⟨at_, cls⟩ := Option.filter_eq_some_iff.mp e
  exact Option.filter_eq_some_iff.mpr ⟨getElem?_append_of_some at_ _, cls⟩

theorem standing?_retire_self (e : a.standing? h = some s) :
    (a.retire h).standing? h = some { s with disposed := true } := by
  obtain ⟨at_, cls⟩ := Option.filter_eq_some_iff.mp e
  have cls : s.cls = h.cls := by simpa using cls
  simp [retire, standing?, at_, cls, Option.filter]

theorem standing?_retire_other {k : Handle} (ne : k ≠ h) (e : a.standing? h = some s) :
    (a.retire k).standing? h = some s := by
  obtain ⟨at_, cls⟩ := Option.filter_eq_some_iff.mp e
  have cls : s.cls = h.cls := by simpa using cls
  by_cases id : k.id = h.id
  · have other : ¬h.cls = k.cls := fun c => ne (by cases k; cases h; simp_all)
    simp [retire, standing?, at_, id, cls, other, Option.filter]
  · simp [retire, standing?, at_, id, cls, Option.filter]

def giveBack (a : Accounts) (i : Nat) (d : Deposit) : Accounts :=
  { a with
    strings := (a.strings.dispose? d.platform).dispose? d.message
    deposits := a.deposits.modify i ({ · with returned := true }) }

def isReturned (a : Accounts) (i : Nat) : Bool := (a.deposits[i]?).any (·.returned)

theorem isReturned_iff {i : Nat} :
    a.isReturned i = true ↔ ∃ d, a.deposits[i]? = some d ∧ d.returned = true := by
  cases e : a.deposits[i]? <;> simp [isReturned, e]

def isListed (a : Accounts) (i : Nat) : Bool :=
  a.listings.any fun l => !l.replaced && l.entries.contains i

end Accounts

namespace World

theorem accounts_setHandle (w : World) (h : Handle) (f : HandleState → HandleState)
    (k : Standing → Standing) (hk : ∀ s : HandleState, (f s).standing = k s.standing) :
    (w.setHandle h f).accounts =
      { w.accounts with
        standings :=
          w.accounts.standings.modify h.id fun s => if s.cls = h.cls then k s else s } := by
  simp only [accounts, setHandle, Array.toList_modify]
  rw [map_modify HandleState.standing _ fun s => if s.cls = h.cls then k s else s]
  intro s
  by_cases c : s.cls = h.cls <;> simp [c, hk]

@[simp]
theorem accounts_retire (w : World) (h : Handle) :
    (w.retire h).accounts = w.accounts.retire h :=
  w.accounts_setHandle h .emptied _ fun _ => rfl

theorem standing?_accounts (w : World) (h : Handle) :
    w.accounts.standing? h = (w.handle? h).map HandleState.standing := by
  simp only [Accounts.standing?, handle?, accounts, List.getElem?_map, Array.getElem?_toList]
  cases w.handles[h.id]? with
  | none => rfl
  | some s => by_cases c : s.cls = h.cls <;> simp [Option.filter, c]

theorem standing?_of_held {w : World} {h : Handle} {held : Held} (e : w.held? h = some held) :
    ∃ s, w.accounts.standing? h = some s ∧ s.disposed = false ∧
      s.borrowed = (w.role h).borrowed := by
  obtain ⟨s, hs, held⟩ := Option.bind_eq_some_iff.mp e
  exact ⟨s.standing, by simp [standing?_accounts, hs], by simp [held], by simp [role, hs]⟩

theorem isDisposed_of_standing? {w : World} {h : Handle} {s : Standing}
    (e : w.accounts.standing? h = some s) : w.isDisposed h = s.disposed := by
  rw [standing?_accounts] at e
  obtain ⟨t, stands, rfl⟩ := Option.map_eq_some_iff.mp e
  simp [isDisposed, held?, stands]

theorem not_spent {w : World} {h : Handle} (e : h.obstacle w = none) : ¬w.accounts.Spent h := by
  obtain ⟨live, owned⟩ := Handle.obstacle_eq_none.mp e
  rintro ⟨s, stands, gone | ⟨o, t, own, stands', gone⟩⟩
  · simp [isDisposed_of_standing? stands, gone] at live
  · have role : (w.role h).owner = some o := by
      rw [standing?_accounts] at stands
      obtain ⟨u, e, rfl⟩ := Option.map_eq_some_iff.mp stands
      simpa [World.role, e] using own
    simpa [isDisposed_of_standing? stands', gone] using owned o role

theorem accounts_exchange (w : World) (h : Handle) (v : Value) :
    (w.setHandle h (.exchange v)).accounts = w.accounts := by
  rw [w.accounts_setHandle h _ id fun s => s.standing_exchange v]
  simp only [id_eq, ite_self]
  rw [show (fun s : Standing => s) = id from rfl, List.modify_id]

end World

inductive Move : Accounts → Accounts → Prop
  | call (a) (d : Dealing) (usable : ∀ p ∈ d.parties, p.usable = true ∧ ¬a.Spent p.handle)
      (keeps : d.call.function.releases = false ∨ d.parties = []) :
      Move a { a with dealings := d :: a.dealings }
  | create (a) (s : Standing) : Move a { a with standings := a.standings ++ [s] }
  | retire (a) (h : Handle) (s : Standing) (stands : a.standing? h = some s)
      (live : s.disposed = false) : Move a (a.retire h)
  | release (a) (h : Handle) (s : Standing) (stands : a.standing? h = some s)
      (live : ¬a.Spent h) (owned : s.borrowed = false) (d : Dealing)
      (usable : ∀ p ∈ d.arguments, p.usable = true ∧ ¬(a.retire h).Spent p.handle)
      (holder : d.holder = some ⟨h, false⟩) (function : h.cls.release? = some d.call.function) :
      Move a { a.retire h with dealings := d :: a.dealings }
  | copy (a) (n : Nat) : Move a { a with strings := a.strings.pass n }
  | list (a) (n : Nat) :
      Move a { a with
        listings := a.listings ++ [⟨List.range' a.deposits.length n, false⟩] }
  | deposit (a) (listed : a.isListed a.deposits.length = true) :
      Move a { a with
        strings := a.strings.make.make
        deposits := a.deposits ++ [⟨some a.strings.made, some (a.strings.made + 1), false⟩] }
  | blank (a) (listed : a.isListed a.deposits.length = true) :
      Move a { a with deposits := a.deposits ++ [⟨none, none, false⟩] }
  | giveBack (a) (i : Nat) (d : Deposit) (stands : a.deposits[i]? = some d)
      (kept : d.returned = false) : Move a (a.giveBack i d)
  | empty (a) (j : Nat)
      (returned : ∀ l, a.listings[j]? = some l → l.replaced = true ∨
        ∀ i ∈ l.entries, a.isReturned i = true) :
      Move a { a with listings := a.listings.modify j ({ · with entries := [] }) }
  | replace (a) (j : Nat) (entries : List Nat) :
      Move a { a with listings := a.listings.modify j fun _ => ⟨entries, true⟩ }
  /-- Callers give back a string of an entry themselves, or put another one in its place. -/
  | meddle (a) (strings : Ledger) (i : Nat) (f : Deposit → Deposit)
      (keeps : ∀ d, (f d).returned = d.returned) :
      Move a { a with strings, meddled := true, deposits := a.deposits.modify i f }

theorem Move.standing {a b : Accounts} (move : Move a b) {h : Handle} {s : Standing}
    (e : a.standing? h = some s) :
    ∃ t, b.standing? h = some t ∧ t.borrowed = s.borrowed ∧ t.owner = s.owner ∧
      t.unit? = s.unit? ∧ (s.disposed = true → t.disposed = true) := by
  cases move with
  | create t => exact ⟨s, Accounts.standing?_append e t, rfl, rfl, rfl, id⟩
  | retire k | release k =>
    by_cases same : k = h
    · subst same
      exact ⟨_, Accounts.standing?_retire_self e, rfl, rfl, rfl, fun _ => rfl⟩
    · exact ⟨s, Accounts.standing?_retire_other same e, rfl, rfl, rfl, id⟩
  | _ => exact ⟨s, e, rfl, rfl, rfl, id⟩

inductive Evolution : Accounts → Accounts → Prop
  | refl (a) : Evolution a a
  | tail {a b c} (before : Evolution a b) (move : Move b c) : Evolution a c

namespace Evolution

variable {a b c : Accounts}

theorem trans (h : Evolution a b) (k : Evolution b c) : Evolution a c := by
  induction k with
  | refl => exact h
  | tail _ move ih => exact .tail ih move

theorem of_eq (h : b = a) : Evolution a b := h ▸ .refl a

theorem single (h : Move a b) : Evolution a b := .tail (.refl a) h

theorem keeps {p : Accounts → Prop} (step : ∀ a b, Move a b → p a → p b) (h : Evolution a b)
    (start : p a) : p b := by
  induction h with
  | refl => exact start
  | tail _ move ih => exact step _ _ move ih

theorem standing (k : Evolution a b) {h : Handle} {s : Standing} (e : a.standing? h = some s) :
    ∃ t, b.standing? h = some t ∧ t.borrowed = s.borrowed ∧ t.owner = s.owner ∧
      t.unit? = s.unit? ∧ (s.disposed = true → t.disposed = true) := by
  induction k with
  | refl => exact ⟨s, e, rfl, rfl, rfl, id⟩
  | tail _ move ih =>
    obtain ⟨t, et, lent, own, unit, gone⟩ := ih
    obtain ⟨t', et', lent', own', unit', gone'⟩ := move.standing et
    exact ⟨t', et', lent'.trans lent, own'.trans own, unit'.trans unit, fun d => gone' (gone d)⟩

theorem spent (k : Evolution a b) {h : Handle} (e : a.Spent h) : b.Spent h := by
  obtain ⟨s, stands, gone⟩ := e
  obtain ⟨s', stands', -, own, -, gone'⟩ := k.standing stands
  refine ⟨s', stands', gone.imp gone' ?_⟩
  rintro ⟨o, t, e, et, d⟩
  obtain ⟨t', et', -, -, -, d'⟩ := k.standing et
  exact ⟨o, t', own.trans e, et', d' d⟩

theorem isReturned (h : Evolution a b) {i : Nat} (r : a.isReturned i = true) :
    b.isReturned i = true := by
  refine h.keeps (p := fun a => a.isReturned i = true) ?_ r
  intro a b move r
  obtain ⟨d, e, r⟩ := Accounts.isReturned_iff.mp r
  cases move with
  | deposit | blank => simp [Accounts.isReturned, getElem?_append_of_some e, r]
  | giveBack j =>
    by_cases c : j = i <;> simp [Accounts.isReturned, Accounts.giveBack, e, r, c]
  | meddle strings j f keeps =>
    by_cases c : j = i <;> simp [Accounts.isReturned, e, r, c, keeps]
  | _ => simpa [Accounts.isReturned, Accounts.retire, e] using r

theorem listing (h : Evolution a b) {j : Nat} {l : Listing} (e : a.listings[j]? = some l) :
    ∃ l', b.listings[j]? = some l' ∧
      (l'.replaced = true ∨ l'.entries = l.entries ∨ l'.entries = []) := by
  induction h with
  | refl => exact ⟨l, e, .inr (.inl rfl)⟩
  | tail _ move ih =>
    obtain ⟨l', e', r⟩ := ih
    cases move with
    | list => exact ⟨l', getElem?_append_of_some e' _, r⟩
    | empty k => by_cases c : k = j <;> simp [e', r, c]
    | replace k => by_cases c : k = j <;> simp [e', r, c]
    | _ => exact ⟨l', e', r⟩

end Evolution

end ClangIndex
