import ClangIndex.Binding.Call
import ClangIndex.Value.Conversion

namespace ClangIndex

open Native (Function HandleClass Side)

namespace Native.HandleClass

def emptyWhenNull : HandleClass → Bool
  | .overriddenCursors | .codeCompleteResults | .compileCommands => true
  | _ => false

end Native.HandleClass

namespace Role

/-- What is passed to give a symbol back, unless nothing is to be given back. What was lent is kept,
a diagnostic goes with its owner, and a token array needs its unit. -/
def returns? (w : World) (cls : HandleClass) (s : Option Symbol) (r : Role) :
    Option (List Actual) :=
  if r.borrowed || r.owner.any w.isDisposed then none
  else match r with
    | .tokens u count _ =>
      s.map fun array =>
        [.value (.handle ⟨.translationUnit, u⟩), .native (.handle (some array)),
          .native (.int count)]
    | _ => if s.isNone && cls.emptyWhenNull then none else some [.native (.handle s)]

theorem owned_of_returns? {w : World} {cls : HandleClass} {s : Option Symbol} {r : Role}
    {actuals : List Actual} (e : r.returns? w cls s = some actuals) :
    r.borrowed = false ∧ ∀ o, r.owner = some o → w.isDisposed o = false := by
  unfold returns? at e
  split at e
  · cases e
  · rename_i owned
    rw [Bool.not_eq_true, Bool.or_eq_false_iff] at owned
    exact ⟨owned.1, fun o own => by simpa [own] using owned.2⟩

end Role

namespace Handle

def release? (w : World) (h : Handle) (held : Held) : Option (Function × List Actual) :=
  h.cls.release?.bind fun f =>
    ((w.role h).returns? w h.cls (w.symbolOf held)).map fun actuals => (f, actuals)

theorem release?_cases {w : World} {h : Handle} {held : Held} {f : Function}
    {actuals : List Actual} (e : release? w h held = some (f, actuals)) :
    h.cls.release? = some f ∧
      (w.role h).returns? w h.cls (w.symbolOf held) = some actuals := by
  obtain ⟨g, hg, e⟩ := Option.bind_eq_some_iff.mp e
  obtain ⟨_, ha, e⟩ := Option.map_eq_some_iff.mp e
  cases e
  exact ⟨hg, ha⟩

/-- An object is disposed of once it holds nothing, whatever becomes of the call. The function that
was called is given, if one was. -/
def giveUp (h : Handle) : Binding (Option Function) where
  effect := fun side w =>
    match w.held? h with
    | none => (.ok none, w)
    | some held =>
      match h.release? w held with
      | none => (.ok none, w.retire h)
      | some (f, actuals) =>
        let (r, w) := f.perform (some h) actuals side (w.retire h)
        (r.map fun _ => some f, w)
  evolves side w := by
    split
    · exact .refl _
    · rename_i held live
      obtain ⟨s, stands, alive, lent⟩ := World.standing?_of_held live
      have retired := Move.retire w.accounts h s stands alive
      rw [← World.accounts_retire] at retired
      split
      · exact .single retired
      · rename_i f actuals called
        obtain ⟨releases, returned⟩ := release?_cases called
        obtain ⟨owned, own⟩ := Role.owned_of_returns? returned
        obtain ⟨e, refused⟩ | ⟨d, made, function, holder, -, clear⟩ :=
          f.perform_cases (some h) actuals side (w.retire h)
        · rw [refused]
          exact .single retired
        · rw [made]
          have unspent := World.not_spent (Handle.obstacle_eq_none.mpr
            ⟨by simp [World.isDisposed, live], own⟩)
          have release := Move.release w.accounts h s stands unspent (lent.trans owned) d
            (World.accounts_retire w h ▸ clear)
            (by rw [holder, Option.map_some, Handle.party_retire]) (function ▸ releases)
          rw [← World.accounts_retire] at release
          exact .single release

def dispose (h : Handle) : Binding Unit := do
  match ← h.giveUp with
  | some .disposeTokens | none => pure ()
  | some _ => Binding.log .debug "clangbind.library" ("Disposed " ++ h.cls.name)

end Handle

namespace World

def giveBack (w : World) (id : Nat) (p : PlatformState) : World :=
  { w with
    strings := (w.strings.dispose? p.platform.serial).dispose? p.message.serial
    platforms := w.platforms.modify id ({ · with disposed := true }) }

theorem accounts_giveBack (w : World) (id : Nat) (p : PlatformState) :
    (w.giveBack id p).accounts = w.accounts.giveBack id p.deposit := by
  simp only [accounts, giveBack, Accounts.giveBack, Array.toList_modify]
  rw [map_modify PlatformState.deposit _ ({ · with returned := true }) fun _ => rfl]
  rfl

end World

namespace Platform

def isDisposed (w : World) (id : Nat) : Bool := (w.platforms[id]?).elim true (·.disposed)

def giveBack (id : Nat) : Binding Unit where
  effect := fun _ w =>
    match w.platforms[id]? with
    | none => (.error Failure.attributeError, w)
    | some p => if p.disposed then (.ok (), w) else (.ok (), w.giveBack id p)
  evolves _ w := by
    split
    · exact .refl _
    · rename_i p stands
      split
      · exact .refl _
      · rename_i kept
        rw [World.accounts_giveBack]
        have kept : p.deposit.returned = false := by simpa [PlatformState.deposit] using kept
        refine .single (.giveBack w.accounts id p.deposit ?_ kept)
        simp [World.accounts, stands]

def dispose (id : Nat) : Binding Unit := do
  match (← World.now).platforms[id]? with
  | none => throw Failure.attributeError
  | some p =>
    if p.disposed then pure ()
    else
      Function.disposeCXPlatformAvailability.run
        [.native (.text (p.platform.data.map Text.cString))]
      giveBack id

theorem isReturned_of_giveBack {id : Nat} {side : Side} {w v : World}
    (h : (giveBack id).exec side w = (.ok (), v)) : v.accounts.isReturned id = true := by
  rw [Accounts.isReturned_iff]
  simp only [Binding.exec, giveBack] at h
  split at h
  · cases h
  · rename_i p stands
    split at h <;> cases h
    · rename_i returned
      exact ⟨p.deposit, by simp [World.accounts, stands], returned⟩
    · rw [World.accounts_giveBack]
      simp [Accounts.giveBack, World.accounts, stands]

theorem isReturned_of_dispose {id : Nat} {side : Side} {w v : World}
    (h : (dispose id).exec side w = (.ok (), v)) : v.accounts.isReturned id = true := by
  rw [dispose, Binding.exec_bind_ok (show World.now.exec side w = (.ok w, w) from rfl)] at h
  split at h
  · cases h
  · rename_i p stands
    split at h
    · cases h
      rename_i returned
      exact Accounts.isReturned_iff.mpr ⟨p.deposit, by simp [World.accounts, stands], returned⟩
    · obtain ⟨_, u, called, given⟩ := Binding.exec_bind_cases h
      exact isReturned_of_giveBack given

end Platform

namespace Availability

def state (id : Nat) : Binding AvailabilityState :=
  return ((← World.now).availabilities[id]?).getD default

def change (id : Nat) (f : AvailabilityState → AvailabilityState)
    (h : ∀ a, (f a).listing = a.listing := by exact fun _ => rfl) : Binding Unit :=
  .update (fun w => { w with availabilities := w.availabilities.modify id f }) fun w => by
    simp only [World.accounts, Array.toList_modify]
    rw [map_modify_same _ f h]

def replace (id : Nat) (v : Value) : Binding Unit where
  effect := fun _ w =>
    (.ok (), { w with
      availabilities := w.availabilities.modify id ({ · with platforms := v, replaced := true }) })
  evolves _ w := by
    have := Move.replace w.accounts id v.entries
    simp only [World.accounts, Array.toList_modify] at this ⊢
    rw [map_modify AvailabilityState.listing _ (fun _ => ⟨v.entries, true⟩) fun _ => rfl]
    exact .single this

def disposeItem (rest : Value → Binding Unit) : Value → Binding Unit
  | .platform id => Platform.dispose id
  | v => rest v

theorem isReturned_of_forM {rest : Value → Binding Unit} {items : List Value} {side : Side}
    {w v : World} (h : (items.forM (disposeItem rest)).exec side w = (.ok (), v)) {id : Nat}
    (mem : .platform id ∈ items) : v.accounts.isReturned id = true := by
  induction items generalizing w with
  | nil => cases mem
  | cons x r ih =>
    obtain ⟨_, u, first, others⟩ := Binding.exec_bind_cases h
    cases List.mem_cons.mp mem with
    | inl here =>
      subst here
      have later := (r.forM (disposeItem rest)).exec_evolves side u
      rw [others] at later
      exact later.isReturned (Platform.isReturned_of_dispose first)
    | inr there => exact ih others there

end Availability

namespace World

def emptyListing (w : World) (id : Nat) : World :=
  { w with availabilities := w.availabilities.modify id ({ · with platforms := .list [] }) }

theorem accounts_emptyListing (w : World) (id : Nat) :
    (w.emptyListing id).accounts = { w.accounts with
      listings := w.accounts.listings.modify id ({ · with entries := [] }) } := by
  simp only [accounts, emptyListing, Array.toList_modify]
  rw [map_modify AvailabilityState.listing _ ({ · with entries := [] }) fun _ => rfl]

end World

namespace Availability

def dispose (rest : Value → Binding Unit) (id : Nat) : Binding Unit where
  effect := fun side w =>
    match w.availabilities[id]?.bind (·.platforms.items?) with
    | none => (.error Failure.typeError, w)
    | some items =>
      match (items.forM (disposeItem rest)).exec side w with
      | (.ok (), w) => (.ok (), w.emptyListing id)
      | (.error e, w) => (.error e, w)
  evolves side w := by
    split
    · exact .refl _
    · rename_i items listed
      obtain ⟨a, stands, listed⟩ := Option.bind_eq_some_iff.mp listed
      have disposed := (items.forM (disposeItem rest)).exec_evolves side w
      split <;> rename_i v e
      · rw [e] at disposed
        rw [World.accounts_emptyListing]
        refine .tail disposed (.empty _ id fun l later => ?_)
        have before : w.accounts.listings[id]? = some a.listing := by
          simp [World.accounts, stands]
        obtain ⟨l', later', kept⟩ := disposed.listing before
        cases later.symm.trans later'
        refine kept.imp_right fun kept i mem => ?_
        cases kept with
        | inl same =>
          rw [same] at mem
          exact isReturned_of_forM e (Value.mem_items_of_mem_entries listed mem)
        | inr empty =>
          rw [empty] at mem
          cases mem
      · rw [e] at disposed
        exact disposed

end Availability

namespace Value

/-- So deep may values hold one another that are shown, compared or disposed of. -/
def deepest : Nat := 670

def disposeWithin : Nat → Value → Binding Unit
  | _, .handle h => h.dispose
  | _, .platform id => Platform.dispose id
  | 0, _ => throw (.plain .recursion)
  | depth + 1, .diagnostics items _ => items.forM (disposeWithin depth)
  | depth + 1, .availability id => Availability.dispose (disposeWithin depth) id
  | _, _ => throw Failure.attributeError

def dispose (v : Value) : Binding Unit := v.disposeWithin deepest

def canEnter : Value → Bool
  | .handle _ | .diagnostics _ _ | .availability _ | .stream .. => true
  | _ => false

def leave : Value → Binding Unit
  | .stream .. => pure ()
  | v => if v.canEnter then v.dispose else throw Failure.typeError

end Value

namespace Binding

def releasing (h : Handle) (m : Binding α) : Binding α := andFinally m h.dispose

end Binding

end ClangIndex
