import ClangIndex.Proofs.SessionStates

namespace ClangIndex

open Native (Side)

/-- The strings with some numbers are alive, and all others were given back once. -/
structure Ledger.Owns (l : Ledger) (ks : List Nat) : Prop where
  alive : l.alive.Perm ks
  older : ∀ k ∈ ks, k < l.made
  distinct : ks.Nodup
  once : l.twice = 0
  balance : l.made = l.disposed + ks.length

namespace Ledger.Owns

variable {l : Ledger} {ks js : List Nat}

theorem empty : Owns {} [] where
  alive := .refl _
  older _ m := nomatch m
  distinct := .nil
  once := rfl
  balance := rfl

theorem perm (h : l.Owns ks) (p : ks.Perm js) : l.Owns js where
  alive := h.alive.trans p
  older k m := h.older k (p.mem_iff.mpr m)
  distinct := p.nodup_iff.mp h.distinct
  once := h.once
  balance := p.length_eq ▸ h.balance

theorem pass (h : l.Owns ks) (n : Nat) : (l.pass n).Owns ks where
  alive := h.alive
  older k m := Nat.lt_add_right n (h.older k m)
  distinct := h.distinct
  once := h.once
  balance := by
    have := h.balance
    simp only [Ledger.pass]
    omega

theorem make (h : l.Owns ks) : l.make.Owns (l.made :: ks) where
  alive := h.alive.cons l.made
  older k m := by
    cases List.mem_cons.mp m with
    | inl e => exact e ▸ Nat.lt_succ_self _
    | inr m => exact Nat.lt_succ_of_lt (h.older k m)
  distinct := List.nodup_cons.mpr ⟨fun m => Nat.lt_irrefl _ (h.older _ m), h.distinct⟩
  once := h.once
  balance := by
    have := h.balance
    simp only [Ledger.make, List.length_cons]
    omega

theorem dispose {n : Nat} (h : l.Owns (n :: ks)) : (l.dispose n).Owns ks := by
  have mem : n ∈ l.alive := h.alive.mem_iff.mpr List.mem_cons_self
  rw [Ledger.dispose, if_pos mem]
  exact {
    alive := by simpa using h.alive.erase n
    older := fun k m => h.older k (List.mem_cons_of_mem n m)
    distinct := (List.nodup_cons.mp h.distinct).2
    once := h.once
    balance := by
      have := h.balance
      simp only [List.length_cons] at this
      simp only
      omega }

theorem dispose? {n : Option Nat} (h : l.Owns (n.toList ++ ks)) : (l.dispose? n).Owns ks := by
  cases n with
  | none => exact h
  | some n => exact h.dispose

end Ledger.Owns

def Deposit.strings (d : Deposit) : List Nat :=
  if d.returned then [] else d.platform.toList ++ d.message.toList

theorem perm_flatMap_modify {α β : Type} {f : α → List β} {g : α → α} {xs : List α} {i : Nat}
    {x : α} (e : xs[i]? = some x) (h : f (g x) = []) :
    (xs.flatMap f).Perm (f x ++ (xs.modify i g).flatMap f) := by
  induction xs generalizing i with
  | nil => cases e
  | cons y r ih =>
    cases i with
    | zero =>
      cases e
      simp [h]
    | succ i =>
      have := (ih e).append_left (f y)
      simp only [List.modify_succ_cons, List.flatMap_cons]
      exact this.trans (List.perm_append_comm_assoc ..)

namespace Accounts

def keptStrings (a : Accounts) : List Nat := a.deposits.flatMap Deposit.strings

/-- Each entry that was not given back is listed, unless callers put something else in the place of
the list. -/
def Listed (a : Accounts) : Prop :=
  ∀ (i : Nat) (d : Deposit), a.deposits[i]? = some d → d.returned = false →
    ∃ (j : Nat) (l : Listing), a.listings[j]? = some l ∧ (l.replaced = true ∨ i ∈ l.entries)

end Accounts

theorem Move.owns {a b : Accounts} (move : Move a b)
    (h : a.meddled = false → a.strings.Owns a.keptStrings) (free : b.meddled = false) :
    b.strings.Owns b.keptStrings := by
  cases move with
  | meddle => cases free
  | copy n => exact (h free).pass n
  | deposit =>
    -- The new strings stand first in the ledger, and last among the deposits.
    refine (h free).make.make.perm ?_
    have back : ([a.strings.made + 1, a.strings.made] ++ a.keptStrings).Perm
        (a.keptStrings ++ [a.strings.made + 1, a.strings.made]) :=
      List.perm_append_comm
    simpa [Accounts.keptStrings, Deposit.strings, Ledger.make] using
      back.trans ((List.Perm.swap _ _ []).append_left _)
  | blank => simpa [Accounts.keptStrings, Deposit.strings] using h free
  | giveBack i d stands kept =>
    have split := perm_flatMap_modify (f := Deposit.strings) (g := ({ · with returned := true }))
      stands rfl
    have given := (h free).perm split
    rw [Deposit.strings, kept, if_neg Bool.false_ne_true, List.append_assoc] at given
    exact given.dispose?.dispose?
  | _ => exact h free

theorem Move.listed {a b : Accounts} (move : Move a b) (h : a.Listed) : b.Listed := by
  intro i d e kept
  cases move with
  | list n =>
    obtain ⟨j, l, at_, k⟩ := h i d e kept
    exact ⟨j, l, getElem?_append_of_some at_ _, k⟩
  | deposit listed | blank listed =>
    by_cases old : i < a.deposits.length
    · exact h i d (by simpa [List.getElem?_append_left old] using e) kept
    · have new := (List.getElem?_eq_some_iff.mp e).1
      simp only [List.length_append, List.length_singleton] at new
      have last : i = a.deposits.length := by omega
      obtain ⟨l, m, k⟩ := List.any_eq_true.mp listed
      obtain ⟨j, bound, rfl⟩ := List.mem_iff_getElem.mp m
      refine ⟨j, _, List.getElem?_eq_getElem bound, .inr ?_⟩
      simp only [Bool.and_eq_true, List.contains_iff_mem] at k
      exact last ▸ k.2
  | giveBack j x stands =>
    by_cases same : j = i
    · subst same
      simp [Accounts.giveBack, stands] at e
      simp [← e] at kept
    · exact h i d (by simpa [Accounts.giveBack, same] using e) kept
  | empty j returned =>
    obtain ⟨k, l, at_, listed⟩ := h i d e kept
    by_cases same : j = k
    · subst same
      have replaced : l.replaced = true := by
        cases listed with
        | inl r => exact r
        | inr mem =>
          -- The list is emptied only after its entries were returned, and this one was not.
          refine (returned l at_).resolve_right fun all => ?_
          obtain ⟨d', e', r⟩ := Accounts.isReturned_iff.mp (all i mem)
          cases e.symm.trans e'
          simp [r] at kept
      exact ⟨j, { l with entries := [] }, by simp [at_], .inl replaced⟩
    · exact ⟨k, l, by simpa [same] using at_, listed⟩
  | replace j entries =>
    obtain ⟨k, l, at_, listed⟩ := h i d e kept
    by_cases same : j = k
    · subst same
      exact ⟨j, ⟨entries, true⟩, by simp [at_], .inl rfl⟩
    · exact ⟨k, l, by simpa [same] using at_, listed⟩
  | meddle strings j f keeps =>
    obtain ⟨x, stands, same⟩ : ∃ x, a.deposits[i]? = some x ∧ x.returned = d.returned := by
      rw [List.getElem?_modify] at e
      obtain ⟨x, stands, rfl⟩ := Option.map_eq_some_iff.mp e
      by_cases c : j = i <;> exact ⟨x, stands, by simp [c, keeps]⟩
    exact h i x stands (same.trans kept)
  | _ => exact h i d e kept

def PlatformState.strings (p : PlatformState) : List Nat :=
  if p.disposed then [] else p.platform.serial.toList ++ p.message.serial.toList

def World.keptStrings (w : World) : List Nat := w.platforms.toList.flatMap PlatformState.strings

theorem World.keptStrings_accounts (w : World) : w.accounts.keptStrings = w.keptStrings := by
  simp only [Accounts.keptStrings, World.accounts, List.flatMap_map]
  rfl

def AvailabilityState.settled (a : AvailabilityState) : Bool :=
  match a.platforms with
  | .list [] => !a.replaced
  | _ => false

theorem AvailabilityState.listing_of_settled {a : AvailabilityState} (h : a.settled = true) :
    a.listing = ⟨[], false⟩ := by
  unfold settled at h
  split at h
  · rename_i e
    simp_all [listing, Value.entries, Value.items?]
  · cases h

theorem keptStrings_of_settled {w : World} (listed : w.accounts.Listed)
    (h : ∀ a ∈ w.availabilities, a.settled = true) : w.accounts.keptStrings = [] := by
  refine List.flatMap_eq_nil_iff.mpr fun d m => ?_
  obtain ⟨i, bound, e⟩ := List.mem_iff_getElem.mp m
  by_cases returned : d.returned = true
  · simp [Deposit.strings, returned]
  · have kept : d.returned = false := by simpa using returned
    obtain ⟨j, l, at_, k⟩ := listed i d (e ▸ List.getElem?_eq_getElem bound) kept
    obtain ⟨a, stands, rfl⟩ : ∃ a, w.availabilities[j]? = some a ∧ a.listing = l := by
      simpa [World.accounts] using at_
    rw [AvailabilityState.listing_of_settled (h a (Array.mem_of_getElem? stands))] at k
    simp at k

namespace Session

theorem owns_of_mem_states {side : Side} {steps : List Step} {w : World}
    (m : w ∈ states side steps) (free : w.meddled = false) : w.strings.Owns w.keptStrings :=
  w.keptStrings_accounts ▸ (evolves_of_mem_states m).keeps
    (p := fun a => a.meddled = false → a.strings.Owns a.keptStrings) (fun _ _ => Move.owns)
    (fun _ => .empty) free

theorem listed_of_mem_states {side : Side} {steps : List Step} {w : World}
    (m : w ∈ states side steps) : w.accounts.Listed :=
  (evolves_of_mem_states m).keeps (fun _ _ => Move.listed) fun _ _ e => nomatch e

/-- Unless callers meddled with the strings of entries, those that are alive are the strings of the
entries that were not disposed of, and no string was given back twice. Once all availabilities are
settled, all strings were given back. -/
theorem strings_owned (side : Side) (steps : List Step) :
    (∀ w ∈ states side steps, w.meddled = false →
      w.strings.twice = 0 ∧ w.strings.alive.Perm w.keptStrings ∧ w.strings.alive.Nodup ∧
        w.strings.made = w.strings.disposed + w.strings.alive.length) ∧
    ((run side steps).2.meddled = false →
      (∀ a ∈ (run side steps).2.availabilities, a.settled = true) →
      (run side steps).2.strings.made = (run side steps).2.strings.disposed ∧
        (run side steps).2.strings.twice = 0) := by
  constructor
  · intro w m free
    have owns := owns_of_mem_states m free
    exact ⟨owns.once, owns.alive, owns.alive.nodup_iff.mpr owns.distinct,
      owns.alive.length_eq ▸ owns.balance⟩
  · intro free settled
    have m := run_mem_states side steps
    have owns := owns_of_mem_states m free
    have none_kept := keptStrings_of_settled (listed_of_mem_states m) settled
    rw [World.keptStrings_accounts] at none_kept
    rw [none_kept] at owns
    exact ⟨by simpa using owns.balance, owns.once⟩

def onePlatform : Side where
  answer _ c := match c.function with
    | .getCursorPlatformAvailability => { result := .int 1, platforms := [{}] }
    | _ => {}

def disposing (between : List Step) : List Step :=
  .mk (.call "platform_availability" (.plain (.cursor ⟨"c", none⟩)) [] []) (some "info") ::
    between ++ [.mk (.call "dispose" (.register "info") [] []) none]

theorem strings_owned_disposing :
    (∀ a ∈ (run onePlatform (disposing [])).2.availabilities, a.settled = true) ∧
      (run onePlatform (disposing [])).2.strings.made = 2 ∧
      (run onePlatform (disposing [])).2.strings.disposed = 2 ∧
      (run onePlatform (disposing [])).2.strings.alive.Perm
        (run onePlatform (disposing [])).2.keptStrings := by
  have settled : ∀ a ∈ (run onePlatform (disposing [])).2.availabilities, a.settled = true := by
    decide +kernel
  have made : (run onePlatform (disposing [])).2.strings.made = 2 := by decide +kernel
  have free : (run onePlatform (disposing [])).2.meddled = false := by decide +kernel
  have given := ((strings_owned onePlatform (disposing [])).2 free settled).1
  have kept := (strings_owned onePlatform (disposing [])).1 _ (run_mem_states ..) free
  exact ⟨settled, made, given ▸ made, kept.2.1⟩

def forgetting : List Step := [.mk (.assign "platforms" (.register "info") (.list [])) none]

def consuming : List Step := [
  .mk (.read "platforms" (.register "info")) (some "platforms"),
  .mk (.item (.register "platforms") (.plain (.int 0))) (some "entry"),
  .mk (.read "Platform" (.register "entry")) (some "string"),
  .mk (.call "consume" (.register "string") [] []) none]

/-- Entries that callers took out of the list are not disposed of with the availability, and a
string that they gave back is given back twice, though no step fails and no other availability was
asked for. -/
theorem strings_lost_by_callers :
    (((run onePlatform (disposing forgetting)).1 ++ (run onePlatform (disposing consuming)).1).all
        fun e => (e.outcome.get? "error").isNone) = true ∧
      (run onePlatform (disposing forgetting)).2.availabilities.size = 1 ∧
      (run onePlatform (disposing forgetting)).2.strings.made = 2 ∧
      (run onePlatform (disposing forgetting)).2.strings.disposed = 0 ∧
      (run onePlatform (disposing consuming)).2.strings.twice = 1 := by
  decide +kernel

end Session

end ClangIndex
