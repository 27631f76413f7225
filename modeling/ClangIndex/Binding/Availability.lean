import ClangIndex.Binding.Operation

namespace ClangIndex

open Native (Answer PlatformEntry)

namespace Receipt

def deposit (r : Receipt) : Deposit := ⟨r.platform.serial, r.message.serial, false⟩

theorem receiveAll_evolves (n : Nat) (es : List PlatformEntry) (a : Accounts)
    (listed : ∀ i, a.deposits.length ≤ i → i < a.deposits.length + n → a.isListed i = true) :
    Evolution a { a with
      strings := ((receiveAll n es).run a.strings).2
      deposits := a.deposits ++ ((receiveAll n es).run a.strings).1.map deposit } := by
  induction n generalizing es a with
  | zero => exact .of_eq (by simp)
  | succ n ih =>
    have here := listed a.deposits.length (Nat.le_refl _) (by omega)
    cases es with
    | nil =>
      have rest := ih [] { a with deposits := a.deposits ++ [⟨none, none, false⟩] } fun i lo hi =>
        listed i (by simp at lo; omega) (by simp at hi; omega)
      simpa [deposit] using (Evolution.single (.blank a here)).trans rest
    | cons e r =>
      have rest := ih r { a with
        strings := a.strings.make.make
        deposits := a.deposits ++ [⟨some a.strings.made, some (a.strings.made + 1), false⟩] }
        fun i lo hi => listed i (by simp at lo; omega) (by simp at hi; omega)
      simpa [deposit] using (Evolution.single (.deposit a here)).trans rest

end Receipt

namespace World

def addPlatform (w : World) (r : Receipt) : World :=
  let first := w.versions.size
  { w with
    versions := w.versions ++ #[r.entry.introduced, r.entry.deprecated, r.entry.obsoleted]
    platforms := w.platforms.push {
      platform := r.platform, introduced := first, deprecated := first + 1,
      obsoleted := first + 2, unavailable := r.entry.unavailable, message := r.message } }

theorem accounts_addPlatform (w : World) (r : Receipt) :
    (w.addPlatform r).accounts =
      { w.accounts with deposits := w.accounts.deposits ++ [r.deposit] } := by
  simp [addPlatform, accounts, PlatformState.deposit, Receipt.deposit]

theorem accounts_addPlatforms (w : World) (rs : List Receipt) :
    (rs.foldl addPlatform w).accounts =
      { w.accounts with deposits := w.accounts.deposits ++ rs.map Receipt.deposit } := by
  induction rs generalizing w with
  | nil => simp
  | cons r rs ih => simp [ih, accounts_addPlatform]

def addAvailability (w : World) (strings : Ledger) (rs : List Receipt) (a : AvailabilityState) :
    World :=
  let v := rs.foldl addPlatform { w with strings }
  { v with availabilities := v.availabilities.push a }

theorem accounts_addAvailability (w : World) (strings : Ledger) (rs : List Receipt)
    (a : AvailabilityState) :
    (w.addAvailability strings rs a).accounts =
      { w.accounts with
        strings
        deposits := w.accounts.deposits ++ rs.map Receipt.deposit
        listings := w.accounts.listings ++ [a.listing] } := by
  have kept := accounts_addPlatforms { w with strings } rs
  simp only [accounts, Accounts.mk.injEq] at kept
  simp [accounts, addAvailability, kept]

end World

namespace Availability

def isSet (first second : Option Int) : Bool :=
  Number.Width.int32.wrap ((second <|> first).getD 0) != 0

def ofAnswers (first second : Answer) (messages : String × String) (start count : Nat) :
    AvailabilityState where
  alwaysDeprecated := .bool (isSet first.alwaysDeprecated second.alwaysDeprecated)
  deprecatedMessage := .text messages.1
  alwaysUnavailable := .bool (isSet first.alwaysUnavailable second.alwaysUnavailable)
  unavailableMessage := .text messages.2
  platforms := .list ((List.range' start count).map .platform)

theorem listing_ofAnswers (first second : Answer) (messages : String × String)
    (start count : Nat) :
    (ofAnswers first second messages start count).listing = ⟨List.range' start count, false⟩ := by
  simp only [AvailabilityState.listing, ofAnswers, Value.entries, Value.items?, Option.getD_some,
    List.filterMap_map]
  rw [show _ ∘ Value.platform = some from rfl, List.filterMap_some]

def receive (count : Nat) (first second : Answer) : Binding Nat where
  effect := fun _ w =>
    let received := (Receipt.receiveWith second.deprecatedMessage second.unavailableMessage count
      second.platforms).run w.strings
    let state := ofAnswers first second received.1.1 w.platforms.size count
    (.ok w.availabilities.size, w.addAvailability received.2 received.1.2 state)
  evolves _ w := by
    obtain ⟨k, received⟩ := Receipt.run_receiveWith second.deprecatedMessage
      second.unavailableMessage count second.platforms w.strings
    obtain ⟨receipts, strings⟩ := Prod.ext_iff.mp received
    dsimp only at receipts strings
    rw [World.accounts_addAvailability, listing_ofAnswers, receipts, strings]
    have size : w.platforms.size = w.accounts.deposits.length := by simp [World.accounts]
    have copied := Evolution.single (.copy w.accounts k)
    have listed := copied.tail (.list _ count)
    refine listed.trans ?_
    have entries := Receipt.receiveAll_evolves count second.platforms
      { w.accounts with
        strings := w.accounts.strings.pass k
        listings := w.accounts.listings ++ [⟨List.range' w.accounts.deposits.length count, false⟩] }
      fun i lo hi => by
        simp [Accounts.isListed, List.mem_range'_1, show w.accounts.deposits.length ≤ i from lo,
          show i < w.accounts.deposits.length + count from hi]
    rw [size]
    exact entries

end Availability

end ClangIndex
