import ClangIndex.Proofs.SessionStates

namespace ClangIndex

open Native (Argument CType Function HandleClass Side)

def Role.cls? : Role → Option HandleClass
  | .plain => none
  | .unit .. => some .translationUnit
  | .diagnostic _ => some .diagnostic
  | .tokens .. => some .tokens
  | .overridden .. => some .overriddenCursors
  | .completions _ => some .codeCompleteResults
  | .commands _ => some .compileCommands
  | .command _ => some .compileCommand

theorem Role.cls_of_fits {r : Role} {c d : HandleClass} (fits : r.fits c = true)
    (e : r.cls? = some d) : c = d := by
  cases r <;> cases e <;> cases c <;> first | rfl | cases fits

theorem World.fits_of_handle? {w : World} {h : Handle} {s : HandleState}
    (e : w.handle? h = some s) : s.role.fits h.cls = true := by
  obtain ⟨-, cls⟩ := Option.filter_eq_some_iff.mp e
  have cls : s.cls = h.cls := by simpa using cls
  exact cls ▸ s.fits

namespace Handle

variable {w : World} {h o : Handle}

/-- An object can be used while neither it nor what it belongs to is disposed of. -/
def Usable (w : World) (h : Handle) : Prop :=
  w.isDisposed h = false ∧ ∀ o, (w.role h).owner = some o → w.isDisposed o = false

theorem obstacle_of_owner (own : (w.role h).owner = some o) (gone : w.isDisposed o = true) :
    h.obstacle w = some (.ownerDisposed o.cls) := by
  simp [obstacle, own, gone, Option.filter]

theorem obstacle_of_disposed (own : ∀ o, (w.role h).owner = some o → w.isDisposed o = false)
    (gone : w.isDisposed h = true) : h.obstacle w = some (.disposed h.cls) := by
  unfold obstacle
  cases e : (w.role h).owner with
  | none => simp [gone]
  | some o => simp [Option.filter, own o e, gone]

theorem cls_of_role {c : HandleClass} (e : (w.role h).cls? = some c) : h.cls = c := by
  unfold World.role at e
  cases stands : w.handle? h with
  | none => simp [stands, Role.cls?] at e
  | some s =>
    rw [stands, Option.map_some, Option.getD_some] at e
    exact Role.cls_of_fits (World.fits_of_handle? stands) e

theorem cls_of_owner (own : (w.role h).owner = some o) : h.cls = .diagnostic := by
  cases role : w.role h with
  | diagnostic => exact cls_of_role (by rw [role]; rfl)
  | _ => rw [role] at own; cases own

end Handle

namespace Actual

variable {w : World} {ts : List CType} {actuals before after : List Actual}

def argument? (w : World) (t : CType) : Actual → Option Argument
  | .value v => v.argument? w t
  | .native a => some a

theorem objects_append (before after : List Actual) :
    objects (before ++ after) = objects before ++ objects after := by
  induction before with
  | nil => rfl
  | cons x r ih =>
    cases x with
    | native a => exact ih
    | value v => cases v <;> simp [objects, ih]

theorem obstacle_eq_none :
    obstacle w actuals = none ↔ ∀ h ∈ objects actuals, h.Usable w := by
  simp only [obstacle, List.findSome?_eq_none_iff, Handle.obstacle_eq_none, Handle.Usable]

theorem obstacle_of_first {h : Handle} (clear : ∀ k ∈ objects before, k.Usable w) :
    obstacle w (before ++ .value (.handle h) :: after) =
      (h.obstacle w).or (obstacle w after) := by
  have none_before : (objects before).findSome? (Handle.obstacle w) = none :=
    obstacle_eq_none.mpr clear
  simp only [obstacle, objects_append, objects, List.findSome?_append, none_before, Option.none_or,
    List.findSome?_cons]
  cases h.obstacle w <;> rfl

theorem map_some_of_convert {arguments : List Argument} (n : actuals.length = ts.length)
    (e : convert w ts actuals = some arguments) :
    ts.zipWith (argument? w) actuals = arguments.map some := by
  induction actuals generalizing ts arguments with
  | nil =>
    cases ts with
    | nil => cases e; rfl
    | cons => cases n
  | cons x r ih =>
    cases ts with
    | nil => cases n
    | cons t ts =>
      have len : r.length = ts.length := Nat.succ.inj n
      cases x with
      | value v =>
        obtain ⟨a, first, e⟩ := Option.bind_eq_some_iff.mp e
        obtain ⟨as, others, e⟩ := Option.bind_eq_some_iff.mp e
        cases e
        simp [argument?, first, ih len others]
      | native a =>
        obtain ⟨as, others, e⟩ := Option.bind_eq_some_iff.mp e
        cases e
        simp [argument?, ih len others]

theorem none_mem_of_convert (n : actuals.length = ts.length) (e : convert w ts actuals = none) :
    none ∈ ts.zipWith (argument? w) actuals := by
  induction actuals generalizing ts with
  | nil => cases ts <;> cases e
  | cons x r ih =>
    cases ts with
    | nil => cases n
    | cons t ts =>
      have len : r.length = ts.length := Nat.succ.inj n
      cases x with
      | value v =>
        cases first : v.argument? w t with
        | none => simp [argument?, first]
        | some a =>
          cases others : convert w ts r with
          | none => exact List.mem_cons_of_mem _ (ih len others)
          | some as => simp [convert, first, others] at e
      | native a =>
        cases others : convert w ts r with
        | none => exact List.mem_cons_of_mem _ (ih len others)
        | some as => simp [convert, others] at e

end Actual

namespace Native.Function

variable {f : Function} {holder : Option Handle} {actuals after : List Actual} {side : Side}
  {w : World}

theorem perform_unusable (before : List Actual) {h : Handle} {e : Failure}
    (clear : ∀ k ∈ Actual.objects before, k.Usable w) (spent : h.obstacle w = some e) :
    f.perform holder (before ++ .value (.handle h) :: after) side w = (.error e, w) := by
  simp [perform, Actual.obstacle_of_first clear, spent]

theorem perform_unfit (n : actuals.length = f.inputs.length)
    (clear : ∀ k ∈ Actual.objects actuals, k.Usable w)
    (unfit : none ∈ f.inputs.zipWith (Actual.argument? w) actuals) :
    f.perform holder actuals side w = (.error Failure.argumentError, w) := by
  cases e : Actual.convert w f.inputs actuals with
  | none => simp [perform, Actual.obstacle_eq_none.mpr clear, e]
  | some arguments =>
    rw [Actual.map_some_of_convert n e] at unfit
    simp at unfit

theorem perform_fit (n : actuals.length = f.inputs.length)
    (clear : ∀ k ∈ Actual.objects actuals, k.Usable w)
    (fit : none ∉ f.inputs.zipWith (Actual.argument? w) actuals) :
    ∃ arguments : List Argument,
      f.inputs.zipWith (Actual.argument? w) actuals = arguments.map some ∧
      f.perform holder actuals side w =
        (.ok (⟨f, arguments⟩, side.answer w.calls ⟨f, arguments⟩),
          { w with dealings := Actual.dealing w ⟨f, arguments⟩ holder actuals :: w.dealings }) := by
  cases e : Actual.convert w f.inputs actuals with
  | none => exact absurd (Actual.none_mem_of_convert n e) fit
  | some arguments =>
    exact ⟨arguments, Actual.map_some_of_convert n e,
      by simp [perform, Actual.obstacle_eq_none.mpr clear, e]⟩

end Native.Function

def Accounts.Checked (a : Accounts) : Prop :=
  ∀ d ∈ a.dealings, (∀ p ∈ d.arguments, p.usable = true) ∧
    ∀ p ∈ d.holder, p.usable = true ∨ d.releases p.handle = true

theorem Move.checked {a b : Accounts} (move : Move a b) (inv : a.Checked) : b.Checked := by
  cases move with
  | call d usable =>
    intro d' m
    cases List.mem_cons.mp m with
    | inr m => exact inv d' m
    | inl e =>
      subst e
      exact ⟨fun p mp => (usable p (List.mem_append_left _ mp)).1, fun p mp =>
        .inl (usable p (List.mem_append_right _ (Option.mem_toList.mpr mp))).1⟩
  | release h s stands live owned d usable holder function =>
    intro d' m
    cases List.mem_cons.mp m with
    | inr m => exact inv d' m
    | inl e =>
      subst e
      refine ⟨fun p mp => (usable p mp).1, fun p mp => .inr ?_⟩
      rw [holder, Option.mem_some_iff] at mp
      subst mp
      simp [Dealing.releases, Dealing.clients, holder,
        Native.HandleClass.releases_of_release? function]
  | _ => exact inv

theorem Move.later {a b : Accounts} (move : Move a b) :
    ∃ new, b.dealings = new ++ a.dealings ∧
      ∀ d ∈ new, ∀ p ∈ d.parties, ¬a.Spent p.handle := by
  cases move with
  | call d usable =>
    refine ⟨[d], rfl, fun d' m p mp => ?_⟩
    cases List.mem_singleton.mp m
    exact (usable p mp).2
  | release h s stands live owned d usable holder function =>
    refine ⟨[d], rfl, fun d' m p mp => ?_⟩
    cases List.mem_singleton.mp m
    cases List.mem_append.mp mp with
    | inl argument =>
      -- The unit of a token array was looked at after the array was retired.
      have retired := Evolution.single
        (.retire a h s stands (Accounts.live_of_not_spent live stands))
      exact fun spent => (usable p argument).2 (retired.spent spent)
    | inr inside =>
      rw [holder, Option.toList_some, List.mem_singleton] at inside
      subst inside
      exact live
  | _ => exact ⟨[], rfl, fun _ m => nomatch m⟩

theorem Evolution.later {a b : Accounts} (k : Evolution a b) :
    ∃ new, b.dealings = new ++ a.dealings ∧
      ∀ d ∈ new, ∀ p ∈ d.parties, ¬a.Spent p.handle := by
  induction k with
  | refl => exact ⟨[], rfl, fun _ m => nomatch m⟩
  | tail before move ih =>
    obtain ⟨new, made, unspent⟩ := ih
    obtain ⟨last, made', unspent'⟩ := move.later
    refine ⟨last ++ new, by rw [made', made, List.append_assoc], fun d m p mp => ?_⟩
    cases List.mem_append.mp m with
    | inl m => exact fun spent => unspent' d m p mp (before.spent spent)
    | inr m => exact unspent d m p mp

namespace World

theorem spent_of_handle? {w : World} {h : Handle} {s : HandleState} (e : w.handle? h = some s)
    (gone : s.held = none ∨
      ∃ o t, s.role.owner = some o ∧ w.handle? o = some t ∧ t.held = none) :
    w.accounts.Spent h := by
  refine ⟨s.standing, by simp [standing?_accounts, e], ?_⟩
  rcases gone with held | ⟨o, t, own, stands, held⟩
  · exact .inl (by simp [held])
  · exact .inr ⟨o, t.standing, own, by simp [standing?_accounts, stands], by simp [held]⟩

theorem Evolves.later {u v : World} (k : u.Evolves v) :
    ∃ new, v.dealings = new ++ u.dealings ∧
      ∀ d ∈ new, ∀ p ∈ d.parties, ∀ s, u.handle? p.handle = some s →
        s.held ≠ none ∧ ∀ o t, s.role.owner = some o → u.handle? o = some t → t.held ≠ none := by
  obtain ⟨new, made, unspent⟩ := Evolution.later k
  refine ⟨new, made, fun d m p mp s e => ⟨fun held => ?_, fun o t own stands held => ?_⟩⟩
  · exact unspent d m p mp (spent_of_handle? e (.inl held))
  · exact unspent d m p mp (spent_of_handle? e (.inr ⟨o, t, own, stands, held⟩))

end World

namespace Session

/-- A call fails for the first object that cannot be used, else for a value that does not fit, and
nothing else happens then; else it is made once. In a session all calls were made for objects that
could be used, save one that was released, and what is disposed of has no part in later calls. -/
theorem calls_checked (side : Side) (steps : List Step) :
    (∀ (f : Function) (holder : Option Handle) (actuals : List Actual) (w : World),
      actuals.length = f.inputs.length →
      (∀ before h after, actuals = before ++ .value (.handle h) :: after →
        (∀ k ∈ Actual.objects before, k.Usable w) →
        (∀ o, (w.role h).owner = some o → w.isDisposed o = true → h.cls = .diagnostic ∧
          f.perform holder actuals side w = (.error (.ownerDisposed o.cls), w)) ∧
        ((∀ o, (w.role h).owner = some o → w.isDisposed o = false) → w.isDisposed h = true →
          f.perform holder actuals side w = (.error (.disposed h.cls), w))) ∧
      ((∀ k ∈ Actual.objects actuals, k.Usable w) →
        (none ∈ f.inputs.zipWith (Actual.argument? w) actuals →
          f.perform holder actuals side w = (.error Failure.argumentError, w)) ∧
        (none ∉ f.inputs.zipWith (Actual.argument? w) actuals →
          ∃ arguments : List Argument,
            f.inputs.zipWith (Actual.argument? w) actuals = arguments.map some ∧
            f.perform holder actuals side w =
              (.ok (⟨f, arguments⟩, side.answer w.calls ⟨f, arguments⟩),
                { w with
                  dealings := Actual.dealing w ⟨f, arguments⟩ holder actuals :: w.dealings })))) ∧
    (∀ w ∈ states side steps, ∀ d ∈ w.dealings, (∀ p ∈ d.arguments, p.usable = true) ∧
      ∀ p ∈ d.holder, p.usable = true ∨ d.releases p.handle = true) ∧
    (states side steps).Pairwise fun u v =>
      ∃ new, v.dealings = new ++ u.dealings ∧
        ∀ d ∈ new, ∀ p ∈ d.parties, ∀ s, u.handle? p.handle = some s →
          s.held ≠ none ∧ ∀ o t, s.role.owner = some o → u.handle? o = some t → t.held ≠ none := by
  refine ⟨fun f holder actuals w n => ⟨fun before h after e clear => ?_, fun clear => ?_⟩, ?_, ?_⟩
  · subst e
    refine ⟨fun o own gone => ⟨Handle.cls_of_owner own, ?_⟩, fun own gone => ?_⟩
    · exact Function.perform_unusable before clear (Handle.obstacle_of_owner own gone)
    · exact Function.perform_unusable before clear (Handle.obstacle_of_disposed own gone)
  · exact ⟨Function.perform_unfit n clear, Function.perform_fit n clear⟩
  · exact fun w m => (evolves_of_mem_states m).keeps (fun _ _ => Move.checked)
      (fun _ m => nomatch m)
  · exact (pairwise_states side steps).imp fun k => World.Evolves.later k

def withoutIndex : List Step := [
  .mk (.make "Index" [] []) (some "index"),
  .mk (.make "CursorSet" [] []) none,
  .mk (.call "dispose" (.register "index") [] []) none]

def indexGone : World := (run {} withoutIndex).2

theorem calls_checked_without_index :
    Function.cxCursorSetInsert.perform none [.value (.handle ⟨.index, 0⟩), .value (.int 3)] {}
        indexGone = (.error (.disposed .index), indexGone) ∧
      Function.cxCursorSetInsert.perform none
        [.value (.handle ⟨.cursorSet, 1⟩), .value (.int 3)] {} indexGone =
          (.error Failure.argumentError, indexGone) ∧
      (∃ r v, Function.cxCursorSetInsert.perform none
        [.value (.handle ⟨.cursorSet, 1⟩), .value (.cursor ⟨"c", none⟩)] {} indexGone =
          (.ok r, v) ∧ v.dealings.length = 4) ∧
      ∀ d ∈ indexGone.dealings, ∀ p ∈ d.holder, p.usable = true ∨ d.releases p.handle = true := by
  have all := calls_checked {} withoutIndex
  have live : (Handle.mk .cursorSet 1).Usable indexGone :=
    Handle.obstacle_eq_none.mp (Option.isNone_iff_eq_none.mp (by decide +kernel))
  have clear (v : Value) (e : Actual.objects [.value v] = []) :
      ∀ k ∈ Actual.objects [.value (.handle ⟨.cursorSet, 1⟩), .value v], k.Usable indexGone := by
    intro k m
    rw [show Actual.objects [.value (.handle ⟨.cursorSet, 1⟩), .value v] =
      ⟨.cursorSet, 1⟩ :: Actual.objects [.value v] from rfl, e, List.mem_singleton] at m
    exact m ▸ live
  have shape (x y : Actual) : [x, y].length = Function.cxCursorSetInsert.inputs.length :=
    (by decide : 2 = Function.cxCursorSetInsert.inputs.length)
  refine ⟨?_, ?_, ?_, fun d m => (all.2.1 indexGone (run_mem_states {} withoutIndex) d m).2⟩
  · have first := (all.1 .cxCursorSetInsert none _ indexGone (shape _ _)).1 []
      ⟨.index, 0⟩ [.value (.int 3)] rfl (fun _ m => nomatch m)
    refine first.2 ?_ (by decide +kernel)
    intro o own
    rw [show (indexGone.role ⟨.index, 0⟩).owner = none by decide +kernel] at own
    cases own
  · have second := (all.1 .cxCursorSetInsert none _ indexGone (shape _ _)).2 (clear (.int 3) rfl)
    exact second.1 (by decide +kernel)
  · have third := (all.1 .cxCursorSetInsert none _ indexGone (shape _ _)).2
      (clear (.cursor ⟨"c", none⟩) rfl)
    obtain ⟨arguments, -, made⟩ := third.2 (by decide +kernel)
    have before : indexGone.dealings.length = 3 := by decide +kernel
    exact ⟨_, _, made, by rw [List.length_cons, before]⟩

end Session

end ClangIndex
