import ClangIndex.Proofs.CheckedCalls

namespace ClangIndex

open Native (Argument CType Function HandleClass Side)

namespace World

variable {w : World} {h k : Handle}

theorem handle?_retire_other (ne : k ≠ h) : (w.retire h).handle? k = w.handle? k := by
  simp only [handle?, retire, setHandle, Array.getElem?_modify]
  cases e : w.handles[k.id]? with
  | none => by_cases id : h.id = k.id <;> simp [id]
  | some s =>
    by_cases id : h.id = k.id
    · by_cases c : s.cls = k.cls
      · have other : ¬k.cls = h.cls := fun c' => ne (by cases k; cases h; simp_all)
        simp [id, c, other, Option.filter]
      · by_cases c' : s.cls = h.cls <;>
          simp_all [Option.filter, HandleState.emptied]
    · simp [id]

theorem isDisposed_retire_other (ne : k ≠ h) : (w.retire h).isDisposed k = w.isDisposed k := by
  simp only [isDisposed, held?, handle?_retire_other ne]

end World

namespace Handle

variable {w : World} {h : Handle} {held : Held} {f : Function} {side : Side}

theorem owner_of_unit (w : World) (n : Nat) : (w.role ⟨.translationUnit, n⟩).owner = none := by
  cases own : (w.role ⟨.translationUnit, n⟩).owner with
  | none => rfl
  | some o => cases cls_of_owner own

theorem usable_unit {n : Nat} (live : w.isDisposed ⟨.translationUnit, n⟩ = false) :
    Usable w ⟨.translationUnit, n⟩ :=
  ⟨live, fun o own => by rw [owner_of_unit] at own; cases own⟩

theorem obstacle_of_unit {n : Nat} (gone : w.isDisposed ⟨.translationUnit, n⟩ = true) :
    obstacle w ⟨.translationUnit, n⟩ = some (.disposed .translationUnit) :=
  obstacle_of_disposed (fun o own => by rw [owner_of_unit] at own; cases own) gone

theorem dispose_of_no_release (live : w.held? h = some held) (e : h.release? w held = none) :
    h.dispose.exec side w = (.ok (), w.retire h) := by
  have given : h.giveUp.exec side w = (.ok none, w.retire h) := by
    simp [Binding.exec, giveUp, live, e]
  rw [dispose, Binding.exec_bind_ok given]
  rfl

theorem dispose_of_refused {actuals : List Actual} {x : Failure}
    (live : w.held? h = some held) (e : h.release? w held = some (f, actuals))
    (refused : f.perform (some h) actuals side (w.retire h) = (.error x, w.retire h)) :
    h.dispose.exec side w = (.error x, w.retire h) := by
  have given : h.giveUp.exec side w = (.error x, w.retire h) := by
    simp [Binding.exec, giveUp, live, e, refused, Except.map]
  rw [dispose, Binding.exec_bind_error given]

theorem dispose_of_made (side : Side) {actuals : List Actual} {arguments : List Argument}
    (live : w.held? h = some held) (releases : h.cls.release? = some f)
    (e : (w.role h).returns? w h.cls (w.symbolOf held) = some actuals)
    (clear : ∀ k ∈ Actual.objects actuals, k.Usable (w.retire h))
    (fit : Actual.convert (w.retire h) f.inputs actuals = some arguments) :
    ∃ d v, h.dispose.exec side w = (.ok (), v) ∧ v.isDisposed h = true ∧
      v.dealings = d :: w.dealings ∧ d.call = ⟨f, arguments⟩ ∧ d.releases h = true := by
  have release : h.release? w held = some (f, actuals) := by simp [release?, releases, e]
  let d := Actual.dealing (w.retire h) ⟨f, arguments⟩ (some h) actuals
  let v : World := { w.retire h with dealings := d :: (w.retire h).dealings }
  have made : f.perform (some h) actuals side (w.retire h) =
      (.ok (⟨f, arguments⟩, side.answer (w.retire h).calls ⟨f, arguments⟩), v) := by
    simp [Function.perform, Actual.obstacle_eq_none.mpr clear, fit, v, d]
  have given : h.giveUp.exec side w = (.ok (some f), v) := by
    simp [Binding.exec, giveUp, live, release, made, Except.map]
  have released : d.releases h = true := by
    simp [d, Dealing.releases, Dealing.clients, Actual.dealing, party,
      HandleClass.releases_of_release? releases]
  have ended : ∃ records, h.dispose.exec side w = (.ok (), { v with records }) := by
    rw [dispose, Binding.exec_bind_ok given]
    split
    · exact ⟨_, rfl⟩
    · exact ⟨_, rfl⟩
    · exact ⟨_, rfl⟩
  obtain ⟨records, ended⟩ := ended
  exact ⟨d, _, ended, w.isDisposed_retire h, rfl, rfl, released⟩

end Handle

def Role.keeper? : Role → Option Handle
  | .diagnostic owner => owner
  | .tokens u _ _ => some ⟨.translationUnit, u⟩
  | _ => none

def World.symbol? (w : World) (h : Handle) : Option Symbol := (w.held? h).bind w.symbolOf

namespace Handle

def isEmpty (w : World) (h : Handle) : Bool :=
  (w.symbol? h).isNone && (h.cls.emptyWhenNull || h.cls == .tokens)

def returned (w : World) (h : Handle) : List Argument :=
  match w.role h with
  | .tokens u count _ =>
    [.handle (w.symbol? ⟨.translationUnit, u⟩), .handle (w.symbol? h), .int count]
  | _ => [.handle (w.symbol? h)]

variable {w : World} {h : Handle} {held : Held} {f : Function} {side : Side}

/-- The ways in which disposing of an object ends: nothing is to be given back, a token array
outlived its unit, or what the object held is given back. -/
inductive Disposal (side : Side) (w : World) (h : Handle) : Prop
  | empty (empty : h.isEmpty w = true) (done : h.dispose.exec side w = (.ok (), w.retire h))
  | left (o : Handle) (keeper : (w.role h).keeper? = some o) (gone : w.isDisposed o = true)
      (holds : h.isEmpty w = false) (other : h.cls ≠ .tokens)
      (done : h.dispose.exec side w = (.ok (), w.retire h))
  | stuck (o : Handle) (keeper : (w.role h).keeper? = some o) (gone : w.isDisposed o = true)
      (holds : h.isEmpty w = false) (tokens : h.cls = .tokens)
      (failed : h.dispose.exec side w = (.error (.disposed .translationUnit), w.retire h))
  | given (holds : h.isEmpty w = false)
      (kept : ∀ o, (w.role h).keeper? = some o → w.isDisposed o = false)
      (f : Function) (releases : h.cls.release? = some f) (d : Dealing) (v : World)
      (done : h.dispose.exec side w = (.ok (), v)) (disposed : v.isDisposed h = true)
      (made : v.dealings = d :: w.dealings) (call : d.call = ⟨f, h.returned w⟩)
      (client : d.releases h = true)

def actualsOfTokens (u : Nat) (array : Symbol) (count : Nat) : List Actual := [
  .value (.handle ⟨.translationUnit, u⟩), .native (.handle (some array)), .native (.int count)]

section

variable {u count : Nat} {items : List Symbol} {array : Symbol}

theorem returns?_of_tokens (role : w.role h = .tokens u count items) :
    (w.role h).returns? w h.cls (some array) = some (actualsOfTokens u array count) := by
  rw [role]
  rfl

theorem convert_actualsOfTokens (cls : h.cls = .tokens) (role : w.role h = .tokens u count items)
    (symbol : w.symbol? h = some array) :
    Actual.convert (w.retire h) Function.disposeTokens.inputs (actualsOfTokens u array count) =
      some (h.returned w) := by
  have other : (⟨.translationUnit, u⟩ : Handle) ≠ h := fun c => by
    rw [← c] at cls
    cases cls
  have unit : ((w.retire h).held? ⟨.translationUnit, u⟩).bind (w.retire h).symbolOf =
      w.symbol? ⟨.translationUnit, u⟩ := by
    rw [World.held?, World.handle?_retire_other other]
    rfl
  have returned : h.returned w =
      [.handle (w.symbol? ⟨.translationUnit, u⟩), .handle (some array), .int count] := by
    rw [returned, role, symbol]
  rw [returned, ← unit]
  rfl

theorem disposal_tokens (live : w.held? h = some held) (role : w.role h = .tokens u count items) :
    Disposal side w h := by
  have cls : h.cls = .tokens := cls_of_role (by rw [role]; rfl)
  have releases : h.cls.release? = some .disposeTokens := by rw [cls]; rfl
  have keeper : (w.role h).keeper? = some ⟨.translationUnit, u⟩ := by rw [role]; rfl
  have symbol : w.symbol? h = w.symbolOf held := by simp [World.symbol?, live]
  -- The array is retired before the call is checked; that is nothing to its unit.
  have stands : (w.retire h).isDisposed ⟨.translationUnit, u⟩ =
      w.isDisposed ⟨.translationUnit, u⟩ :=
    World.isDisposed_retire_other fun c => by rw [← c] at cls; cases cls
  cases array : w.symbolOf held with
  | none =>
    refine .empty (by simp [isEmpty, symbol, array, cls]) (dispose_of_no_release live ?_)
    simp [release?, Role.returns?, role, array]
  | some a =>
    have holds : h.isEmpty w = false := by simp [isEmpty, symbol, array]
    have e : (w.role h).returns? w h.cls (w.symbolOf held) = some (actualsOfTokens u a count) :=
      array ▸ returns?_of_tokens role
    cases gone : w.isDisposed ⟨.translationUnit, u⟩ with
    | true =>
      have release : h.release? w held = some (.disposeTokens, actualsOfTokens u a count) := by
        simp [release?, releases, e]
      refine .stuck _ keeper gone holds cls (dispose_of_refused live release ?_)
      exact Function.perform_unusable [] (fun _ m => nomatch m)
        (obstacle_of_unit (stands.trans gone))
    | false =>
      have clear : ∀ k ∈ Actual.objects (actualsOfTokens u a count), k.Usable (w.retire h) := by
        intro k m
        cases List.mem_singleton.mp m
        exact usable_unit (stands.trans gone)
      obtain ⟨d, v, done, disposed, made, call, client⟩ := dispose_of_made side live releases e
        clear (convert_actualsOfTokens cls role (symbol.trans array))
      exact .given holds (fun o k => by cases keeper.symm.trans k; exact gone) _ releases d v
        done disposed made call client

end

theorem returns?_of_not_tokens {s : Option Symbol} (other : h.cls ≠ .tokens)
    (owned : (w.role h).borrowed = false)
    (own : ∀ o, (w.role h).owner = some o → w.isDisposed o = false) :
    (w.role h).returns? w h.cls s =
      if s.isNone && h.cls.emptyWhenNull then none else some [.native (.handle s)] := by
  have kept : (w.role h).owner.any w.isDisposed = false := by
    cases e : (w.role h).owner with
    | none => rfl
    | some o => exact own o e
  cases role : w.role h with
  | tokens => exact absurd (cls_of_role (by rw [role]; rfl)) other
  | _ =>
    rw [role] at owned kept
    simp only [Role.returns?, owned, kept, Bool.or_false, Bool.false_eq_true, if_false]

theorem disposal_other (live : w.held? h = some held) (other : h.cls ≠ .tokens)
    (owned : (w.role h).borrowed = false) (releases : h.cls.release? = some f) :
    Disposal side w h := by
  have symbol : w.symbol? h = w.symbolOf held := by simp [World.symbol?, live]
  have keeper : (w.role h).keeper? = (w.role h).owner := by
    cases role : w.role h with
    | tokens => exact absurd (cls_of_role (by rw [role]; rfl)) other
    | _ => rfl
  have returned : h.returned w = [.handle (w.symbolOf held)] := by
    unfold returned
    split
    · rename_i role
      exact absurd (cls_of_role (by rw [role]; rfl)) other
    · rw [symbol]
  by_cases own : ∀ o, (w.role h).owner = some o → w.isDisposed o = false
  · have e := returns?_of_not_tokens (s := w.symbolOf held) other owned own
    cases empty : (w.symbolOf held).isNone && h.cls.emptyWhenNull with
    | true =>
      rw [empty, if_pos rfl] at e
      refine .empty ?_ (dispose_of_no_release live ?_)
      · simpa [isEmpty, symbol, other] using empty
      · simp [release?, releases, e]
    | false =>
      rw [empty, if_neg Bool.false_ne_true] at e
      have holds : h.isEmpty w = false := by simpa [isEmpty, symbol, other] using empty
      obtain ⟨d, v, done, disposed, made, call, client⟩ :=
        dispose_of_made side live releases e (fun _ m => nomatch m) rfl
      exact .given holds (keeper ▸ own) f releases d v done disposed made (returned ▸ call) client
  · obtain ⟨o, owner, gone⟩ : ∃ o, (w.role h).owner = some o ∧ w.isDisposed o = true := by
      simpa using own
    have cls := cls_of_owner owner
    refine .left o (keeper.trans owner) gone (by simp [isEmpty, cls, HandleClass.emptyWhenNull])
      other (dispose_of_no_release live ?_)
    simp [release?, releases, Role.returns?, owner, gone]

/-- Nothing is to be given back of an empty array, nor of an object that goes with one whose native
thing was released; `freed` says which were. -/
def Exempt (freed : Handle → Prop) (w : World) (h : Handle) : Prop :=
  h.isEmpty w = true ∨ ∃ o, (w.role h).keeper? = some o ∧ freed o

/-- What disposing of an object should come to: it succeeds, and what the object held is given back
if it is to be. -/
structure Promise (freed : Handle → Prop) (side : Side) (w : World) (h : Handle) (v : World) :
    Prop where
  done : h.dispose.exec side w = (.ok (), v)
  disposed : v.isDisposed h = true
  silent : Exempt freed w h → v.dealings = w.dealings
  given : ¬Exempt freed w h → ∃ f d, h.cls.release? = some f ∧ v.dealings = d :: w.dealings ∧
    d.call = ⟨f, h.returned w⟩ ∧ d.releases h = true

variable {freed : Handle → Prop}

theorem promise_of_silence (done : h.dispose.exec side w = (.ok (), w.retire h)) :
    (∃ v, Promise freed side w h v) ↔ Exempt freed w h := by
  constructor
  · rintro ⟨v, kept⟩
    cases (Prod.mk.inj (done.symm.trans kept.done)).2
    refine Classical.byContradiction fun owed => ?_
    obtain ⟨f, d, -, made, -⟩ := kept.given owed
    exact List.cons_ne_self d w.dealings made.symm
  · intro exempt
    exact ⟨_, done, w.isDisposed_retire h, fun _ => rfl, fun owed => absurd exempt owed⟩

theorem promise_of_call {d : Dealing} {v : World} (releases : h.cls.release? = some f)
    (done : h.dispose.exec side w = (.ok (), v)) (disposed : v.isDisposed h = true)
    (made : v.dealings = d :: w.dealings) (call : d.call = ⟨f, h.returned w⟩)
    (client : d.releases h = true) : (∃ v, Promise freed side w h v) ↔ ¬Exempt freed w h := by
  constructor
  · rintro ⟨u, kept⟩ exempt
    cases (Prod.mk.inj (done.symm.trans kept.done)).2
    exact List.cons_ne_self d w.dealings (made.symm.trans (kept.silent exempt))
  · exact fun owed => ⟨v, done, disposed, fun exempt => absurd exempt owed,
      fun _ => ⟨f, d, releases, made, call, client⟩⟩

theorem Disposal.disposed (ends : Disposal side w h) :
    (h.dispose.exec side w).2.isDisposed h = true := by
  cases ends with
  | empty _ done | left _ _ _ _ _ done | stuck _ _ _ _ _ done =>
    rw [done]
    exact w.isDisposed_retire h
  | given _ _ _ _ _ _ done disposed =>
    rw [done]
    exact disposed

theorem Disposal.fails_iff (ends : Disposal side w h) :
    (∃ e, (h.dispose.exec side w).1 = .error e) ↔ h.cls = .tokens ∧ h.isEmpty w = false ∧
      ∃ o, (w.role h).keeper? = some o ∧ w.isDisposed o = true := by
  cases ends with
  | empty empty done => simp [done, empty]
  | left _ _ _ _ other done => simp [done, other]
  | stuck o keeper gone holds tokens failed =>
    exact ⟨fun _ => ⟨tokens, holds, o, keeper, gone⟩, fun _ => ⟨_, by rw [failed]⟩⟩
  | given _ kept _ _ _ _ done =>
    rw [done]
    constructor
    · rintro ⟨_, ⟨⟩⟩
    · rintro ⟨-, -, o, keeper, gone⟩
      simp [kept o keeper] at gone

theorem Disposal.promise_iff (ends : Disposal side w h) :
    (∃ v, Promise freed side w h v) ↔ h.isEmpty w = true ∨
      ∀ o, (w.role h).keeper? = some o →
        (freed o ↔ w.isDisposed o = true) ∧ (w.isDisposed o = true → h.cls ≠ .tokens) := by
  cases ends with
  | empty empty done => simp [promise_of_silence done, Exempt, empty]
  | left o keeper gone holds other done =>
    simp [promise_of_silence done, Exempt, holds, keeper, gone, other]
  | stuck o keeper gone holds tokens failed =>
    have none_kept : ¬∃ v, Promise freed side w h v := fun ⟨v, kept⟩ => by
      cases (Prod.mk.inj (failed.symm.trans kept.done)).1
    simp [none_kept, holds, keeper, gone, tokens]
  | given holds kept f releases d v done disposed made call client =>
    rw [promise_of_call releases done disposed made call client]
    cases keeper : (w.role h).keeper? with
    | none => simp [Exempt, holds, keeper]
    | some o => simp [Exempt, holds, keeper, kept o keeper]

theorem disposal_of_live (side : Side) (live : w.held? h = some held)
    (owned : (w.role h).borrowed = false) (releases : h.cls.release? = some f) :
    Disposal side w h := by
  by_cases tokens : h.cls = .tokens
  · obtain ⟨s, stands, -⟩ := Option.bind_eq_some_iff.mp live
    have fits := World.fits_of_handle? stands
    rw [show s.role = w.role h by simp [World.role, stands]] at fits
    cases role : w.role h with
    | tokens => exact disposal_tokens live role
    | _ => rw [role, tokens] at fits; cases fits
  · exact disposal_other live tokens owned releases

/-- An object that is disposed of is so afterwards, whether or not that fails; it fails for a token
array that outlived its unit, and for nothing else. The promise is kept for empty arrays, for what
belongs to nothing, and else where the native thing of the unit or result that the object goes with
was released exactly if that is disposed of, save for a token array that outlived its unit. -/
theorem disposal_promised_iff (side : Side) (w : World) (h : Handle)
    (live : w.isDisposed h = false) (owned : (w.role h).borrowed = false)
    (owning : h.cls.release?.isSome = true) :
    (h.dispose.exec side w).2.isDisposed h = true ∧
    ((∃ e, (h.dispose.exec side w).1 = .error e) ↔ h.cls = .tokens ∧ h.isEmpty w = false ∧
      ∃ o, (w.role h).keeper? = some o ∧ w.isDisposed o = true) ∧
    ∀ freed : Handle → Prop, (∃ v, Promise freed side w h v) ↔ h.isEmpty w = true ∨
      ∀ o, (w.role h).keeper? = some o →
        (freed o ↔ w.isDisposed o = true) ∧ (w.isDisposed o = true → h.cls ≠ .tokens) := by
  obtain ⟨held, live⟩ : ∃ held, w.held? h = some held := by
    simpa [World.isDisposed, Option.isSome_iff_exists] using live
  obtain ⟨f, releases⟩ := Option.isSome_iff_exists.mp owning
  have ends := disposal_of_live side live owned releases
  exact ⟨ends.disposed, ends.fails_iff, fun _ => ends.promise_iff⟩

end Handle

namespace Session

def oneToken : Side where
  answer _ c := match c.function with
    | .tokenize => { array := some "array", count := some 1, items := ["token"] }
    | _ => {}

def tokenizing : List Step := [
  .mk (.value (.handle (.unit true) (some "unit"))) (some "unit"),
  .mk (.call "tokenize" (.register "unit") [.plain (.range "range")] []) (some "tokens")]

theorem disposal_promised_tokenizing :
    ∃ v, Handle.Promise (fun _ => False) oneToken (run oneToken tokenizing).2 ⟨.tokens, 1⟩ v := by
  have keeper : ((run oneToken tokenizing).2.role ⟨.tokens, 1⟩).keeper? =
      some ⟨.translationUnit, 0⟩ := by decide +kernel
  have stands : (run oneToken tokenizing).2.isDisposed ⟨.translationUnit, 0⟩ = false := by
    decide +kernel
  refine ((Handle.disposal_promised_iff oneToken (run oneToken tokenizing).2 ⟨.tokens, 1⟩
    (by decide +kernel) (by decide +kernel) rfl).2.2 fun _ => False).mpr (.inr fun o e => ?_)
  cases keeper.symm.trans e
  simp [stands]

def outliving : List Step :=
  tokenizing ++ [.mk (.call "dispose" (.register "unit") [] []) none]

/-- A token array whose unit was released: to dispose of it fails, though the unit was its own and
was given back. -/
theorem disposal_fails_outliving :
    (run oneToken outliving).2 ∈ states oneToken outliving ∧
      (run oneToken outliving).2.isDisposed ⟨.tokens, 1⟩ = false ∧
      ((run oneToken outliving).2.role ⟨.tokens, 1⟩).borrowed = false ∧
      ((run oneToken outliving).2.role ⟨.tokens, 1⟩).keeper? = some ⟨.translationUnit, 0⟩ ∧
      (run oneToken outliving).2.dealings.any (·.releases ⟨.translationUnit, 0⟩) = true ∧
      ((Handle.dispose ⟨.tokens, 1⟩).exec oneToken (run oneToken outliving).2).1.toOption.isNone =
        true :=
  ⟨run_mem_states .., by decide +kernel⟩

end Session

end ClangIndex
