import ClangIndex.Binding.Call

namespace ClangIndex

open Native (Function HandleClass Side)

def Native.Function.loads : Function → Bool
  | .parseTranslationUnit | .createTranslationUnitFromSourceFile | .reparseTranslationUnit
  | .codeCompleteAt => true
  | _ => false

namespace Binding

variable {α β : Type} {p : Function → Prop} {m : Binding α} {f : α → Binding β}

def Calls (p : Function → Prop) (m : Binding α) : Prop :=
  ∀ side w, ∃ made, (m.exec side w).2.dealings = made ++ w.dealings ∧
    ∀ d ∈ made, p d.call.function

abbrev Quiet (m : Binding α) : Prop := Calls (fun f => f.loads = false) m

abbrev Silent (m : Binding α) : Prop := Calls (fun _ => False) m

namespace Calls

theorem of_eq (h : ∀ side w, (m.exec side w).2.dealings = w.dealings) : Calls p m :=
  fun side w => ⟨[], h side w, List.forall_mem_nil _⟩

theorem dealings_eq (h : Silent m) (side : Side) (w : World) :
    (m.exec side w).2.dealings = w.dealings := by
  obtain ⟨made, e, none⟩ := h side w
  rwa [List.eq_nil_iff_forall_not_mem.mpr none] at e

theorem mono {q : Function → Prop} (h : Calls p m) (k : ∀ f, p f → q f) : Calls q m := by
  intro side w
  obtain ⟨made, e, of⟩ := h side w
  exact ⟨made, e, fun d mem => k _ (of d mem)⟩

theorem pure (a : α) : Calls p (pure a : Binding α) := of_eq fun _ _ => rfl

theorem throw (e : Failure) : Calls p (throw e : Binding α) := of_eq fun _ _ => rfl

theorem keeping (g : World → α × World) (h : ∀ w, (g w).2.accounts = w.accounts) :
    Calls p (keeping g h) := of_eq fun _ w => congrArg Accounts.dealings (h w)

theorem update (g : World → World) (h : ∀ w, (g w).accounts = w.accounts) :
    Calls p (update g h) := keeping _ _

theorem log (level : Log.Level) (logger message : String) : Calls p (log level logger message) :=
  update _ _

theorem copying (n : StateM Ledger α) (h : ForeignString.Settles n) : Calls p (copying n h) :=
  of_eq fun _ _ => rfl

theorem create {cls : HandleClass} {held : Held} {role : Role} {fits : role.fits cls = true} :
    Calls p (Handle.create cls held role fits) := of_eq fun _ _ => rfl

theorem bind (h : Calls p m) (k : ∀ a, Calls p (f a)) : Calls p (m >>= f) := by
  intro side w
  obtain ⟨first, made, of⟩ := h side w
  cases e : m.exec side w with
  | mk r v =>
    rw [e] at made
    cases r with
    | ok a =>
      obtain ⟨next, made', of'⟩ := k a side v
      refine ⟨next ++ first, ?_, fun d mem => (List.mem_append.mp mem).elim (of' d) (of d)⟩
      rw [exec_bind_ok e, made', made, List.append_assoc]
    | error x => exact ⟨first, by rw [exec_bind_error e, made], of⟩

theorem map {g : α → β} (h : Calls p m) : Calls p (g <$> m) := h.bind fun _ => pure _

theorem attempt (h : Calls p m) : Calls p (attempt m) := h

theorem logLazily {message : Binding String} (level : Log.Level) (logger : String)
    (h : Calls p message) : Calls p (logLazily level logger message) := by
  refine (attempt h).bind fun r => ?_
  cases r with
  | ok s => exact log _ _ _
  | error e => exact pure _

theorem ite {c : Prop} [Decidable c] {n : Binding α} (h : Calls p m) (k : Calls p n) :
    Calls p (if c then m else n) := by
  split
  · exact h
  · exact k

theorem lift (r : Except Failure α) : Calls p (liftM r : Binding α) := by
  cases r with
  | ok => exact pure _
  | error => exact throw _

theorem mapM {g : α → Binding β} {xs : List α} (h : ∀ a ∈ xs, Calls p (g a)) :
    Calls p (xs.mapM g) := by
  induction xs with
  | nil => exact pure _
  | cons x r ih =>
    rw [List.mapM_cons]
    exact (h x List.mem_cons_self).bind fun _ =>
      (ih fun a mem => h a (List.mem_cons_of_mem _ mem)).bind fun _ => pure _

section

variable {f : Function} {actuals : List Actual} {keeps : f.releases = false}

theorem invoke (h : p f) : Calls p (f.invoke actuals keeps) := by
  intro side w
  obtain ⟨x, refused⟩ | ⟨d, made, function, -⟩ := f.perform_cases none actuals side w
  · exact ⟨[], congrArg (fun r => r.2.dealings) refused, List.forall_mem_nil _⟩
  · refine ⟨[d], congrArg (fun r => r.2.dealings) made, fun c mem => ?_⟩
    rwa [List.mem_singleton.mp mem, function]

theorem invokeBare {a : Native.Argument} (h : p f) : Calls p (f.invokeBare a) :=
  fun _ w => ⟨[Actual.dealing w ⟨f, [a]⟩ none [.native a]], rfl, by simpa [Actual.dealing]⟩

theorem number (h : p f) : Calls p (f.number actuals keeps) := (invoke h).bind fun _ => pure _

theorem text (h : p f) : Calls p (f.text actuals keeps) := (invoke h).bind fun _ => copying _ _

end

theorem require (e : Enumeration) (n : Int) : Calls p (e.require n) := by
  unfold Enumeration.require
  split
  · exact pure _
  · exact throw _

end Calls

end Binding

end ClangIndex
