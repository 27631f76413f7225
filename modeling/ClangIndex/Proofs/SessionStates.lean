import ClangIndex.Session.Recording

namespace ClangIndex

open Native (Function Side)

def World.Evolves (w v : World) : Prop := Evolution w.accounts v.accounts

namespace World.Evolves

variable {u v w : World}

theorem refl (w : World) : w.Evolves w := Evolution.refl _

theorem trans (h : w.Evolves u) (k : u.Evolves v) : w.Evolves v := Evolution.trans h k

theorem of_exec {α : Type} (m : Binding α) (side : Side) (w : World) :
    w.Evolves (m.exec side w).2 := m.exec_evolves side w

theorem of_result {α : Type} {m : Binding α} {side : Side} {r : Except Failure α}
    (e : m.exec side w = (r, v)) : w.Evolves v := by
  simpa [e] using of_exec m side w

end World.Evolves

/-- States that are passed through, in order, on the way from one state to another. -/
inductive Passes : World → List World → World → Prop
  | last {w v} (h : w.Evolves v) : Passes w [] v
  | through {w u vs v} (h : w.Evolves u) (rest : Passes u vs v) : Passes w (u :: vs) v

namespace Passes

variable {u v w : World} {us vs : List World}

theorem before (h : w.Evolves u) (k : Passes u vs v) : Passes w vs v := by
  cases k with
  | last k => exact .last (h.trans k)
  | through k rest => exact .through (h.trans k) rest

theorem append (h : Passes w us u) (k : Passes u vs v) : Passes w (us ++ vs) v := by
  induction h with
  | last h => exact k.before h
  | through h _ ih => exact .through h (ih k)

theorem after (h : Passes w us u) (k : u.Evolves v) : Passes w us v := by
  simpa using h.append (.last k)

theorem evolves_of_mem (h : Passes w vs v) {u : World} (m : u ∈ vs) : w.Evolves u := by
  induction h with
  | last => cases m
  | through h _ ih =>
    cases List.mem_cons.mp m with
    | inl e => exact e ▸ h
    | inr m => exact h.trans (ih m)

theorem pairwise (h : Passes w vs v) : (w :: vs).Pairwise World.Evolves := by
  induction h with
  | last => simp
  | through h rest ih =>
    refine .cons (fun u m => ?_) ih
    cases List.mem_cons.mp m with
    | inl e => exact e ▸ h
    | inr m => exact h.trans (rest.evolves_of_mem m)

end Passes

namespace Binding

variable {α β : Type} {side : Side} {w : World} {vs : List World}

def andThen (side : Side) (m : Binding α) (w : World) (f : α → World → List World) : List World :=
  match m.exec side w with
  | (.ok a, v) => f a v
  | (.error _, _) => []

theorem passes_bind {m : Binding α} (f : α → Binding β) (h : Passes w vs (m.exec side w).2) :
    Passes w vs ((m >>= f).exec side w).2 := by
  cases e : m.exec side w with
  | mk r v =>
    rw [e] at h
    cases r with
    | ok a =>
      rw [exec_bind_ok e]
      exact h.after (.of_exec ..)
    | error x =>
      rw [exec_bind_error e]
      exact h

theorem passes_then {m : Binding α} {f : α → Binding β} {g : α → World → List World}
    (h : Passes w vs (m.exec side w).2)
    (k : ∀ a v, m.exec side w = (.ok a, v) → Passes v (g a v) ((f a).exec side v).2) :
    Passes w (vs ++ andThen side m w g) ((m >>= f).exec side w).2 := by
  refine h.append ?_
  cases e : m.exec side w with
  | mk r v =>
    cases r with
    | ok a =>
      rw [exec_bind_ok e, andThen, e]
      exact k a v e
    | error x =>
      rw [exec_bind_error e, andThen, e]
      exact .last (.refl v)

theorem passes_andThen {m : Binding α} {f : α → Binding β} {g : α → World → List World}
    (k : ∀ a v, m.exec side w = (.ok a, v) → Passes v (g a v) ((f a).exec side v).2) :
    Passes w (andThen side m w g) ((m >>= f).exec side w).2 :=
  passes_then (.last (.of_exec m side w)) k

theorem passes_attempt {m : Binding α} (h : Passes w vs (m.exec side w).2) :
    Passes w vs ((attempt m).exec side w).2 := h

end Binding

namespace Traversal

variable {α : Type} {side : Side}

def statesUntil (side : Side) (step : α → Binding Verdict) (inside : α → World → List World) :
    List α → World → List World
  | [], _ => []
  | x :: r, w => inside x w ++ Binding.andThen side (step x) w fun
    | .stop _, _ => []
    | _, v => statesUntil side step inside r v

def statesEnter (side : Side) (visit : Symbol → Symbol → Binding Verdict)
    (told : Symbol → Symbol → World → List World) (inside : Symbol → World → List World)
    (parent child : Symbol) (w : World) : List World :=
  told child parent w ++ Binding.andThen side (visit child parent) w fun
    | .descend, v => inside child v
    | _, _ => []

def statesBelow (side : Side) (visit : Symbol → Symbol → Binding Verdict)
    (told : Symbol → Symbol → World → List World) : Nat → Symbol → World → List World
  | 0, _, _ => []
  | depth + 1, parent, w =>
    statesUntil side (enter visit (below visit depth) parent)
      (statesEnter side visit told (statesBelow side visit told depth) parent)
      (side.children parent) w

theorem passes_untilStop {step : α → Binding Verdict} {inside : α → World → List World}
    (h : ∀ x w, Passes w (inside x w) ((step x).exec side w).2) (xs : List α) (w : World) :
    Passes w (statesUntil side step inside xs w) ((untilStop step xs).exec side w).2 := by
  induction xs generalizing w with
  | nil => exact .last (.refl w)
  | cons x r ih =>
    refine Binding.passes_then (h x w) fun d v _ => ?_
    cases d with
    | stop cause => exact .last (.refl v)
    | goOn | descend => exact ih v

theorem passes_enter {visit : Symbol → Symbol → Binding Verdict}
    {told : Symbol → Symbol → World → List World} {inside : Symbol → Binding Verdict}
    {insideStates : Symbol → World → List World}
    (h : ∀ child parent w, Passes w (told child parent w) ((visit child parent).exec side w).2)
    (k : ∀ child w, Passes w (insideStates child w) ((inside child).exec side w).2)
    (parent child : Symbol) (w : World) :
    Passes w (statesEnter side visit told insideStates parent child w)
      ((enter visit inside parent child).exec side w).2 := by
  refine Binding.passes_then (h child parent w) fun d v _ => ?_
  cases d with
  | descend => exact k child v
  | goOn | stop => exact .last (.refl v)

theorem passes_below {visit : Symbol → Symbol → Binding Verdict}
    {told : Symbol → Symbol → World → List World}
    (h : ∀ child parent w, Passes w (told child parent w) ((visit child parent).exec side w).2)
    (depth : Nat) (parent : Symbol) (w : World) :
    Passes w (statesBelow side visit told depth parent w)
      ((below visit depth parent).exec side w).2 := by
  induction depth generalizing parent w with
  | zero => exact .last (.refl w)
  | succ depth ih => exact passes_untilStop (passes_enter h ih parent) (side.children parent) w

theorem passes_heed {judge : Value → Binding Direction} {m : Binding Value} {w : World}
    {vs : List World} (h : Passes w vs (m.exec side w).2) :
    Passes w vs ((heed judge m).exec side w).2 :=
  Binding.passes_bind _ (Binding.passes_attempt (Binding.passes_bind judge h))

end Traversal

namespace Session

variable {α : Type} {side : Side}

/-- What a visitor runs for the symbols, with the states of each. -/
inductive Follows (side : Side) :
    List (String × Binding (List Json)) → List (String × (World → List World)) → Prop
  | nil : Follows side [] []
  | cons {k run inside runs table} (h : ∀ w, Passes w (inside w) (run.exec side w).2)
      (rest : Follows side runs table) : Follows side ((k, run) :: runs) ((k, inside) :: table)

theorem Follows.lookup {runs : List (String × Binding (List Json))}
    {table : List (String × (World → List World))} (h : Follows side runs table) (k : String) :
    (lookup k runs = none ∧ lookup k table = none) ∨
      ∃ run inside, lookup k runs = some run ∧ lookup k table = some inside ∧
        ∀ w, Passes w (inside w) (run.exec side w).2 := by
  induction h with
  | nil => exact .inl ⟨rfl, rfl⟩
  | @cons k' run inside _ _ h _ ih =>
    by_cases e : k' = k
    · exact .inr ⟨run, inside, by simp [ClangIndex.lookup, e], by simp [ClangIndex.lookup, e], h⟩
    · simpa [ClangIndex.lookup, e] using ih

theorem Follows.pick {runs : List (String × Binding (List Json))}
    {table : List (String × (World → List World))} (h : Follows side runs table) (s : Symbol) :
    (pick s runs = none ∧ pick s table = none) ∨
      ∃ run inside, pick s runs = some run ∧ pick s table = some inside ∧
        ∀ w, Passes w (inside w) (run.exec side w).2 := by
  obtain ⟨e, e'⟩ | ⟨run, inside, e, e', k⟩ := h.lookup s
  · simpa [Session.pick, e, e'] using h.lookup "*"
  · exact .inr ⟨run, inside, by simp [Session.pick, e], by simp [Session.pick, e'], k⟩

def statesVisitor (side : Side) (form : α → Value)
    (table : List (String × (World → List World))) (c : Cursor) (other : α) (w : World) :
    List World :=
  Binding.andThen side (hear form c other) w fun _ v =>
    v :: (pick c.symbol table).elim [] fun inside => inside v

theorem passes_visitor {runs : List (String × Binding (List Json))}
    {table : List (String × (World → List World))} (h : Follows side runs table)
    (form : α → Value) (rules : List (String × Rule)) (c : Cursor) (other : α) (w : World) :
    Passes w (statesVisitor side form table c other w)
      ((visitor form rules runs c other).exec side w).2 := by
  refine Binding.passes_andThen fun seen v _ => .through (.refl v) ?_
  obtain ⟨e, e'⟩ | ⟨run, inside, e, e', k⟩ := h.pick c.symbol
  · rw [e, e']
    exact .last (.of_exec _ side v)
  · rw [e, e']
    exact Binding.passes_bind _ (k v)

def statesVisit (side : Side) (rules : List (String × Rule))
    (runs : List (String × Binding (List Json))) (table : List (String × (World → List World)))
    (c : Cursor) (w : World) : List World :=
  Binding.andThen side (Function.visitChildren.invoke [.value (.cursor c)]) w fun _ w =>
    Traversal.statesBelow side
      (fun child parent => Traversal.heed Direction.ofAnswer
        (visitor .cursor rules runs ⟨child, c.unit⟩ ⟨parent, c.unit⟩))
      (fun child parent => statesVisitor side .cursor table ⟨child, c.unit⟩ ⟨parent, c.unit⟩)
      side.depth c.symbol w

theorem passes_visit {runs : List (String × Binding (List Json))}
    {table : List (String × (World → List World))} (h : Follows side runs table)
    (rules : List (String × Rule)) (c : Cursor) (w : World) :
    Passes w (statesVisit side rules runs table c w)
      ((c.visit (visitor .cursor rules runs)).exec side w).2 := by
  refine Binding.passes_andThen fun ⟨call, answer⟩ v _ => ?_
  refine Binding.passes_bind (m := Traversal.below _ side.depth c.symbol) _ ?_
  refine Traversal.passes_below (fun child parent w => ?_) side.depth c.symbol v
  exact Traversal.passes_heed (passes_visitor h .cursor rules _ _ w)

def statesReferences (side : Side) (rules : List (String × Rule))
    (runs : List (String × Binding (List Json))) (table : List (String × (World → List World)))
    (c : Cursor) (file : Value) (w : World) : List World :=
  Binding.andThen side (Function.findReferencesInFile.invoke [.value (.cursor c), .value file]) w
    fun r w =>
      Traversal.statesUntil side
        (fun (reference, range) => Traversal.heed Direction.ofReferenceAnswer
          (visitor .range rules runs ⟨reference, c.unit⟩ range))
        (fun (reference, range) => statesVisitor side .range table ⟨reference, c.unit⟩ range)
        r.2.references w

theorem passes_references {runs : List (String × Binding (List Json))}
    {table : List (String × (World → List World))} (h : Follows side runs table)
    (rules : List (String × Rule)) (c : Cursor) (file : Value) (w : World) :
    Passes w (statesReferences side rules runs table c file w)
      ((c.findReferences file (visitor .range rules runs)).exec side w).2 := by
  refine Binding.passes_andThen fun ⟨call, answer⟩ v _ => ?_
  refine Binding.passes_bind (m := Traversal.untilStop _ answer.references) _ ?_
  refine Traversal.passes_untilStop (fun (reference, range) w => ?_) answer.references v
  exact Traversal.passes_heed (passes_visitor h .range rules _ _ w)

theorem passes_traced {m : Binding α} {w : World} {vs : List World}
    (h : Passes { w with trace := [] } vs (m.exec side { w with trace := [] }).2) :
    Passes w vs ((traced m).exec side w).2 := by
  have start : w.Evolves { w with trace := [] } := .refl w
  have stop (v : World) : v.Evolves { v with trace := w.trace } := .refl v
  exact (h.before start).after (stop _)

mutual

def Step.states (side : Side) : Step → World → List World
  | .mk action register, w =>
    action.states side w ++ [((Step.mk action register).run.exec side w).2]

def Action.states (side : Side) : Action → World → List World
  | .block a body, w =>
    Binding.andThen side a.eval w fun v w => if v.canEnter then statesAll side body w else []
  | .visit a (.mk rules steps), w =>
    Binding.andThen side a.cursor { w with trace := [] }
      (statesVisit side rules (runTable steps) (statesTable side steps))
  | .findReferences a file (.mk rules steps), w =>
    Binding.andThen side a.cursor { w with trace := [] } fun c w =>
      Binding.andThen side file.eval w
        (statesReferences side rules (runTable steps) (statesTable side steps) c)
  | _, _ => []

def statesAll (side : Side) : List Step → World → List World
  | [], _ => []
  | s :: r, w => s.states side w ++ Binding.andThen side s.run w fun _ w => statesAll side r w

def statesTable (side : Side) : List (String × List Step) → List (String × (World → List World))
  | [] => []
  | (k, steps) :: r => (k, fun w => statesAll side steps w) :: statesTable side r

end

def states (side : Side) (steps : List Step) : List World := {} :: statesAll side steps {}

mutual

theorem Step.passes (side : Side) : (s : Step) → (w : World) →
    Passes w (s.states side w) (s.run.exec side w).2
  | .mk action register, w =>
    (Binding.passes_bind (conclude register) (action.passes side w)).append
      (.through (.refl _) (.last (.refl _)))

theorem Action.passes (side : Side) : (a : Action) → (w : World) →
    Passes w (a.states side w) (a.run.exec side w).2
  | .block a body, w => by
    refine Binding.passes_bind _ (Binding.passes_attempt (Binding.passes_andThen fun v u _ => ?_))
    by_cases e : v.canEnter
    · rw [if_pos e, if_pos e]
      exact Binding.passes_bind _
        (Binding.passes_bind _ (Binding.passes_attempt (passesAll side body u)))
    · rw [if_neg e, if_neg e]
      exact .last (.refl u)
  | .visit a (.mk rules steps), w =>
    Binding.passes_bind _ (passes_traced (Binding.passes_andThen fun c u _ =>
      passes_visit (followsTable side steps) rules c u))
  | .findReferences a file (.mk rules steps), w =>
    Binding.passes_bind _ (passes_traced (Binding.passes_andThen fun c _ _ =>
      Binding.passes_andThen fun f u _ =>
        passes_references (followsTable side steps) rules c f u))
  | .value _, w | .make .., w | .read .., w | .assign .., w | .call .., w | .equal .., w
  | .different .., w | .isIn .., w | .item .., w | .size _, w | .toList _, w | .str _, w
  | .repr _, w | .hash _, w | .sameHash .., w => .last (.of_exec ..)

theorem passesAll (side : Side) : (ss : List Step) → (w : World) →
    Passes w (statesAll side ss w) ((runAll ss).exec side w).2
  | [], w => .last (.refl w)
  | s :: r, w => Binding.passes_then (s.passes side w) fun _ v _ =>
    Binding.passes_bind _ (passesAll side r v)

theorem followsTable (side : Side) : (t : List (String × List Step)) →
    Follows side (runTable t) (statesTable side t)
  | [] => .nil
  | (_, steps) :: r => .cons (passesAll side steps) (followsTable side r)

end

theorem pairwise_states (side : Side) (steps : List Step) :
    (states side steps).Pairwise World.Evolves :=
  (passesAll side steps {}).pairwise

theorem evolves_of_mem_states {side : Side} {steps : List Step} {w : World}
    (m : w ∈ states side steps) : Evolution {} w.accounts := by
  cases List.mem_cons.mp m with
  | inl start => exact start ▸ .refl _
  | inr m => exact (passesAll side steps {}).evolves_of_mem m

theorem exec_runAll_ok {side : Side} {s : Step} {w v : World} {j : Json}
    (e : s.run.exec side w = (.ok j, v)) (r : List Step) :
    ((runAll (s :: r)).exec side w).2 = ((runAll r).exec side v).2 := by
  rw [runAll, Binding.exec_bind_ok e, Binding.exec_bind_pure]

theorem exec_runAll_error {side : Side} {s : Step} {w v : World} {x : Failure}
    (e : s.run.exec side w = (.error x, v)) (r : List Step) :
    ((runAll (s :: r)).exec side w).2 = v := by
  rw [runAll, Binding.exec_bind_error e]

theorem end_mem_statesAll (side : Side) (ss : List Step) (w : World) :
    ((runAll ss).exec side w).2 ∈ w :: statesAll side ss w := by
  induction ss generalizing w with
  | nil => exact List.mem_cons_self
  | cons s r ih =>
    have after : (s.run.exec side w).2 ∈ s.states side w := by
      cases s
      exact List.mem_append_right _ (List.mem_singleton.mpr rfl)
    cases e : s.run.exec side w with
    | mk r' v =>
      rw [e] at after
      cases r' with
      | ok j =>
        rw [exec_runAll_ok e, statesAll, Binding.andThen, e]
        refine List.mem_cons_of_mem w ?_
        cases List.mem_cons.mp (ih v) with
        | inl here => exact List.mem_append_left _ (by rw [here]; exact after)
        | inr later => exact List.mem_append_right _ later
      | error x =>
        rw [exec_runAll_error e, statesAll]
        exact List.mem_cons_of_mem w (List.mem_append_left _ after)

theorem exec_enter_ok {side : Side} {s : Step} {w v : World} {j : Json}
    (e : s.run.exec side w = (.ok j, v)) : ∃ x, (enter s).exec side w = (.ok x, v) := by
  rw [enter, observing, bind_assoc,
    Binding.exec_bind_ok (show World.now.exec side w = (.ok w, w) from rfl), bind_assoc,
    Binding.exec_bind_ok e]
  exact ⟨_, rfl⟩

theorem exec_enter_error {side : Side} {s : Step} {w v : World} {x : Failure}
    (e : s.run.exec side w = (.error x, v)) : (enter s).exec side w = (.error x, v) := by
  rw [enter, observing, bind_assoc,
    Binding.exec_bind_ok (show World.now.exec side w = (.ok w, w) from rfl), bind_assoc,
    Binding.exec_bind_error e]

theorem exec_entries (side : Side) (ss : List Step) (w : World) :
    ((entries ss).exec side w).2 = ((runAll ss).exec side w).2 := by
  induction ss generalizing w with
  | nil => rfl
  | cons s r ih =>
    cases e : s.run.exec side w with
    | mk r' v =>
      cases r' with
      | ok j =>
        obtain ⟨x, observed⟩ := exec_enter_ok e
        rw [exec_runAll_ok e, entries, Binding.exec_bind_ok observed, Binding.exec_bind_pure, ih]
      | error x =>
        rw [exec_runAll_error e, entries, Binding.exec_bind_error (exec_enter_error e)]

theorem run_mem_states (side : Side) (steps : List Step) :
    (run side steps).2 ∈ states side steps := by
  have e : (run side steps).2 = ((entries steps).exec side {}).2 := by
    unfold run
    split <;> rename_i e <;> rw [e]
  rw [e, exec_entries]
  exact end_mem_statesAll side steps {}

end Session

end ClangIndex
