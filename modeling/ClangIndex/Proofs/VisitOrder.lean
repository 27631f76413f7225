import ClangIndex.Binding.Visit
import ClangIndex.Proofs.ChildForest
import ClangIndex.Proofs.SavedFailure

/-!
Which cursors a visitor is told, in what order, and what a visit ends in. A visitor answers by all
that it was told before; it may do anything else in between, also visit on its own.
-/

namespace ClangIndex

open Native (Answer Call Function Script Side)

abbrev Reply : Type := Except Failure Value

namespace Reply

/-- The number of an answer, which is a member of the enumeration of answers or an integer. A truth
value is no integer here, but a set of options is. -/
def number? : Reply → Option Int
  | .ok (.member ⟨.childVisitResult, n⟩) | .ok (.int n) => some n
  | .ok (.flags _ n) => some n
  | _ => none

def breaks (r : Reply) : Bool := r.number? == some 0

def recurses (r : Reply) : Bool := r.number? == some 2

def stops (r : Reply) : Bool := r.number? != some 1 && r.number? != some 2

/-- What the native side is told after a reply. An answer that is refused is shown on the way. -/
def ruling (judge : Value → Binding Direction) : Reply → Binding Verdict
  | .ok v => Traversal.heed judge (pure v)
  | .error e => pure (.stop (some e))

variable {judge : Value → Binding Direction} {side : Side} {u w : World} {v : Value}

theorem exec_ruling_ok {d : Direction} (h : (judge v).exec side w = (.ok d, u)) :
    (ruling judge (.ok v)).exec side w = (.ok d.verdict, u) := by
  have tried : (Binding.attempt (pure v >>= judge)).exec side w = (.ok (.ok d), u) :=
    congrArg (fun p => (Except.ok p.1, p.2)) h
  exact Binding.exec_bind_ok tried

theorem exec_ruling_error {e : Failure} (h : (judge v).exec side w = (.error e, u)) :
    (ruling judge (.ok v)).exec side w = (.ok (.stop (some e)), u) := by
  have tried : (Binding.attempt (pure v >>= judge)).exec side w = (.ok (.error e), u) :=
    congrArg (fun p => (Except.ok p.1, p.2)) h
  exact Binding.exec_bind_ok tried

theorem ofAnswer_of_number {n : Int} (h : number? (.ok v) = some n) :
    Direction.ofAnswer v = Direction.ofAnswer.ofInt n v := by
  unfold number? at h
  split at h <;> simp_all [Direction.ofAnswer]

theorem ofAnswer_of_known {n : Int} {d : Direction} (h : number? (.ok v) = some n)
    (known : Direction.ofNumber? n = some d) : Direction.ofAnswer v = pure d := by
  rw [ofAnswer_of_number h, Direction.ofAnswer.ofInt, known]

theorem ofAnswer_of_no_number (h : number? (.ok v) = none) :
    Direction.ofAnswer v = v.repr >>= fun s => throw (.notVisitAnswer s) := by
  cases v with
  | int | flags => cases h
  | member m =>
    obtain ⟨kind, n⟩ := m
    cases kind with
    | childVisitResult => cases h
    | _ => rfl
  | _ => rfl

/-- What refuses an answer: the failure that shows it, or what showing it fails with. -/
def refusal (toFailure : String → Failure) : Except Failure String → Failure
  | .ok s => toFailure s
  | .error e => e

theorem kind_refusal {toFailure : String → Failure} {kind : String}
    (h : ∀ s, (toFailure s).kind = kind) (shown : Except Failure String) :
    (refusal toFailure shown).kind = kind ↔ ∀ x, shown = .error x → x.kind = kind := by
  cases shown with
  | ok s => simp [refusal, h]
  | error e => simp [refusal]

theorem exec_refuse (toFailure : String → Failure) (m : Binding String) :
    (m >>= fun s => throw (toFailure s) : Binding Direction).exec side w =
      (.error (refusal toFailure (m.exec side w).1), (m.exec side w).2) := by
  cases shown : m.exec side w with
  | mk r u =>
    cases r with
    | ok s => exact Binding.exec_bind_ok shown
    | error e => exact Binding.exec_bind_error shown

theorem repr_of_number {n : Int} (h : number? (.ok v) = some n) : v.repr = v.plainRepr := by
  cases v with
  | int | flags | member => rfl
  | _ => cases h

/-- A number may be too long to be shown; it is refused for its value then, too. -/
theorem exec_refuse_number {toFailure : String → Failure}
    (typed : ∀ s, (toFailure s).kind = "ValueError") {n : Int} (h : number? (.ok v) = some n)
    (side : Side) (w : World) : ∃ e : Failure, e.kind = "ValueError" ∧
      (v.repr >>= fun s => throw (toFailure s) : Binding Direction).exec side w = (.error e, w) := by
  rw [repr_of_number h, exec_refuse]
  unfold Value.plainRepr
  cases v.literal? with
  | some s => exact ⟨_, typed s, rfl⟩
  | none => exact ⟨_, rfl, rfl⟩

theorem exec_ofAnswer_of_off {n : Int} (h : number? (.ok v) = some n) (off : n ∉ [0, 1, 2])
    (side : Side) (w : World) : ∃ e : Failure, e.kind = "ValueError" ∧
      (Direction.ofAnswer v).exec side w = (.error e, w) := by
  have unknown : Direction.ofNumber? n = none := by
    unfold Direction.ofNumber?
    split <;> simp_all
  rw [ofAnswer_of_number h, Direction.ofAnswer.ofInt, unknown]
  exact exec_refuse_number (fun _ => rfl) h side w

theorem exec_ofAnswer_of_no_number (h : number? (.ok v) = none) (side : Side) (w : World) :
    (Direction.ofAnswer v).exec side w =
      (.error (refusal .notVisitAnswer (v.repr.exec side w).1), (v.repr.exec side w).2) := by
  rw [ofAnswer_of_no_number h]
  exact exec_refuse Failure.notVisitAnswer v.repr

theorem exec_ruling_of_number {d : Direction} {r : Reply} {n : Int} (h : r.number? = some n)
    (known : Direction.ofNumber? n = some d) (side : Side) (w : World) :
    (ruling Direction.ofAnswer r).exec side w = (.ok d.verdict, w) := by
  cases r with
  | error e => cases h
  | ok v =>
    refine exec_ruling_ok ?_
    rw [ofAnswer_of_known h known]
    rfl

theorem exec_ruling_of_stops {r : Reply} (h : r.stops = true) (side : Side) (w : World) :
    ∃ c u, (ruling Direction.ofAnswer r).exec side w = (.ok (.stop c), u) := by
  cases number : r.number? with
  | none =>
    cases r with
    | error e => exact ⟨_, _, rfl⟩
    | ok v => exact ⟨_, _, exec_ruling_error (exec_ofAnswer_of_no_number number side w)⟩
  | some n =>
    by_cases known : n ∈ [0, 1, 2]
    · obtain rfl : n = 0 := by
        simp only [stops, number, Bool.and_eq_true, bne_iff_ne, ne_eq, Option.some.injEq] at h
        simp only [List.mem_cons, List.not_mem_nil, or_false] at known
        omega
      exact ⟨_, _, exec_ruling_of_number number rfl side w⟩
    · cases r with
      | error e => cases number
      | ok v =>
        obtain ⟨e, -, refused⟩ := exec_ofAnswer_of_off number known side w
        exact ⟨_, _, exec_ruling_error refused⟩

theorem ruling_cases (r : Reply) :
    (r.stops = true ∧ r.recurses = false) ∨
      (r.stops = false ∧ r.recurses = false ∧
        ∀ side w, (ruling Direction.ofAnswer r).exec side w = (.ok .goOn, w)) ∨
      (r.stops = false ∧ r.recurses = true ∧
        ∀ side w, (ruling Direction.ofAnswer r).exec side w = (.ok .descend, w)) := by
  by_cases one : r.number? = some 1
  · exact .inr (.inl ⟨by simp [stops, one], by simp [recurses, one],
      exec_ruling_of_number one rfl⟩)
  · by_cases two : r.number? = some 2
    · exact .inr (.inr ⟨by simp [stops, two], by simp [recurses, two],
        exec_ruling_of_number two rfl⟩)
    · exact .inl ⟨by simp [stops, one, two], by simp [recurses, two]⟩

theorem number_of_goes {r : Reply} (h : r.stops = false) : ∃ n ∈ [0, 1, 2], r.number? = some n := by
  by_cases one : r.number? = some 1
  · exact ⟨1, by simp, one⟩
  · exact ⟨2, by simp, by simpa [stops, one] using h⟩

theorem stops_of_recurses {r : Reply} (h : r.recurses = true) : r.stops = false := by
  have two : r.number? = some 2 := by simpa [recurses] using h
  simp [stops, two]

theorem stops_of_breaks {r : Reply} (h : r.breaks = true) : r.stops = true := by
  have zero : r.number? = some 0 := by simpa [breaks] using h
  simp [stops, zero]

theorem breaks_of_fine {r : Reply} {n : Int} (h : r.number? = some n) (known : n ∈ [0, 1, 2])
    (stops : r.stops = true) : r.breaks = true := by
  simp_all [Reply.stops, breaks]

end Reply

theorem Traversal.exec_heed (judge : Value → Binding Direction) (m : Binding Value) (side : Side)
    (w : World) :
    (heed judge m).exec side w =
      (Reply.ruling judge (m.exec side w).1).exec side (m.exec side w).2 := by
  have tried (k : Binding Direction) (w : World) : (Binding.attempt k).exec side w =
    (.ok (k.exec side w).1, (k.exec side w).2) := rfl
  cases told : m.exec side w with
  | mk r u =>
    cases r with
    | ok v =>
      refine Binding.exec_bind_congr ?_
      rw [tried, tried, Binding.exec_bind_ok told, pure_bind]
    | error e =>
      have failed := tried (m >>= judge) w
      rw [Binding.exec_bind_error told] at failed
      exact Binding.exec_bind_ok failed

namespace Traversal

variable {α : Type} {step : α → Binding Verdict} {side : Side} {x : α} {w v : World}

theorem exec_untilStop_stop {c : Option Failure} (r : List α)
    (h : (step x).exec side w = (.ok (.stop c), v)) :
    (untilStop step (x :: r)).exec side w = (.ok (.stop c), v) := by
  rw [untilStop, Binding.exec_bind_ok h]
  rfl

theorem exec_untilStop_next {d : Verdict} (r : List α) (h : (step x).exec side w = (.ok d, v))
    (goes : stopped d = false) :
    (untilStop step (x :: r)).exec side w = (untilStop step r).exec side v := by
  rw [untilStop, Binding.exec_bind_ok h]
  cases d with
  | stop => cases goes
  | goOn | descend => rfl

theorem exec_enter_descend (visit : Symbol → Symbol → Binding Verdict)
    (inside : Symbol → Binding Verdict) {parent child : Symbol}
    (h : (visit child parent).exec side w = (.ok .descend, v)) :
    (enter visit inside parent child).exec side w = (inside child).exec side v := by
  rw [enter, Binding.exec_bind_ok h]

theorem exec_enter_stay (visit : Symbol → Symbol → Binding Verdict)
    (inside : Symbol → Binding Verdict) {parent child : Symbol} {d : Verdict}
    (h : (visit child parent).exec side w = (.ok d, v)) (stays : d ≠ .descend) :
    (enter visit inside parent child).exec side w = (.ok d, v) := by
  rw [enter, Binding.exec_bind_ok h]
  cases d with
  | descend => exact absurd rfl stays
  | goOn | stop => rfl

theorem untilStop_append (xs ys : List α) :
    untilStop step (xs ++ ys) = untilStop step xs >>= fun
      | .stop c => pure (.stop c)
      | _ => untilStop step ys := by
  induction xs with
  | nil => rfl
  | cons x r ih =>
    rw [List.cons_append, untilStop, untilStop, bind_assoc]
    congr 1
    funext d
    cases d with
    | stop => rfl
    | goOn | descend => exact ih

end Traversal

abbrev Meeting : Type := Symbol × Symbol

/-- How a visitor answers: by what it was told before, and what it is told now. -/
abbrev Answers : Type := List Meeting → Meeting → Reply

namespace Forest

theorem eq_nil_of_height {f : Forest} (h : f.height = 0) : f = .nil := by
  cases f with
  | nil => rfl
  | cons s inside rest =>
    simp only [height] at h
    omega

/-- The preorder in which a cursor is entered if the answer about it is to recurse, after some
meetings. -/
def preorder (answers : Answers) (parent : Symbol) : Forest → List Meeting → List Meeting
  | .nil, _ => []
  | .cons s inside rest, before =>
    let below :=
      if (answers before (s, parent)).recurses then
        inside.preorder answers s (before ++ [(s, parent)])
      else []
    let met := (s, parent) :: below
    met ++ rest.preorder answers parent (before ++ met)

end Forest

namespace Answers

variable (answers : Answers)

def cut : List Meeting → List Meeting → List Meeting
  | _, [] => []
  | before, m :: r =>
    if (answers before m).stops then [m] else m :: cut (before ++ [m]) r

theorem cut_of_going {answers : Answers} (goes : ∀ met m, (answers met m).stops = false)
    (before ms : List Meeting) : answers.cut before ms = ms := by
  induction ms generalizing before with
  | nil => rfl
  | cons m r ih => rw [cut, if_neg (by simp [goes]), ih]

def last? (met : List Meeting) : Option Reply := met.getLast?.map (answers met.dropLast)

def outcome (met : List Meeting) : Binding Verdict :=
  match answers.last? met with
  | some r => if r.stops then r.ruling Direction.ofAnswer else pure .goOn
  | none => pure .goOn

@[simp]
theorem last?_append_singleton (before : List Meeting) (m : Meeting) :
    answers.last? (before ++ [m]) = some (answers before m) := by
  simp [last?]

end Answers

namespace Visitor

variable (visitor : Visitor Cursor) (unit : Option Handle) (side : Side) (w : World)

def tell (m : Meeting) : Binding Value := visitor ⟨m.1, unit⟩ ⟨m.2, unit⟩

def after (met : List Meeting) : World :=
  met.foldl (fun v m => ((visitor.tell unit m).exec side v).2) w

def answers : Answers := fun met m =>
  ((visitor.tell unit m).exec side (visitor.after unit side w met)).1

def step (m : Meeting) : Binding Verdict := Traversal.heed Direction.ofAnswer (visitor.tell unit m)

theorem after_append_singleton (met : List Meeting) (m : Meeting) :
    visitor.after unit side w (met ++ [m]) =
      ((visitor.tell unit m).exec side (visitor.after unit side w met)).2 := by
  simp [after]

theorem exec_step (met : List Meeting) (m : Meeting) :
    (visitor.step unit m).exec side (visitor.after unit side w met) =
      ((visitor.answers unit side w met m).ruling Direction.ofAnswer).exec side
        (visitor.after unit side w (met ++ [m])) := by
  rw [step, Traversal.exec_heed, after_append_singleton]
  rfl

variable {visitor unit side w}

theorem exec_step_of_stops {met : List Meeting} {m : Meeting}
    (h : (visitor.answers unit side w met m).stops = true) :
    ∃ c u, (visitor.step unit m).exec side (visitor.after unit side w met) = (.ok (.stop c), u) := by
  rw [exec_step]
  exact Reply.exec_ruling_of_stops h side _

theorem exec_untilStop {before : List Meeting} (going : ∀ r,
    (visitor.answers unit side w).last? before = some r → r.stops = false) (ms : List Meeting) :
    (Traversal.untilStop (visitor.step unit) ms).exec side (visitor.after unit side w before) =
      ((visitor.answers unit side w).outcome
          (before ++ (visitor.answers unit side w).cut before ms)).exec side
        (visitor.after unit side w (before ++ (visitor.answers unit side w).cut before ms)) := by
  induction ms generalizing before with
  | nil =>
    have goes : (visitor.answers unit side w).outcome before = pure .goOn := by
      unfold Answers.outcome
      split
      · rename_i r e
        simp [going r e]
      · rfl
    rw [Answers.cut, List.append_nil, goes]
    rfl
  | cons m r ih =>
    have told := visitor.exec_step unit side w before m
    cases e : (visitor.answers unit side w before m).stops with
    | true =>
      obtain ⟨c, u, stopped⟩ := exec_step_of_stops e
      rw [Traversal.exec_untilStop_stop r stopped, Answers.cut, if_pos e, Answers.outcome,
        Answers.last?_append_singleton]
      simp only [e, if_true]
      exact stopped.symm.trans told
    | false =>
      have still : ∀ r, (visitor.answers unit side w).last? (before ++ [m]) = some r →
          r.stops = false := by
        intro r last
        rw [Answers.last?_append_singleton] at last
        cases last
        exact e
      have next : (Traversal.untilStop (visitor.step unit) (m :: r)).exec side
          (visitor.after unit side w before) = (Traversal.untilStop (visitor.step unit) r).exec side
            (visitor.after unit side w (before ++ [m])) := by
        obtain ⟨stops, -⟩ | ⟨-, -, on⟩ | ⟨-, -, down⟩ :=
          Reply.ruling_cases (visitor.answers unit side w before m)
        · simp [e] at stops
        · exact Traversal.exec_untilStop_next r (told.trans (on side _)) rfl
        · exact Traversal.exec_untilStop_next r (told.trans (down side _)) rfl
      rw [next, ih still, Answers.cut, if_neg (by simp [e]), List.append_assoc,
        List.singleton_append]

theorem exec_goes {before ms : List Meeting} {d : Verdict} {v : World}
    (h : (Traversal.untilStop (visitor.step unit) ms).exec side (visitor.after unit side w before) =
      (.ok d, v)) (goes : Traversal.stopped d = false) :
    v = visitor.after unit side w (before ++ ms) := by
  induction ms generalizing before with
  | nil =>
    cases h
    rw [List.append_nil]
  | cons m r ih =>
    have told := visitor.exec_step unit side w before m
    obtain ⟨stops, -⟩ | ⟨-, -, on⟩ | ⟨-, -, down⟩ :=
      Reply.ruling_cases (visitor.answers unit side w before m)
    · obtain ⟨c, u, stopped⟩ := exec_step_of_stops stops
      rw [Traversal.exec_untilStop_stop r stopped] at h
      cases h
      cases goes
    · rw [Traversal.exec_untilStop_next r (told.trans (on side _)) rfl] at h
      rw [ih h, List.append_assoc, List.singleton_append]
    · rw [Traversal.exec_untilStop_next r (told.trans (down side _)) rfl] at h
      rw [ih h, List.append_assoc, List.singleton_append]

theorem exec_forest {ss : List Symbol} {f : Forest} (h : side.Unfolds ss f) {depth : Nat}
    (nests : f.height ≤ depth + 1) (parent : Symbol) (before : List Meeting) :
    let step := fun child parent => visitor.step unit (child, parent)
    (Traversal.untilStop (Traversal.enter step (Traversal.below step depth) parent) ss).exec side
        (visitor.after unit side w before) =
      (Traversal.untilStop (visitor.step unit)
        (f.preorder (visitor.answers unit side w) parent before)).exec side
        (visitor.after unit side w before) := by
  intro step
  induction h generalizing depth parent before with
  | nil => rfl
  | @cons s r inside rest below others ihBelow ihOthers =>
    simp only [Forest.height, Nat.max_le, Nat.add_le_add_iff_right] at nests
    obtain ⟨deep, wide⟩ := nests
    have told := visitor.exec_step unit side w before (s, parent)
    rw [Forest.preorder, List.cons_append]
    obtain ⟨stops, -⟩ | ⟨-, stays, on⟩ | ⟨-, enters, down⟩ :=
      Reply.ruling_cases (visitor.answers unit side w before (s, parent))
    · obtain ⟨c, u, stopped⟩ := exec_step_of_stops stops
      have entered := Traversal.exec_enter_stay step (Traversal.below step depth) stopped (by simp)
      rw [Traversal.exec_untilStop_stop r entered, Traversal.exec_untilStop_stop _ stopped]
    · replace told := told.trans (on side _)
      have entered := Traversal.exec_enter_stay step (Traversal.below step depth) told (by simp)
      rw [Traversal.exec_untilStop_next r entered rfl, Traversal.exec_untilStop_next _ told rfl]
      simp only [stays]
      exact ihOthers wide parent _
    · replace told := told.trans (down side _)
      have entered := Traversal.exec_enter_descend step (Traversal.below step depth) told
      have opened : (Traversal.below step depth s).exec side
          (visitor.after unit side w (before ++ [(s, parent)])) =
            (Traversal.untilStop (visitor.step unit)
              (inside.preorder (visitor.answers unit side w) s (before ++ [(s, parent)]))).exec side
              (visitor.after unit side w (before ++ [(s, parent)])) := by
        cases depth with
        | zero =>
          rw [Forest.eq_nil_of_height (Nat.le_zero.mp deep)]
          rfl
        | succ depth => exact ihBelow deep s _
      replace entered := entered.trans opened
      rw [Traversal.exec_untilStop_next _ told rfl, if_pos enters,
        Traversal.untilStop_append]
      cases ended : (Traversal.untilStop (visitor.step unit)
          (inside.preorder (visitor.answers unit side w) s (before ++ [(s, parent)]))).exec side
          (visitor.after unit side w (before ++ [(s, parent)])) with
      | mk d v =>
        rw [ended] at entered
        cases d with
        | error x =>
          rw [Traversal.untilStop, Binding.exec_bind_error entered, Binding.exec_bind_error ended]
        | ok d =>
          rw [Binding.exec_bind_ok ended]
          cases d with
          | stop c => exact Traversal.exec_untilStop_stop r entered
          | goOn | descend =>
            rw [Traversal.exec_untilStop_next r entered rfl, visitor.exec_goes ended rfl,
              List.append_assoc]
            exact ihOthers wide parent _

end Visitor

namespace Answers

variable {answers : Answers} {met : List Meeting} {r : Reply}

theorem outcome_of_stops (last : answers.last? met = some r) (stops : r.stops = true) :
    answers.outcome met = r.ruling Direction.ofAnswer := by
  simp only [outcome, last, stops, if_true]

theorem outcome_of_going (goes : ∀ r, answers.last? met = some r → r.stops = false) :
    answers.outcome met = pure .goOn := by
  unfold outcome
  split
  · rename_i r last
    simp [goes r last]
  · rfl

def broke (answers : Answers) (met : List Meeting) : Bool := (answers.last? met).any Reply.breaks

theorem exec_outcome_of_fine (fine : ∀ r, answers.last? met = some r →
    ∃ n ∈ [0, 1, 2], r.number? = some n) (side : Side) (w : World) :
    ∃ d, (answers.outcome met).exec side w = (.ok d, w) ∧
      Traversal.raisePending d = pure () ∧ Traversal.stopped d = answers.broke met := by
  by_cases stops : ∃ r, answers.last? met = some r ∧ r.stops = true
  · obtain ⟨r, last, stops⟩ := stops
    obtain ⟨n, known, number⟩ := fine r last
    have zero : r.number? = some 0 := by
      simpa [Reply.breaks] using Reply.breaks_of_fine number known stops
    rw [outcome_of_stops last stops, broke, last]
    exact ⟨_, Reply.exec_ruling_of_number zero rfl side w, rfl, by simp [Direction.verdict,
      Traversal.stopped, Reply.breaks, zero]⟩
  · have goes (r) (last : answers.last? met = some r) : r.stops = false := by
      simpa [last] using stops
    rw [outcome_of_going goes, broke]
    refine ⟨.goOn, rfl, rfl, ?_⟩
    cases last : answers.last? met with
    | none => rfl
    | some r =>
      cases b : r.breaks with
      | false => simp [Traversal.stopped, b]
      | true => exact absurd (Reply.stops_of_breaks b) (by simp [goes r last])

end Answers

def Native.Answer.report (a : Answer) (call : Call) (stopped : Bool) : Int :=
  match a.result with
  | .default => if stopped then 1 else 0
  | _ => a.number call

namespace World

def afterCall (w : World) (call : Call) : World :=
  { w with dealings := ⟨call, [], none⟩ :: w.dealings }

def afterFailure (w : World) (e : Failure) : World :=
  { w with records := ⟨.debug, "clangbind.cursor",
      "Traversal stopped by " ++ e.kind ++ " from visitor", w.context⟩ :: w.records }

end World

namespace Cursor

def visitCall (c : Cursor) : Call := ⟨.visitChildren, [.struct c.symbol]⟩

variable {side : Side} {c : Cursor}

theorem exec_invoke_visitChildren (c : Cursor) (side : Side) (w : World) :
    (Function.visitChildren.invoke [.value (.cursor c)]).exec side w =
      (.ok (c.visitCall, side.answer w.calls c.visitCall), w.afterCall c.visitCall) := rfl

theorem exec_below {f : Forest} (h : side.Below c.symbol f) (visitor : Visitor Cursor) (w : World) :
    let answers := visitor.answers c.unit side w
    let met := answers.cut [] (f.preorder answers c.symbol [])
    (Traversal.below (fun child parent => visitor.step c.unit (child, parent)) side.depth
        c.symbol).exec side w =
      (answers.outcome met).exec side (visitor.after c.unit side w met) := by
  intro answers met
  obtain ⟨depth, deep⟩ : ∃ depth, side.depth = depth + 1 :=
    ⟨side.depth - 1, by have := h.nests; omega⟩
  have nests : f.height ≤ depth + 1 := by
    have := h.nests
    omega
  have started : ∀ r, answers.last? [] = some r → r.stops = false := nofun
  rw [deep]
  exact (visitor.exec_forest h.unfolds nests c.symbol []).trans (visitor.exec_untilStop started _)

section

variable (c : Cursor) (side : Side) (f : Forest) (visitor : Visitor Cursor) (w : World)

def answers : Answers := visitor.answers c.unit side (w.afterCall c.visitCall)

def meetings : List Meeting :=
  (c.answers side visitor w).cut [] (f.preorder (c.answers side visitor w) c.symbol [])

def lastReply? : Option Reply := (c.answers side visitor w).last? (c.meetings side f visitor w)

/-- The state after the native call was made, and the visitor was told of each meeting in order. -/
def afterMeetings : World :=
  visitor.after c.unit side (w.afterCall c.visitCall) (c.meetings side f visitor w)

def visitReport : Int :=
  (side.answer w.calls c.visitCall).report c.visitCall
    ((c.answers side visitor w).broke (c.meetings side f visitor w))

def outcome : Binding Verdict := (c.answers side visitor w).outcome (c.meetings side f visitor w)

end

theorem exec_visit {f : Forest} (h : side.Below c.symbol f) (visitor : Visitor Cursor) (w : World) :
    (c.visit visitor).exec side w =
      (do
        let d ← c.outcome side f visitor w
        Traversal.raisePending d
        return match (side.answer w.calls c.visitCall).result with
          | .default => Traversal.stopped d
          | _ => (side.answer w.calls c.visitCall).number c.visitCall != 0 : Binding Bool).exec side
        (c.afterMeetings side f visitor w) := by
  have asked := exec_invoke_visitChildren c side w
  have read : (MonadReaderOf.read : Binding Side).exec side (w.afterCall c.visitCall) =
    (.ok side, w.afterCall c.visitCall) := rfl
  have walked := exec_below h visitor (w.afterCall c.visitCall)
  rw [visit, Binding.exec_bind_ok asked]
  exact (Binding.exec_bind_ok read).trans (Binding.exec_bind_congr walked)

section

variable (c : Cursor) (side : Side) (f : Forest) (visitor : Visitor Cursor) (w : World)

/-- What a visitor can rely on: whom it is told, in what order, and what the visit ends in. -/
structure VisitContract : Prop where
  raises : ∀ e, c.lastReply? side f visitor w = some (.error e) →
    (c.visit visitor).exec side w = (.error e, (c.afterMeetings side f visitor w).afterFailure e)
  refuses : ∀ v, c.lastReply? side f visitor w = some (.ok v) → Reply.number? (.ok v) = none →
    let shown := v.repr.exec side (c.afterMeetings side f visitor w)
    let e := Reply.refusal .notVisitAnswer shown.1
    (c.visit visitor).exec side w = (.error e, shown.2.afterFailure e) ∧
      (e.kind = "TypeError" ↔ ∀ x, shown.1 = .error x → x.kind = "TypeError")
  refusesNumber : ∀ v n, c.lastReply? side f visitor w = some (.ok v) →
    Reply.number? (.ok v) = some n → n ∉ [0, 1, 2] →
      ∃ e : Failure, e.kind = "ValueError" ∧
        (c.visit visitor).exec side w =
          (.error e, (c.afterMeetings side f visitor w).afterFailure e)
  ends : (∀ r, c.lastReply? side f visitor w = some r → ∃ n ∈ [0, 1, 2], r.number? = some n) →
    (c.visit visitor).exec side w =
      (.ok (c.visitReport side f visitor w != 0), c.afterMeetings side f visitor w)
  reports : c.visitReport side f visitor w =
      (if (c.answers side visitor w).broke (c.meetings side f visitor w) then 1 else 0) →
    ((c.visitReport side f visitor w != 0) = true ↔
      ∃ r, c.lastReply? side f visitor w = some r ∧ r.number? = some 0)

end

section

variable {f : Forest} {visitor : Visitor Cursor} {w : World}

theorem exec_visit_of_failure (h : side.Below c.symbol f) {r : Reply} {e : Failure} {u : World}
    (last : c.lastReply? side f visitor w = some r) (stops : r.stops = true)
    (ruled : (r.ruling Direction.ofAnswer).exec side (c.afterMeetings side f visitor w) =
      (.ok (.stop (some e)), u)) :
    (c.visit visitor).exec side w = (.error e, u.afterFailure e) := by
  rw [exec_visit h, outcome, Answers.outcome_of_stops last stops, Binding.exec_bind_ok ruled]
  rfl

theorem exec_visit_of_fine (h : side.Below c.symbol f)
    (fine : ∀ r, c.lastReply? side f visitor w = some r → ∃ n ∈ [0, 1, 2], r.number? = some n) :
    (c.visit visitor).exec side w =
      (.ok (c.visitReport side f visitor w != 0), c.afterMeetings side f visitor w) := by
  obtain ⟨d, ended, quiet, stopped⟩ :=
    Answers.exec_outcome_of_fine fine side (c.afterMeetings side f visitor w)
  rw [exec_visit h, outcome, Binding.exec_bind_ok ended, quiet, pure_bind, Binding.exec_pure,
    visitReport, Answer.report, stopped]
  cases (side.answer w.calls c.visitCall).result with
  | default =>
    cases (c.answers side visitor w).broke (c.meetings side f visitor w) <;> rfl
  | _ => rfl

theorem visitContract_of_below (h : side.Below c.symbol f) (visitor : Visitor Cursor) (w : World) :
    c.VisitContract side f visitor w where
  raises _ last := exec_visit_of_failure h last rfl rfl
  refuses v last none := by
    intro shown e
    refine ⟨exec_visit_of_failure h last (by simp [Reply.stops, none])
      (Reply.exec_ruling_error (Reply.exec_ofAnswer_of_no_number none side _)), ?_⟩
    have typed : ∀ s, (Failure.notVisitAnswer s).kind = "TypeError" := fun _ => rfl
    exact Reply.kind_refusal typed shown.1
  refusesNumber v n last number off := by
    obtain ⟨e, kind, refused⟩ := Reply.exec_ofAnswer_of_off number off side
      (c.afterMeetings side f visitor w)
    refine ⟨e, kind, exec_visit_of_failure h last ?_ (Reply.exec_ruling_error refused)⟩
    simp_all [Reply.stops]
  ends fine := exec_visit_of_fine h fine
  reports := by
    intro faithful
    rw [faithful]
    cases last : c.lastReply? side f visitor w with
    | none =>
      have broke : (c.answers side visitor w).broke (c.meetings side f visitor w) = false := by
        rw [Answers.broke, show (c.answers side visitor w).last? _ = none from last]
        rfl
      simp [broke]
    | some r =>
      have broke : (c.answers side visitor w).broke (c.meetings side f visitor w) = r.breaks := by
        rw [Answers.broke, show (c.answers side visitor w).last? _ = some r from last]
        rfl
      rw [broke]
      cases b : r.breaks <;> simp_all [Reply.breaks]

/-- Every visitor is told the preorder that its own answers make, up to the answer that ends the
traversal, and that answer alone decides what the visit ends in. This is so for whatever a visitor
does before it answers, also when it visits: what it fails with is saved for its own visit only. -/
theorem visit_follows_answers (c : Cursor) (visitor : Visitor Cursor) :
    (∀ (side : Side) (f : Forest), side.Below c.symbol f →
      ∀ w, c.VisitContract side f visitor w) ∧
    (∀ (script : Script) (f : Forest), script.toSide.Unfolds (script.toSide.children c.symbol) f →
      ∀ w, c.VisitContract script.toSide f visitor w) ∧
    c.visitSaving visitor = c.visit visitor :=
  ⟨fun _ _ h => visitContract_of_below h visitor,
    fun _ _ h => visitContract_of_below (Script.below_of_unfolds h) visitor,
    visitSaving_eq_visit c visitor⟩

def nested : Script where
  children := [("root", .array [.text "a", .text "b", .text "d"]), ("a", .array [.text "c"])]

def nestedForest : Forest := .cons "a" (.cons "c" .nil .nil) (.cons "b" .nil (.cons "d" .nil .nil))

def failingInside : Visitor Cursor := fun child _ => do
  if child.symbol = "a" then
    let _ ← Binding.attempt (visit ⟨"a", none⟩ fun _ _ => throw (.plain .key))
  if child.symbol = "b" then throw (.plain .index)
  return .int 2

def breaking : Visitor Cursor := fun _ _ => return .member ⟨.childVisitResult, 0⟩

theorem visit_follows_answers_inside :
    (visit ⟨"root", none⟩ failingInside).exec nested.toSide {} =
        (.error (.plain .index),
          (afterMeetings ⟨"root", none⟩ nested.toSide nestedForest failingInside {}).afterFailure
            (.plain .index)) ∧
      meetings ⟨"root", none⟩ nested.toSide nestedForest failingInside {} =
        [("a", "root"), ("c", "a"), ("b", "root")] ∧
      (visit ⟨"root", none⟩ breaking).exec nested.toSide {} =
        (.ok true, afterMeetings ⟨"root", none⟩ nested.toSide nestedForest breaking {}) ∧
      visitSaving ⟨"root", none⟩ breaking = visit ⟨"root", none⟩ breaking := by
  have unfolds : nested.toSide.Unfolds (nested.toSide.children "root") nestedForest :=
    .cons (.cons .nil .nil) (.cons .nil (.cons .nil .nil))
  have failing := (visit_follows_answers ⟨"root", none⟩ failingInside).2.1 nested nestedForest
    unfolds {}
  obtain ⟨contract, -, saved⟩ := visit_follows_answers ⟨"root", none⟩ breaking
  have stopped := contract nested.toSide nestedForest (Script.below_of_unfolds unfolds) {}
  refine ⟨failing.raises (.plain .index) rfl, rfl, stopped.ends fun r last => ?_, saved⟩
  cases last
  exact ⟨0, List.mem_cons_self, rfl⟩

def disposedDiagnostic : Handle := ⟨.diagnostic, 0⟩

def withDisposed : World := { handles := #[⟨.diagnostic, none, .diagnostic none, none, rfl⟩] }

def answeringDisposed : Visitor Cursor := fun _ _ => return .handle disposedDiagnostic

/-- The answer is no number and no member, but no type error says so: showing it fails. -/
theorem disposed_answer_unshown :
    nested.toSide.Unfolds (nested.toSide.children "root") nestedForest ∧
      lastReply? ⟨"root", none⟩ nested.toSide nestedForest answeringDisposed withDisposed =
        some (.ok (.handle disposedDiagnostic)) ∧
      Reply.number? (.ok (.handle disposedDiagnostic)) = none ∧
      ((visit ⟨"root", none⟩ answeringDisposed).exec nested.toSide withDisposed).1 =
        .error (.disposed .diagnostic) ∧
      (Failure.disposed .diagnostic).kind = "DisposedHandleError" :=
  ⟨.cons (.cons .nil .nil) (.cons .nil (.cons .nil .nil)), rfl, rfl, rfl, rfl⟩

end

end Cursor

end ClangIndex
