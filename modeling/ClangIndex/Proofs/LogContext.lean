import ClangIndex.Log.Program
import ClangIndex.Proofs.FailingRuns
import Mathlib.Logic.Function.Iterate

/-!
The run and the phase of log records. What a program writes is told from its text alone: the phase
of a step is that of the innermost scope around it, and the run is the one that was set last.
-/

namespace ClangIndex.Log

namespace Handler

variable {h : Handler}

def Ready (h : Handler) : Prop := h.contextual = true ∧ .context ∈ h.filters

def hear (rs : List Record) (h : Handler) : Handler :=
  { h with lines := h.lines ++ (rs.filter h.accepts).flatMap fun r => linesOf r.text }

@[simp]
theorem hear_nil (h : Handler) : h.hear [] = h := by simp [hear]

@[simp]
theorem hear_hear (rs rs' : List Record) (h : Handler) :
    (h.hear rs).hear rs' = h.hear (rs ++ rs') := by
  simp only [hear, List.append_assoc, List.filter_append, List.flatMap_append]
  rfl

theorem Ready.hear (ready : h.Ready) (rs : List Record) : (h.hear rs).Ready := ready

theorem ready_configure (h : Handler) : h.configure.Ready := by
  by_cases given : Filter.context ∈ h.filters <;> simp [configure, attach, Ready, given]

theorem Ready.configure_eq (ready : h.Ready) : h.configure = h := by
  cases h
  simp_all [configure, attach, Ready]

theorem count_configure (h : Handler) :
    h.configure.filters.count .context = max 1 (h.filters.count .context) := by
  by_cases given : Filter.context ∈ h.filters
  · have some := List.count_pos_iff.mpr given
    simp only [configure, attach, given, if_true]
    omega
  · simp [configure, attach, given, List.count_eq_zero.mpr given]

theorem others_configure (h : Handler) :
    h.configure.filters.filter (· ≠ .context) = h.filters.filter (· ≠ .context) := by
  by_cases given : Filter.context ∈ h.filters <;> simp [configure, attach, given]

theorem passOn_of_ready {hs : List Handler} (ready : ∀ h ∈ hs, h.Ready) (c : Context)
    (given : Option Context) (r : Record) :
    passOn c given r hs = hs.map (·.hear [{ r with context := c }]) := by
  induction hs generalizing given with
  | nil => rfl
  | cons h hs ih =>
    obtain ⟨contextual, filtered⟩ := ready h List.mem_cons_self
    have others := fun given => ih (fun k mem => ready k (List.mem_cons_of_mem h mem)) given
    cases accepted : h.accepts r with
    | true =>
      have heard : h.accepts { r with context := c } = true := accepted
      simp [passOn, accepted, heard, filtered, contextual, others, write, hear]
    | false =>
      have unheard : h.accepts { r with context := c } = false := accepted
      simp [passOn, accepted, unheard, others, hear]

end Handler

structure Setting where
  level : Level
  runId : String

/-- What comes of a program: the records that it writes in order, each with its run and its phase,
what it is told, what is in force at the end, and the failure that it ends in. -/
structure Course where
  records : List Record := []
  told : List String := []
  setting : Setting
  failure : Option Failure := none

namespace Course

def outcome (c : Course) : Except Failure Unit :=
  match c.failure with
  | some e => .error e
  | none => .ok ()

def andThen (c : Course) (next : Setting → Course) : Course :=
  match c.failure with
  | some _ => c
  | none =>
    let d := next c.setting
    { d with records := c.records ++ d.records, told := c.told ++ d.told }

theorem outcome_andThen {c : Course} (goes : c.failure = none) (next : Setting → Course) :
    (c.andThen next).outcome = (next c.setting).outcome := by
  simp [andThen, outcome, goes]

def recovered (c : Course) : Course :=
  match c.failure with
  | some _ => { c with told := c.told ++ ["caught"], failure := none }
  | none => c

end Course

namespace Act

mutual

/-- The course of a step in the scope of a phase. -/
def course (phase : String) : Act → Setting → Course
  | .configure level, s => { setting := { s with level } }
  | .log level logger pattern arguments, s =>
    let written := (record? level logger pattern arguments).filter fun r => s.level.admits r.level
    { records := written.toList.map fun r => { r with context := ⟨s.runId, phase⟩ }, setting := s }
  | .setRun given fresh, s =>
    let runId := Channel.runName given fresh
    { told := [runId], setting := { s with runId } }
  | .getRun, s => { told := [s.runId], setting := s }
  | .phase name body, s => courseAll name body s
  | .raise cause, s => { setting := s, failure := some cause }
  | .attempt body, s => (courseAll phase body s).recovered

def courseAll (phase : String) : List Act → Setting → Course
  | [], s => { setting := s }
  | a :: r, s => (course phase a s).andThen (courseAll phase r)

end

end Act

namespace Channel

def Ready (c : Channel) : Prop := c.handlers ≠ [] ∧ ∀ h ∈ c.handlers, h.Ready

def setting (c : Channel) : Setting := ⟨c.level, c.context.runId⟩

def receivers (c : Channel) : List Handler := if c.handlers.isEmpty then [{}] else c.handlers

def after (c : Channel) (course : Course) : Channel :=
  { c with
    level := course.setting.level
    handlers := c.handlers.map (·.hear course.records)
    context := { c.context with runId := course.setting.runId } }

variable {c : Channel} {d e : Course}

theorem ready_configure (level : Level) (c : Channel) : (c.configure level).Ready := by
  constructor
  · cases handlers : c.handlers <;> simp [configure, handlers]
  · intro h mem
    obtain ⟨k, -, rfl⟩ := List.mem_map.mp mem
    exact k.ready_configure

theorem Ready.configure_eq (ready : c.Ready) (level : Level) :
    c.configure level = { c with level } := by
  have same : c.handlers.map Handler.configure = c.handlers :=
    (List.map_congr_left fun h mem => (ready.2 h mem).configure_eq).trans (List.map_id _)
  simp [configure, ready.1, same]

theorem Ready.after (ready : c.Ready) (d : Course) : (c.after d).Ready := by
  constructor
  · simpa [Channel.after] using ready.1
  · intro h mem
    obtain ⟨k, there, rfl⟩ := List.mem_map.mp mem
    exact (ready.2 k there).hear d.records

@[simp]
theorem setting_after (c : Channel) (d : Course) : (c.after d).setting = d.setting := rfl

@[simp]
theorem phase_after (c : Channel) (d : Course) :
    (c.after d).context.phase = c.context.phase := rfl

theorem after_silent (c : Channel) {d : Course} (silent : d.records = [])
    (same : d.setting = c.setting) : c.after d = c := by
  simp [after, silent, same, setting]

theorem after_andThen (goes : d.failure = none) (next : Setting → Course) (c : Channel) :
    c.after (d.andThen next) = (c.after d).after (next d.setting) := by
  simp [after, Course.andThen, goes]

end Channel

namespace Logging

variable {α β : Type} {m : Logging α} {i j : Journal} {e : Failure}

section

variable {f : α → Logging β}

theorem exec_bind_ok {a : α} (h : m.exec i = (.ok a, j)) : (m >>= f).exec i = (f a).exec j :=
  FailingRun.bind_ok h

theorem exec_bind_error (h : m.exec i = (.error e, j)) : (m >>= f).exec i = (.error e, j) :=
  FailingRun.bind_error h

end

theorem exec_tryCatch_ok {g : Failure → Logging α} {a : α} (h : m.exec i = (.ok a, j)) :
    (tryCatch m g).exec i = (.ok a, j) :=
  FailingRun.tryCatch_ok h

theorem exec_tryCatch_error {g : Failure → Logging α} (h : m.exec i = (.error e, j)) :
    (tryCatch m g).exec i = (g e).exec j :=
  FailingRun.tryCatch_error h

theorem exec_observing {r : Except Failure α} (h : m.exec i = (r, j)) :
    (observing m).exec i = (.ok r, j) :=
  FailingRun.observing_eq h

theorem exec_change (f : Channel → Channel) (j : Journal) :
    (change f).exec j = (.ok (), { j with channel := f j.channel }) := rfl

theorem exec_inPhase (phase : String) (m : Logging Unit) (j : Journal) :
    let inside := m.exec { j with channel := j.channel.withPhase phase }
    (inPhase phase m).exec j = (inside.1, { inside.2 with
      channel := inside.2.channel.withPhase j.channel.context.phase }) := by
  intro inside
  have ran : m.exec { j with channel := j.channel.withPhase phase } = (inside.1, inside.2) := rfl
  rw [inPhase, exec_bind_ok (show exec get j = (.ok j, j) from rfl),
    exec_bind_ok (exec_change _ j), exec_bind_ok (exec_observing ran),
    exec_bind_ok (exec_change _ _)]
  cases inside.1 <;> rfl

end Logging

namespace Journal

def after (j : Journal) (d : Course) : Journal := ⟨j.channel.after d, j.told ++ d.told⟩

theorem after_andThen {d : Course} (goes : d.failure = none) (next : Setting → Course)
    (j : Journal) : j.after (d.andThen next) = (j.after d).after (next d.setting) := by
  rw [after, Channel.after_andThen goes]
  simp [after, Course.andThen, goes]

end Journal

namespace Channel

variable {c : Channel}

theorem Ready.write_eq (ready : c.Ready) (r : Record) :
    c.write r = c.after {
      records := if c.level.admits r.level then [{ r with context := c.context }] else []
      setting := c.setting } := by
  cases admitted : c.level.admits r.level with
  | true =>
    simp [write, Channel.after, admitted, ready.1, Handler.passOn_of_ready ready.2, setting]
  | false =>
    rw [write, admitted]
    exact (after_silent c rfl rfl).symm

end Channel

namespace Act

open Logging

variable {j : Journal}

theorem exec_log (level : Level) (logger pattern : String) (arguments : List Value)
    (ready : j.channel.Ready) :
    let a := Act.log level logger pattern arguments
    let d := a.course j.channel.context.phase j.channel.setting
    a.run.exec j = (d.outcome, j.after d) := by
  intro a d
  cases found : record? level logger pattern arguments with
  | none =>
    have silent : d = { setting := j.channel.setting } := by simp [d, a, course, found]
    have done : a.run = pure () := by simp [a, run, found]
    rw [done, silent, Journal.after, j.channel.after_silent rfl rfl, List.append_nil]
    rfl
  | some r =>
    have written : a.run = change (.write r) := by simp [a, run, found]
    rw [written, exec_change, ready.write_eq]
    cases admitted : j.channel.level.admits r.level with
    | true =>
      simp [d, a, course, found, admitted, Channel.setting, Journal.after, Course.outcome,
        Option.filter]
    | false =>
      simp [d, a, course, found, admitted, Channel.setting, Journal.after, Course.outcome,
        Option.filter]

theorem exec_phase (name : String) (body : List Act)
    (ran : ∀ {j : Journal}, j.channel.Ready →
      let d := courseAll j.channel.context.phase body j.channel.setting
      (runAll body).exec j = (d.outcome, j.after d)) (ready : j.channel.Ready) :
    let d := courseAll name body j.channel.setting
    (Act.phase name body).run.exec j = (d.outcome, j.after d) := by
  intro d
  have inside : (runAll body).exec { j with channel := j.channel.withPhase name } =
      (d.outcome, Journal.after { j with channel := j.channel.withPhase name } d) := ran ready
  rw [run, exec_inPhase, inside]
  rfl

theorem exec_attempt (body : List Act) {d : Course}
    (ran : (runAll body).exec j = (d.outcome, j.after d)) :
    (Act.attempt body).run.exec j = (d.recovered.outcome, j.after d.recovered) := by
  cases failed : d.failure with
  | none =>
    have same : d.recovered = d := by simp [Course.recovered, failed]
    have fine : d.outcome = .ok () := by simp [Course.outcome, failed]
    rw [fine] at ran
    rw [run, exec_tryCatch_ok ran, same, fine]
  | some e =>
    have failing : d.outcome = .error e := by simp [Course.outcome, failed]
    rw [failing] at ran
    rw [run, exec_tryCatch_error ran]
    have told : (tell "caught").exec (j.after d) = (.ok (), _) := rfl
    rw [told]
    simp [Course.recovered, Course.outcome, failed, Journal.after, Channel.after]

theorem exec_andThen {m n : Logging Unit} {d : Course} {next : Setting → Course}
    (first : m.exec j = (d.outcome, j.after d))
    (second : n.exec (j.after d) = ((next d.setting).outcome, (j.after d).after (next d.setting))) :
    (do m; n : Logging Unit).exec j = ((d.andThen next).outcome, j.after (d.andThen next)) := by
  cases failed : d.failure with
  | none =>
    have fine : d.outcome = .ok () := by simp [Course.outcome, failed]
    rw [fine] at first
    rw [exec_bind_ok first, second, Course.outcome_andThen failed, Journal.after_andThen failed]
  | some e =>
    have failing : d.outcome = .error e := by simp [Course.outcome, failed]
    rw [failing] at first
    rw [exec_bind_error first]
    simp [Course.andThen, failed, failing]

mutual

/-- A step runs along its course. The induction is on the text of the program; it needs that the
handlers stay ready on the way. -/
theorem exec_run : (a : Act) → {j : Journal} → j.channel.Ready →
    let d := a.course j.channel.context.phase j.channel.setting
    a.run.exec j = (d.outcome, j.after d)
  | .configure level, j, ready => by
    rw [run, exec_change, ready.configure_eq]
    simp [course, Course.outcome, Journal.after, Channel.after, Channel.setting]
  | .log level logger pattern arguments, j, ready =>
    exec_log level logger pattern arguments ready
  | .setRun given fresh, j, ready => by
    rw [run, exec_bind_ok (exec_change _ j)]
    have told (i : Journal) : tellRun.exec i =
        (.ok (), { i with told := i.told ++ [i.channel.context.runId] }) := rfl
    rw [told]
    simp [course, Course.outcome, Journal.after, Channel.after, Channel.setRun, Channel.setting]
  | .getRun, j, ready => by
    have told : tellRun.exec j =
        (.ok (), { j with told := j.told ++ [j.channel.context.runId] }) := rfl
    rw [run, told]
    simp [course, Course.outcome, Journal.after, Channel.after, Channel.setting]
  | .phase name body, j, ready => exec_phase name body (exec_runAll body) ready
  | .raise cause, j, ready => by
    have failed : (throw cause : Logging Unit).exec j = (.error cause, j) := rfl
    rw [run, failed]
    simp [course, Course.outcome, Journal.after, Channel.after, Channel.setting]
  | .attempt body, j, ready => exec_attempt body (exec_runAll body ready)

theorem exec_runAll : (as : List Act) → {j : Journal} → j.channel.Ready →
    let d := courseAll j.channel.context.phase as j.channel.setting
    (runAll as).exec j = (d.outcome, j.after d)
  | [], j, ready => by
    have done : (pure () : Logging Unit).exec j = (.ok (), j) := rfl
    rw [runAll, done]
    simp [courseAll, Course.outcome, Journal.after, Channel.after, Channel.setting]
  | a :: as, j, ready => by
    rw [runAll, courseAll]
    exact exec_andThen (exec_run a ready) (exec_runAll as (ready.after _))

end

theorem phase_scope (name : String) (body : List Act) (j : Journal) :
    ((Act.phase name body).run.exec j).2.channel.context.phase = j.channel.context.phase := by
  rw [run, exec_inPhase]
  rfl

/-- Every program on a configured channel runs along its course: the handlers write each record with
its run and its phase. No scope changes the phase for what follows it. Configuring the channel again
changes nothing, and leaves every handler with the filters it had and one for the context. -/
theorem records_correlated (level : Level) (c : Channel) (program : List Act) :
    let d := courseAll c.context.phase program ⟨level, c.context.runId⟩
    let start : Journal := { channel := c.configure level }
    let final := (start.after d).channel
    (runAll program).exec start = (d.outcome, start.after d) ∧
      (∀ name body j,
        ((Act.phase name body).run.exec j).2.channel.context.phase = j.channel.context.phase) ∧
      (∀ n, (Channel.configure final.level)^[n] final = final) ∧
      final.handlers.map (·.filters.count .context) =
        c.receivers.map (fun h => max 1 (h.filters.count .context)) ∧
      final.handlers.map (·.filters.filter (· ≠ .context)) =
        c.receivers.map (·.filters.filter (· ≠ .context)) := by
  intro d start final
  have ready : start.channel.Ready := c.ready_configure level
  refine ⟨exec_runAll program ready, phase_scope, ?_, ?_, ?_⟩
  · intro n
    apply Function.iterate_fixed
    exact (ready.after d).configure_eq _
  · simp only [final, start, Journal.after, Channel.after, Channel.configure, List.map_map]
    exact List.map_congr_left fun h _ => h.count_configure
  · simp only [final, start, Journal.after, Channel.after, Channel.configure, List.map_map]
    exact List.map_congr_left fun h _ => h.others_configure

example :
    let c : Channel := .configure .info (.withHandlers 1)
    let nested : List Act := [.log .info "visitor" "one" [],
      .phase "parse" [.attempt [.phase "visit" [.log .info "" "two" [], .raise .tokensDisposed]],
        .setRun (some "r1") "", .log .info "" "three" []],
      .log .info "" "four" []]
    ((runAll nested).exec { channel := c }).2.channel.handlers.map (·.lines) =
      [["INFO | run_id=- | phase=- | visitor | one", "INFO | run_id=- | phase=visit | root | two",
        "INFO | run_id=r1 | phase=parse | root | three",
        "INFO | run_id=r1 | phase=- | root | four"]] := by
  rfl

end Act

end ClangIndex.Log
