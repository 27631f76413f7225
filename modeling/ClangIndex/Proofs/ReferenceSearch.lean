import ClangIndex.Proofs.CheckedCalls
import ClangIndex.Proofs.VisitOrder

namespace ClangIndex

open Native (Answer Argument Call Function Side)

abbrev Reference : Type := Symbol × Symbol

namespace Reply

def continues (r : Reply) : Bool := r.number? == some 1

/-- What a search makes of a reply, where nothing can be entered. -/
abbrev searchRuling (r : Reply) : Binding Verdict := r.ruling Direction.ofReferenceAnswer

variable {v : Value} {r : Reply}

theorem exec_searchRuling_of_known {n : Int} {d : Direction} (h : r.number? = some n)
    (known : Direction.ofNumber? n = some d) (stays : d ≠ .descend) (side : Side) (w : World) :
    r.searchRuling.exec side w = (.ok d.verdict, w) := by
  cases r with
  | error e => cases h
  | ok v =>
    refine exec_ruling_ok ?_
    rw [Direction.ofReferenceAnswer, ofAnswer_of_known h known, pure_bind]
    cases d with
    | descend => exact absurd rfl stays
    | stop | goOn => rfl

theorem exec_searchRuling_of_continues (h : r.continues = true) (side : Side) (w : World) :
    r.searchRuling.exec side w = (.ok .goOn, w) :=
  exec_searchRuling_of_known (eq_of_beq h) rfl nofun side w

theorem exec_searchRuling_of_no_number (h : number? (.ok v) = none) (side : Side) (w : World) :
    (searchRuling (.ok v)).exec side w =
      (.ok (.stop (some (refusal .notVisitAnswer (v.repr.exec side w).1))),
        (v.repr.exec side w).2) :=
  exec_ruling_error (Binding.exec_bind_error (exec_ofAnswer_of_no_number h side w))

theorem exec_searchRuling_of_off {n : Int} (h : number? (.ok v) = some n) (off : n ∉ [0, 1])
    (side : Side) (w : World) : ∃ e : Failure, e.kind = "ValueError" ∧
      (searchRuling (.ok v)).exec side w = (.ok (.stop (some e)), w) := by
  by_cases two : n = 2
  · subst two
    have entered : Direction.ofReferenceAnswer v =
        v.repr >>= fun s => throw (.notReferenceAnswer s) := by
      rw [Direction.ofReferenceAnswer, ofAnswer_of_known h rfl, pure_bind]
    have typed : ∀ s, (Failure.notReferenceAnswer s).kind = "ValueError" := fun _ => rfl
    obtain ⟨e, kind, refused⟩ := exec_refuse_number typed h side w
    exact ⟨e, kind, exec_ruling_error (entered ▸ refused)⟩
  · obtain ⟨e, kind, refused⟩ := exec_ofAnswer_of_off h (by simp_all) side w
    exact ⟨e, kind, exec_ruling_error (Binding.exec_bind_error refused)⟩

theorem exec_searchRuling_of_not_continues (h : r.continues = false) (side : Side) (w : World) :
    ∃ c u, r.searchRuling.exec side w = (.ok (.stop c), u) := by
  cases r with
  | error e => exact ⟨_, _, rfl⟩
  | ok v =>
    cases number : number? (.ok v) with
    | none => exact ⟨_, _, exec_searchRuling_of_no_number number side w⟩
    | some n =>
      have other : n ≠ 1 := by
        intro one
        simp [continues, number, one] at h
      by_cases zero : n = 0
      · subst zero
        exact ⟨_, _, exec_searchRuling_of_known number rfl nofun side w⟩
      · obtain ⟨e, -, refused⟩ :=
          exec_searchRuling_of_off number (by simp [zero, other]) side w
        exact ⟨_, _, refused⟩

end Reply

namespace Visitor

variable (visitor : Visitor Symbol) (unit : Option Handle) (side : Side)

def hear (r : Reference) : Binding Value := visitor ⟨r.1, unit⟩ r.2

def afterHearing (w : World) (rs : List Reference) : World :=
  rs.foldl (fun v r => ((visitor.hear unit r).exec side v).2) w

/-- The references that a visitor is told of, each with the reply to it: all of them up to the first
one that is not answered by a continue. -/
def dialogue : List Reference → World → List (Reference × Reply)
  | [], _ => []
  | r :: rest, w =>
    let told := (visitor.hear unit r).exec side w
    (r, told.1) :: if Reply.continues told.1 then dialogue rest told.2 else []

variable {visitor unit side} {p : Reference × Reply} {w : World}

theorem dialogue_isPrefix (rs : List Reference) (w : World) :
    (visitor.dialogue unit side rs w).map (·.1) <+: rs := by
  induction rs generalizing w with
  | nil => exact List.prefix_rfl
  | cons r rest ih =>
    simp only [dialogue, List.map_cons, List.cons_prefix_cons, true_and]
    split
    · exact ih _
    · exact List.nil_prefix

theorem reply_of_dialogue {rs : List Reference} {before after : List (Reference × Reply)}
    (h : visitor.dialogue unit side rs w = before ++ p :: after) :
    p.2 = ((visitor.hear unit p.1).exec side
      (visitor.afterHearing unit side w (before.map (·.1)))).1 := by
  induction rs generalizing w before with
  | nil => simp [dialogue] at h
  | cons r rest ih =>
    rw [dialogue] at h
    cases before with
    | nil =>
      injection h with first
      subst first
      rfl
    | cons q before =>
      injection h with first later
      subst first
      split at later
      · have reply := ih later
        exact reply
      · cases before <;> cases later

theorem continues_of_mem_dropLast {rs : List Reference}
    (h : p ∈ (visitor.dialogue unit side rs w).dropLast) : Reply.continues p.2 = true := by
  induction rs generalizing w with
  | nil => cases h
  | cons r rest ih =>
    rw [dialogue] at h
    split at h
    · rename_i goes
      cases later : visitor.dialogue unit side rest ((visitor.hear unit r).exec side w).2 with
      | nil => simp [later] at h
      | cons q others =>
        rw [later, List.dropLast_cons_cons, ← later] at h
        cases h with
        | head => exact goes
        | tail _ m => exact ih m
    · cases h

theorem dialogue_ends (rs : List Reference) (w : World) :
    (visitor.dialogue unit side rs w).map (·.1) = rs ∨
      ∃ p, (visitor.dialogue unit side rs w).getLast? = some p ∧ Reply.continues p.2 = false := by
  induction rs generalizing w with
  | nil => exact .inl rfl
  | cons r rest ih =>
    rw [dialogue]
    cases goes : Reply.continues ((visitor.hear unit r).exec side w).1 with
    | false => exact .inr ⟨_, rfl, goes⟩
    | true =>
      cases ih ((visitor.hear unit r).exec side w).2 with
      | inl all => exact .inl (by simp [all])
      | inr last =>
        obtain ⟨p, last, stops⟩ := last
        exact .inr ⟨p, by simp [List.getLast?_cons, last], stops⟩

theorem exec_dialogue (rs : List Reference) (w : World) :
    (Traversal.untilStop
        (fun r => Traversal.heed Direction.ofReferenceAnswer (visitor.hear unit r)) rs).exec side w =
      ((visitor.dialogue unit side rs w).getLast?.elim (pure .goOn)
        (Reply.searchRuling ·.2)).exec side
        (visitor.afterHearing unit side w ((visitor.dialogue unit side rs w).map (·.1))) := by
  induction rs generalizing w with
  | nil => rfl
  | cons r rest ih =>
    have told := Traversal.exec_heed Direction.ofReferenceAnswer (visitor.hear unit r) side w
    rw [dialogue]
    cases goes : Reply.continues ((visitor.hear unit r).exec side w).1 with
    | false =>
      obtain ⟨c, u, ruled⟩ := Reply.exec_searchRuling_of_not_continues goes side
        ((visitor.hear unit r).exec side w).2
      rw [Traversal.exec_untilStop_stop rest (told.trans ruled)]
      exact ruled.symm
    | true =>
      have ruled := Reply.exec_searchRuling_of_continues goes side
        ((visitor.hear unit r).exec side w).2
      rw [Traversal.exec_untilStop_next rest (told.trans ruled) rfl, ih, if_pos rfl,
        List.getLast?_cons]
      cases last : (visitor.dialogue unit side rest
          ((visitor.hear unit r).exec side w).2).getLast? with
      | none =>
        rw [List.getLast?_eq_none_iff.mp last]
        exact ruled.symm
      | some p => rfl

end Visitor

structure Search where
  side : Side
  state : World
  cursor : Cursor
  file : Value
  visitor : Visitor Symbol
  argument : Argument
  fits : file.argument? state (.wrapper .file) = some argument
  usable : ∀ h, file = .handle h → h.Usable state

namespace Search

variable (s : Search)

def outcome : Except Failure Member × World :=
  (s.cursor.findReferences s.file s.visitor).exec s.side s.state

def call : Call := ⟨.findReferencesInFile, [.struct s.cursor.symbol, s.argument]⟩

def answer : Answer := s.side.answer s.state.calls s.call

def actuals : List Actual := [.value (.cursor s.cursor), .value s.file]

def during : World :=
  { s.state with
    dealings := Actual.dealing s.state s.call none s.actuals :: s.state.dealings }

def dialogue : List (Reference × Reply) :=
  s.visitor.dialogue s.cursor.unit s.side s.answer.references s.during

def heard : List Reference := s.dialogue.map (·.1)

def lastReply? : Option Reply := s.dialogue.getLast?.map (·.2)

def afterwards : World := s.visitor.afterHearing s.cursor.unit s.side s.during s.heard

def report : Int :=
  if s.lastReply?.any fun r => !r.continues then
    Number.Width.int32.wrap (s.answer.broken.getD 2)
  else s.answer.number s.call

/-- What a visitor can rely on: what it is told, and what the search makes of its last reply. The
report of the native side counts for a last reply to break or to continue only. -/
structure Contract : Prop where
  heard_isPrefix : s.heard <+: s.answer.references
  replies : ∀ before p after, s.dialogue = before ++ p :: after →
    p.2 = ((s.visitor ⟨p.1.1, s.cursor.unit⟩ p.1.2).exec s.side
      (s.visitor.afterHearing s.cursor.unit s.side s.during (before.map (·.1)))).1
  continues : ∀ p ∈ s.dialogue.dropLast, Reply.number? p.2 = some 1
  stops : s.heard = s.answer.references ∨ ∃ r, s.lastReply? = some r ∧ r.number? ≠ some 1
  raises : ∀ e, s.lastReply? = some (.error e) →
    s.outcome = (.error e, s.afterwards.afterFailure e)
  refuses : ∀ v, s.lastReply? = some (.ok v) → Reply.number? (.ok v) = none →
    let shown := v.repr.exec s.side s.afterwards
    let e := Reply.refusal .notVisitAnswer shown.1
    s.outcome = (.error e, shown.2.afterFailure e) ∧
      (e.kind = "TypeError" ↔ ∀ x, shown.1 = .error x → x.kind = "TypeError")
  refusesNumber : ∀ v n, s.lastReply? = some (.ok v) → Reply.number? (.ok v) = some n →
    n ∉ [0, 1] →
      ∃ e : Failure, e.kind = "ValueError" ∧ s.outcome = (.error e, s.afterwards.afterFailure e)
  ends : (∀ r, s.lastReply? = some r → ∃ n ∈ [0, 1], r.number? = some n) →
    s.outcome = (Enumeration.result.require s.report).exec s.side s.afterwards
  breaks : ∀ r, s.lastReply? = some r → r.number? = some 0 → s.report = 2 →
    ∃ m : Member, m.qualified = "Result.VISIT_BREAK" ∧ s.outcome = (.ok m, s.afterwards)
  finds : (∀ r, s.lastReply? = some r → r.number? = some 1) → s.report = 0 →
    ∃ m : Member, m.qualified = "Result.SUCCESS" ∧ s.outcome = (.ok m, s.afterwards)

variable {s}

theorem exec_invoke (s : Search) :
    (Function.findReferencesInFile.invoke s.actuals).exec s.side s.state =
      (.ok (s.call, s.answer), s.during) := by
  have clear : ∀ h ∈ Actual.objects s.actuals, h.Usable s.state := by
    intro h m
    cases e : s.file with
    | handle k =>
      rw [show Actual.objects s.actuals = [k] by simp [actuals, Actual.objects, e],
        List.mem_singleton] at m
      exact m ▸ s.usable k e
    | _ => simp [actuals, Actual.objects, e] at m
  have converted : Actual.convert s.state Function.findReferencesInFile.inputs s.actuals =
      some [.struct s.cursor.symbol, s.argument] := by
    change (do
      let a ← some (Argument.struct s.cursor.symbol)
      let as ← (do
        let a ← s.file.argument? s.state (.wrapper .file)
        let as ← some []
        pure (a :: as))
      pure (a :: as)) = _
    rw [s.fits]
    rfl
  change Function.findReferencesInFile.perform none s.actuals s.side s.state = _
  simp [Function.perform, Actual.obstacle_eq_none.mpr clear, converted, during, answer, call]

def ending (s : Search) : Binding Verdict := s.lastReply?.elim (pure .goOn) Reply.searchRuling

theorem outcome_eq (s : Search) :
    s.outcome =
      (do
        let d ← s.ending
        Traversal.raisePending d
        Enumeration.result.require
          (if Traversal.stopped d then Number.Width.int32.wrap (s.answer.broken.getD 2)
          else s.answer.number s.call) : Binding Member).exec s.side s.afterwards := by
  have walked :=
    @Visitor.exec_dialogue s.visitor s.cursor.unit s.side s.answer.references s.during
  have ended : s.dialogue.getLast?.elim (pure .goOn) (Reply.searchRuling ·.2) = s.ending := by
    rw [ending, lastReply?]
    cases s.dialogue.getLast? <;> rfl
  rw [show (s.visitor.dialogue s.cursor.unit s.side s.answer.references s.during) = s.dialogue
    from rfl, ended] at walked
  exact (Binding.exec_bind_ok s.exec_invoke).trans (Binding.exec_bind_congr walked)

theorem outcome_of_failure {r : Reply} {e : Failure} {u : World} (last : s.lastReply? = some r)
    (fails : r.searchRuling.exec s.side s.afterwards = (.ok (.stop (some e)), u)) :
    s.outcome = (.error e, u.afterFailure e) := by
  rw [outcome_eq, ending, last, Option.elim_some, Binding.exec_bind_ok fails]
  rfl

theorem outcome_of_known
    (known : ∀ r, s.lastReply? = some r → ∃ n ∈ [0, 1], r.number? = some n) :
    s.outcome = (Enumeration.result.require s.report).exec s.side s.afterwards := by
  rw [outcome_eq, ending, report]
  cases last : s.lastReply? with
  | none => rfl
  | some r =>
    obtain ⟨n, among, number⟩ := known r last
    obtain rfl | rfl : n = 0 ∨ n = 1 := by simpa using among
    all_goals
      have ruled := Reply.exec_searchRuling_of_known number rfl (by simp) s.side s.afterwards
      rw [Option.elim_some, Binding.exec_bind_ok ruled]
      simp [Reply.continues, number, Direction.verdict, Traversal.raisePending, Traversal.stopped]

theorem outcome_of_report {m : Member}
    (known : ∀ r, s.lastReply? = some r → ∃ n ∈ [0, 1], r.number? = some n)
    (named : Enumeration.result.ofNumber? s.report = some m) :
    s.outcome = (.ok m, s.afterwards) := by
  rw [outcome_of_known known, Enumeration.require, named]
  rfl

theorem contract (s : Search) : s.Contract where
  heard_isPrefix := Visitor.dialogue_isPrefix _ _
  replies _ _ _ := Visitor.reply_of_dialogue
  continues _ m := eq_of_beq (Visitor.continues_of_mem_dropLast m)
  stops := by
    refine (Visitor.dialogue_ends s.answer.references s.during).imp_right ?_
    rintro ⟨p, last, stops⟩
    refine ⟨p.2, by rw [lastReply?, dialogue, last, Option.map_some], ?_⟩
    simpa [Reply.continues] using stops
  raises _ last := outcome_of_failure last rfl
  refuses v last none := by
    have typed : ∀ s, (Failure.notVisitAnswer s).kind = "TypeError" := fun _ => rfl
    exact ⟨outcome_of_failure last (Reply.exec_searchRuling_of_no_number none s.side _),
      Reply.kind_refusal typed _⟩
  refusesNumber v n last number off := by
    obtain ⟨e, kind, ruled⟩ := Reply.exec_searchRuling_of_off number off s.side s.afterwards
    exact ⟨e, kind, outcome_of_failure last ruled⟩
  ends := outcome_of_known
  breaks r last zero reported := by
    refine ⟨⟨.result, 2⟩, by decide, outcome_of_report (fun r' last' => ?_) (by rw [reported]; rfl)⟩
    rw [last] at last'
    cases last'
    exact ⟨0, by simp, zero⟩
  finds goes reported :=
    ⟨⟨.result, 0⟩, by decide,
      outcome_of_report (fun r last => ⟨1, by simp, goes r last⟩) (by rw [reported]; rfl)⟩

end Search

namespace Cursor

def findReferencesSaving (c : Cursor) (file : Value) (visitor : Visitor Symbol) :
    Binding Member := do
  let (call, answer) ← Function.findReferencesInFile.invoke [.value (.cursor c), .value file]
  let (n, saved) ← (NativeTraversal.untilBreak
    (fun r => dispatch Direction.ofReferenceAnswer (visitor.hear c.unit r))
    answer.references).run none
  match saved with
  | some e =>
    Binding.log .debug "clangbind.cursor" ("Traversal stopped by " ++ e.kind ++ " from visitor")
    throw e
  | none =>
    Enumeration.result.require <|
      if n = 0 then Number.Width.int32.wrap (answer.broken.getD 2) else answer.number call

theorem findReferencesSaving_eq_findReferences (c : Cursor) (file : Value)
    (visitor : Visitor Symbol) :
    c.findReferencesSaving file visitor = c.findReferences file visitor := by
  have saves := Saves.untilBreak fun r =>
    Saves.dispatch Direction.ofReferenceAnswer (visitor.hear c.unit r)
  rw [findReferencesSaving, findReferences]
  refine congrArg _ (funext fun (call, answer) => ?_)
  dsimp only
  rw [saves answer.references, bind_map_left]
  refine congrArg _ (funext fun d => ?_)
  cases d with
  | stop cause =>
    cases cause with
    | none => rfl
    | some e => rfl
  | goOn => rfl
  | descend => rfl

end Cursor

namespace Search

/-- Every visitor is told of the references in order, up to the first reply that is not to continue.
That reply alone decides what the search fails with, whatever the native side reports; the report
counts for a search that fails with nothing. So it is also where a failure is saved beside the
search, and looked at only when the native call has returned. -/
theorem search_follows_replies (s : Search) :
    s.Contract ∧
      s.cursor.findReferencesSaving s.file s.visitor = s.cursor.findReferences s.file s.visitor :=
  ⟨s.contract, Cursor.findReferencesSaving_eq_findReferences _ _ _⟩

def threeReferences : Side where
  answer _ c := match c.function with
    | .findReferencesInFile =>
      { result := .int 7, references := [("a", "1"), ("b", "2"), ("c", "3")], broken := some 9 }
    | _ => {}

def answeringAbout (symbol : Symbol) (m : Binding Value) : Visitor Symbol := fun c _ =>
  if c.symbol = symbol then m else return .int 1

def amongThree (m : Binding Value) : Search where
  side := threeReferences
  state := {}
  cursor := ⟨"x", none⟩
  file := .none
  visitor := answeringAbout "b" m
  argument := .handle none
  fits := rfl
  usable := nofun

theorem search_follows_replies_among_three :
    (amongThree (throw (.plain .key))).outcome =
        (.error (.plain .key),
          (amongThree (throw (.plain .key))).afterwards.afterFailure (.plain .key)) ∧
      (amongThree (throw (.plain .key))).heard = [("a", "1"), ("b", "2")] ∧
      (∃ e : Failure, e.kind = "ValueError" ∧ (amongThree (return .int 2)).outcome =
        (.error e, (amongThree (return .int 2)).afterwards.afterFailure e)) ∧
      (amongThree (return .bool true)).outcome =
        (.error (.notVisitAnswer "True"),
          (amongThree (return .bool true)).afterwards.afterFailure (.notVisitAnswer "True")) ∧
      (amongThree (return .int 0)).outcome.1 =
        .error (.notMember "9" Enumeration.result.name) := by
  have raising := (search_follows_replies (amongThree (throw (.plain .key)))).1
  have entering := (search_follows_replies (amongThree (return .int 2))).1
  have deciding := (search_follows_replies (amongThree (return .bool true))).1
  have breaking := (search_follows_replies (amongThree (return .int 0))).1
  refine ⟨raising.raises _ rfl, rfl, entering.refusesNumber (.int 2) 2 rfl rfl (by decide),
    (deciding.refuses (.bool true) rfl rfl).1, ?_⟩
  rw [breaking.ends ?_]
  · rfl
  · intro r last
    cases last
    exact ⟨0, by decide, rfl⟩

def amongDisposed : Search :=
  { amongThree (return .handle Cursor.disposedDiagnostic) with
    state := Cursor.withDisposed
    fits := rfl
    usable := nofun }

/-- The reply is no number and no member, but no type error says so: showing it fails. -/
theorem disposed_reply_unshown :
    amongDisposed.lastReply? = some (.ok (.handle Cursor.disposedDiagnostic)) ∧
      Reply.number? (.ok (.handle Cursor.disposedDiagnostic)) = none ∧
      amongDisposed.outcome.1 = .error (.disposed .diagnostic) ∧
      (Failure.disposed .diagnostic).kind = "DisposedHandleError" :=
  ⟨rfl, rfl, rfl, rfl⟩

end Search

end ClangIndex
