import ClangIndex.Proofs.SettingsModes

namespace ClangIndex.Library

open Yaml (Datum Document)

namespace Reporting

/-- What a computation comes to, whatever was reported before it. -/
def Yields {α : Type} (m : Reporting α) (r : Except Failure α) : Prop := ∀ rs, (m.run rs).1 = r

namespace Yields

variable {α β : Type} {m : Reporting α} {f : α → Reporting β} {r : Except Failure α}

theorem exec (h : Yields m r) : m.exec.1 = r := h []

protected theorem pure (a : α) : Yields (pure a) (.ok a) := fun _ => rfl

protected theorem throw (e : Failure) : Yields (throw e : Reporting α) (.error e) := fun _ => rfl

theorem record (r : Log.Record) : Yields (Reporting.record r) (.ok ()) := fun _ => rfl

theorem rejected (p : Problem) (remedy : String) :
    Yields (Settings.object true p remedy) (.error (.invalidSettings p.message)) := fun _ => rfl

theorem noted (p : Problem) (remedy : String) :
    Yields (Settings.object false p remedy) (.ok ()) := fun _ => rfl

theorem lift (r : Except Failure α) : Yields (liftM r) r := by
  intro rs
  cases r <;> rfl

protected theorem bind {a : α} {s : Except Failure β} (h : Yields m (.ok a)) (k : Yields (f a) s) :
    Yields (m >>= f) s := by
  intro rs
  have run : m.run rs = (.ok a, (m.run rs).2) := Prod.ext (h rs) rfl
  rw [run_bind_ok run]
  exact k _

theorem bind_error {e : Failure} (h : Yields m (.error e)) : Yields (m >>= f) (.error e) := by
  intro rs
  have run : m.run rs = (.error e, (m.run rs).2) := Prod.ext (h rs) rfl
  rw [run_bind_error run]

end Yields

end Reporting

namespace Settings

open Reporting (Yields)

/-- What a file of settings gives. A missing one, and one whose text is none of a document, count as
empty. -/
inductive FileGives (files : Files.Tree) (path : String) : Document → Prop
  | missing (h : files.read path.toList = .error .missing) : FileGives files path {}
  | malformed {b : Text.Bytes} {f : Yaml.Fault} (read : files.read path.toList = .ok b)
      (fault : Document.ofSource (.ofBytes b) = .error (.fault f)) (ofText : f.isOfText = true) :
      FileGives files path {}
  | document {b : Text.Bytes} {d : Document} (read : files.read path.toList = .ok b)
      (h : Document.ofSource (.ofBytes b) = .ok d) : FileGives files path d

def first? (xs : List (Option String)) : Option String := (xs.filterMap id).find? (!·.isEmpty)

/-- The document of the file that is asked for, or else of the one that the environment names.
Without a file it is an empty one. -/
def InForce (env : Environment) (files : Files.Tree) (path : Option String) (d : Document) : Prop :=
  match first? [path, lookup Variable.config env] with
  | none => d = {}
  | some path => FileGives files path d

def listed (d : Document) : List (Datum × Datum) :=
  match d.root with
  | .map id => d.entries id
  | _ => []

def under? (d : Document) (k : Key) : Option Datum := valueOf? (listed d) k

def Keyed (d : Document) : Prop := ∀ e ∈ listed d, e.1.text?.isSome

def Known (d : Document) : Prop := ∀ e ∈ listed d, isKnownKey e.1 = true

def Named (d : Document) (k : Key) : Prop :=
  ∀ v, under? d k = some v → d.truthy v = true → (named? v).isSome

def Shown (d : Document) : Prop :=
  ∀ v, under? d .compatibilityCheck = some v → (d.literal v).isSome

/-- A document that settings can be read from. -/
structure Usable (d : Document) : Prop where
  keyed : Keyed d
  file : Named d .libraryFile
  path : Named d .libraryPath
  shown : Shown d

theorem usable_of_unlisted {d : Document} (none : listed d = []) : Usable d := by
  have nothing (k : Key) : under? d k = Option.none := by
    rw [under?, none]
    rfl
  refine ⟨?_, ?_, ?_, ?_⟩
  · rw [Keyed, none]
    exact List.forall_mem_nil _
  all_goals
    intro v h
    cases (nothing _).symm.trans h

def name? (d : Document) (k : Key) : Option Name :=
  (under? d k).bind fun v => if d.truthy v then named? v else none

def spelled? (d : Document) : Datum → Option Bool
  | .bool b => some b
  | v => (d.literal v).bind fun literal => bool? (v.text?.getD literal)

def check? (d : Document) : Option Bool := (under? d .compatibilityCheck).bind (spelled? d)

def ofDocument (d : Document) : Settings where
  libraryFile := name? d .libraryFile
  libraryPath := name? d .libraryPath
  compatibilityCheck := (check? d).getD true

def Answer.bool? : Answer → Option Bool
  | .bool b => some b
  | .words s _ => Settings.bool? s

theorem unknownKeys_cons (e : Datum × Datum) (es : List (Datum × Datum)) :
    unknownKeys (e :: es) =
      if isKnownKey e.1 then unknownKeys es
      else e.1.text?.bind fun s => (unknownKeys es).map (s :: ·) := by
  rw [unknownKeys, unknownKeys, List.filter_cons]
  cases isKnownKey e.1 with
  | true => rfl
  | false =>
    rw [if_pos (by rfl), List.mapM_cons, if_neg (by decide)]
    cases e.1.text? with
    | none => rfl
    | some s =>
      generalize (es.filter fun e => !isKnownKey e.1).mapM (fun e => e.1.text?) = rest
      cases rest <;> rfl

theorem isSome_text_of_isKnownKey {d : Datum} (known : isKnownKey d = true) : d.text?.isSome := by
  cases d with
  | text s => rfl
  | _ => cases known

theorem unknownKeys_eq_none_iff {es : List (Datum × Datum)} :
    unknownKeys es = none ↔ ¬∀ e ∈ es, e.1.text?.isSome := by
  induction es with
  | nil => exact iff_of_false nofun (not_not_intro (List.forall_mem_nil _))
  | cons e es ih =>
    rw [unknownKeys_cons, List.forall_mem_cons]
    cases known : isKnownKey e.1 with
    | true => simpa [isSome_text_of_isKnownKey known] using ih
    | false =>
      cases e.1.text? with
      | none => simp
      | some s => simpa using ih

theorem unknownKeys_eq_nil_iff {es : List (Datum × Datum)} :
    unknownKeys es = some [] ↔ ∀ e ∈ es, isKnownKey e.1 = true := by
  induction es with
  | nil => exact iff_of_true rfl (List.forall_mem_nil _)
  | cons e es ih =>
    rw [unknownKeys_cons, List.forall_mem_cons]
    cases isKnownKey e.1 with
    | true => simpa using ih
    | false =>
      cases e.1.text? with
      | none => simp
      | some s => simp

variable {files : Files.Tree} {path : String} {d : Document} {strict : Bool}

def Foreign (e : Failure) : Prop := ∀ m, e ≠ .invalidSettings m

theorem yields_payload (gives : FileGives files path d) :
    Yields (payload files path false) (.ok d) := by
  unfold payload
  cases gives with
  | missing h =>
    rw [h]
    exact .bind (.noted _ _) (.pure _)
  | malformed read fault ofText =>
    simp only [read, fault, ofText]
    exact .bind (.noted _ _) (.pure _)
  | document read h =>
    simp only [read, h]
    exact .pure d

theorem yields_payload_document {b : Text.Bytes} (read : files.read path.toList = .ok b)
    (h : Document.ofSource (.ofBytes b) = .ok d) : Yields (payload files path strict) (.ok d) := by
  unfold payload
  simp only [read, h]
  exact .pure d

theorem yields_payload_error (gives : ∀ d, ¬FileGives files path d) :
    ∃ e, Foreign e ∧ ∀ strict, Yields (payload files path strict) (.error e) := by
  unfold payload
  cases read : files.read path.toList with
  | error e =>
    cases e with
    | missing => exact absurd (.missing read) (gives _)
    | _ => exact ⟨_, failure_ne_invalidSettings _, fun _ => .throw _⟩
  | ok b =>
    dsimp only
    cases h : Document.ofSource (.ofBytes b) with
    | ok d => exact absurd (.document read h) (gives d)
    | error r =>
      cases r with
      | fault f =>
        cases ofText : f.isOfText with
        | true => exact absurd (.malformed read h ofText) (gives _)
        | false =>
          refine ⟨_, refusal_ne_invalidSettings (.fault f), fun _ => ?_⟩
          simp only [ofText]
          exact .bind_error (.throw _)
      | _ => exact ⟨_, refusal_ne_invalidSettings _, fun _ => .throw _⟩

theorem yields_entries (keyed : Keyed d) : Yields (entries d false) (.ok (listed d)) := by
  unfold Keyed listed at *
  unfold entries
  split
  · rename_i e
    rw [e]
    exact .pure []
  · rename_i id e
    rw [e] at keyed ⊢
    dsimp only
    split
    · rename_i unkeyed
      exact absurd keyed (unknownKeys_eq_none_iff.mp unkeyed)
    · exact .pure _
    · exact .bind (.noted _ _) (.pure _)
  · rename_i other
    split
    · rename_i id e
      exact absurd e (other id)
    · exact .bind (.noted _ _) (.pure _)

theorem yields_entries_unkeyed (unkeyed : ¬Keyed d) :
    Yields (entries d strict) (.error Failure.typeError) := by
  unfold Keyed listed at unkeyed
  unfold entries
  split at unkeyed
  · rename_i id e
    rw [e]
    simp only [unknownKeys_eq_none_iff.mpr unkeyed]
    exact .throw _
  · exact absurd (List.forall_mem_nil _) unkeyed

theorem yields_entries_known (known : Known d) (some : listed d ≠ []) :
    Yields (entries d strict) (.ok (listed d)) := by
  unfold Known listed at *
  unfold entries
  split at some
  · rename_i id e
    rw [e] at known ⊢
    simp only [unknownKeys_eq_nil_iff.mpr known]
    exact .pure _
  · exact absurd rfl some

theorem yields_entries_unknown (keyed : Keyed d) (unknown : ¬Known d) :
    ∃ p : Problem, Yields (entries d true) (.error (.invalidSettings p.message)) := by
  unfold Keyed Known listed at *
  unfold entries
  split at unknown
  · rename_i id e
    rw [e] at keyed ⊢
    dsimp only
    split
    · rename_i unkeyed
      exact absurd keyed (unknownKeys_eq_none_iff.mp unkeyed)
    · rename_i none
      exact absurd (unknownKeys_eq_nil_iff.mp none) unknown
    · exact ⟨_, .bind_error (.rejected _ _)⟩
  · exact absurd (List.forall_mem_nil _) unknown

theorem yields_nameOf {k : Key} (named : Named d k) :
    Yields (nameOf d (listed d) k) (.ok (name? d k)) := by
  unfold nameOf name? Named under? at *
  cases e : valueOf? (listed d) k with
  | none => exact .pure _
  | some v =>
    cases truthy : d.truthy v with
    | false =>
      simp only [Option.bind_some, truthy]
      exact .pure _
    | true =>
      obtain ⟨s, named⟩ := Option.isSome_iff_exists.mp (named v e truthy)
      simp only [Option.bind_some, truthy, named]
      exact .pure _

theorem yields_nameOf_unnamed {k : Key} (unnamed : ¬Named d k) :
    Yields (nameOf d (listed d) k) (.error Failure.typeError) := by
  simp only [Named, Classical.not_forall] at unnamed
  obtain ⟨v, e, truthy, unnamed⟩ := unnamed
  unfold under? at e
  have unnamed : named? v = none := by simpa using unnamed
  simp only [nameOf, e, truthy, unnamed]
  exact .throw _

theorem ofDatum_of_literal {v : Datum} (shown : (d.literal v).isSome) :
    ∃ a, Answer.ofDatum d v = .ok a ∧ a.bool? = spelled? d v := by
  have read : (Answer.ofDatum d v).map Answer.bool? = .ok (spelled? d v) := by
    unfold Document.literal at shown
    cases e : d.shown v with
    | error x =>
      rw [e] at shown
      cases shown
    | ok literal =>
      cases v with
      | bool b => rfl
      | _ =>
        simp [Answer.ofDatum, spelled?, Document.literal, e, Except.map, Except.toOption,
          Answer.bool?]
  cases given : Answer.ofDatum d v with
  | error e =>
    rw [given] at read
    cases read
  | ok a =>
    rw [given] at read
    exact ⟨a, rfl, Except.ok.inj read⟩

theorem ofDatum_of_unshown {v : Datum} {x : Document.Unshown} (unshown : d.shown v = .error x) :
    Answer.ofDatum d v = .error (Answer.unshown x) := by
  cases v with
  | bool b => cases unshown
  | _ => simp [Answer.ofDatum, unshown]

theorem Answer.foreign_unshown (x : Document.Unshown) : Foreign (Answer.unshown x) := by
  cases x <;> nofun

theorem yields_readBool (a : Answer) (key : String) (fallback : Bool) :
    Yields (readBool a key false fallback) (.ok (a.bool?.getD fallback)) := by
  cases a with
  | bool b => exact .pure b
  | words s literal =>
    unfold readBool Answer.bool?
    dsimp only
    cases bool? s with
    | some b => exact .pure b
    | none => exact .bind (.noted _ _) (.pure _)

theorem yields_ofFile (gives : FileGives files path d) (usable : Usable d) :
    Yields (ofFile files path false) (.ok (ofDocument d)) := by
  refine .bind (yields_payload gives) (.bind (yields_entries usable.keyed) ?_)
  refine .bind (yields_nameOf usable.file) (.bind (yields_nameOf usable.path) ?_)
  have shown := usable.shown
  unfold Shown under? at shown
  unfold ofDocument check? under?
  cases e : valueOf? (listed d) .compatibilityCheck with
  | none => exact .pure _
  | some v =>
    obtain ⟨a, answered, read⟩ := ofDatum_of_literal (shown v e)
    simp only [answered, Option.bind_some, ← read]
    exact .bind (.lift _) (.bind (yields_readBool a _ _) (.pure _))

def CheckUnshown (d : Document) (x : Document.Unshown) : Prop :=
  ∃ v, under? d .compatibilityCheck = some v ∧ d.shown v = .error x

theorem exists_unshown (unshown : ¬Shown d) : ∃ x, CheckUnshown d x := by
  simp only [Shown, Classical.not_forall] at unshown
  obtain ⟨v, e, unshown⟩ := unshown
  unfold Document.literal at unshown
  cases shown : d.shown v with
  | error x => exact ⟨x, v, e, shown⟩
  | ok s =>
    rw [shown] at unshown
    exact absurd rfl unshown

theorem yields_ofFile_unshown {x : Document.Unshown}
    (given : Yields (payload files path strict) (.ok d))
    (entered : Yields (entries d strict) (.ok (listed d))) (fileNamed : Named d .libraryFile)
    (pathNamed : Named d .libraryPath) (unshown : CheckUnshown d x) :
    Yields (ofFile files path strict) (.error (Answer.unshown x)) := by
  obtain ⟨v, e, unshown⟩ := unshown
  refine .bind given (.bind entered ?_)
  refine .bind (yields_nameOf fileNamed) (.bind (yields_nameOf pathNamed) ?_)
  unfold under? at e
  simp only [e, ofDatum_of_unshown unshown]
  exact .bind_error (.throw _)

theorem yields_ofFile_error (given : Yields (payload files path strict) (.ok d))
    (entered : Yields (entries d strict) (.ok (listed d)))
    (unread : ¬(Named d .libraryFile ∧ Named d .libraryPath ∧ Shown d)) :
    ∃ e, Foreign e ∧ Yields (ofFile files path strict) (.error e) := by
  have typed : Foreign Failure.typeError := nofun
  by_cases file : Named d .libraryFile
  · by_cases path : Named d .libraryPath
    · obtain ⟨x, unshown⟩ := exists_unshown fun shown => unread ⟨file, path, shown⟩
      exact ⟨Answer.unshown x, Answer.foreign_unshown x,
        yields_ofFile_unshown given entered file path unshown⟩
    · refine ⟨_, typed, .bind given (.bind entered (.bind (yields_nameOf file) ?_))⟩
      exact .bind_error (yields_nameOf_unnamed path)
  · exact ⟨_, typed, .bind given (.bind entered (.bind_error (yields_nameOf_unnamed file)))⟩

variable {env : Environment} {s : Settings}

theorem first?_cons (a : Option String) (xs : List (Option String)) :
    first? (a :: xs) = (nonEmpty a <|> first? xs) := by
  cases a with
  | none => rfl
  | some s => cases empty : s.isEmpty <;> simp [first?, nonEmpty, Option.filter, empty]

theorem first?_singleton (a : Option String) : first? [a] = nonEmpty a := by
  rw [first?_cons]
  cases nonEmpty a <;> rfl

def underEnvironment (env : Environment) (s : Settings) : Settings where
  libraryFile := preferred (lookup Variable.libraryFile env) s.libraryFile
  libraryPath := preferred (lookup Variable.libraryPath env) s.libraryPath
  compatibilityCheck :=
    ((lookup Variable.compatibilityCheck env).bind bool?).getD s.compatibilityCheck

theorem yields_withEnvironment (env : Environment) (s : Settings) :
    Yields (withEnvironment env false s) (.ok (underEnvironment env s)) := by
  unfold withEnvironment underEnvironment
  split
  · rename_i none
    rw [none]
    exact .pure _
  · rename_i word e
    rw [e]
    exact .bind (yields_readBool (.ofText word) _ _) (.pure _)

theorem load_eq (env : Environment) (files : Files.Tree) (path : Option String) (strict : Bool) :
    load env files path (some strict) = (do
      let s ← match first? [path, lookup Variable.config env] with
        | none => pure {}
        | some path => ofFile files path strict
      let s ← withEnvironment env strict s
      Reporting.record ⟨.debug, logger, "Resolved library config: " ++ s.shown, {}⟩
      return s) := by
  rw [first?_cons, first?_singleton]
  rfl

theorem yields_load {path : Option String} (inForce : InForce env files path d)
    (usable : Usable d) :
    Yields (load env files path (some false)) (.ok (underEnvironment env (ofDocument d))) := by
  have rest (s : Settings) : Yields (withEnvironment env false s >>= fun s => do
      Reporting.record ⟨.debug, logger, "Resolved library config: " ++ s.shown, {}⟩
      return s) (.ok (underEnvironment env s)) :=
    .bind (yields_withEnvironment env s) (.bind (.record _) (.pure _))
  rw [load_eq]
  unfold InForce at inForce
  split at inForce
  · subst inForce
    exact .bind (.pure _) (rest _)
  · exact .bind (yields_ofFile inForce usable) (rest _)

variable {path : Option String}

theorem payload_of_inForce (inForce : InForce env files path d) :
    d = {} ∨ ∃ p, first? [path, lookup Variable.config env] = some p ∧
      ∀ strict, Yields (payload files p strict) (.ok d) := by
  unfold InForce at inForce
  split at inForce
  · exact .inl inForce
  · rename_i p given
    cases inForce with
    | missing h => exact .inl rfl
    | malformed read fault ofText => exact .inl rfl
    | document read h => exact .inr ⟨p, given, fun _ => yields_payload_document read h⟩

theorem yields_load_error {p : String} {e : Failure}
    (given : first? [path, lookup Variable.config env] = some p)
    (unread : Yields (ofFile files p strict) (.error e)) :
    Yields (load env files path (some strict)) (.error e) := by
  rw [load_eq, given]
  exact .bind_error unread

theorem yields_load_unknown (inForce : InForce env files path d) (keyed : Keyed d)
    (unknown : ¬Known d) :
    ∃ m, Yields (load env files path (some true)) (.error (.invalidSettings m)) := by
  obtain rfl | ⟨p, given, payloads⟩ := payload_of_inForce inForce
  · exact absurd (List.forall_mem_nil _) unknown
  · obtain ⟨problem, rejected⟩ := yields_entries_unknown keyed unknown
    exact ⟨problem.message, yields_load_error given
      (.bind (payloads true) (.bind_error rejected))⟩

theorem yields_load_unshown {x : Document.Unshown} (inForce : InForce env files path d)
    (keyed : Keyed d) (fileNamed : Named d .libraryFile) (pathNamed : Named d .libraryPath)
    (unshown : CheckUnshown d x) :
    Yields (load env files path (some false)) (.error (Answer.unshown x)) := by
  obtain rfl | ⟨p, given, payloads⟩ := payload_of_inForce inForce
  · obtain ⟨v, e, -⟩ := unshown
    cases e
  · exact yields_load_error given
      (yields_ofFile_unshown (payloads false) (yields_entries keyed) fileNamed pathNamed unshown)

theorem yields_load_foreign (strict : Bool)
    (unusable : ∀ d, InForce env files path d →
      ¬Usable d ∧ (strict = true → Keyed d → Known d)) :
    ∃ e, Foreign e ∧ Yields (load env files path (some strict)) (.error e) := by
  by_cases some : ∃ d, InForce env files path d
  · obtain ⟨d, inForce⟩ := some
    obtain ⟨refused, known⟩ := unusable d inForce
    obtain rfl | ⟨p, given, payloads⟩ := payload_of_inForce inForce
    · exact absurd (usable_of_unlisted rfl) refused
    by_cases keyed : Keyed d
    · have entered : Yields (entries d strict) (.ok (listed d)) := by
        cases strict with
        | false => exact yields_entries keyed
        | true => exact yields_entries_known (known rfl keyed) (mt usable_of_unlisted refused)
      obtain ⟨e, foreign, unread⟩ := yields_ofFile_error (payloads strict) entered
        fun ⟨file, path, shown⟩ => refused ⟨keyed, file, path, shown⟩
      exact ⟨e, foreign, yields_load_error given unread⟩
    · exact ⟨Failure.typeError, nofun, yields_load_error given
        (.bind (payloads strict) (.bind_error (yields_entries_unkeyed keyed)))⟩
  · unfold InForce at some
    cases given : first? [path, lookup Variable.config env] with
    | none => exact absurd ⟨{}, by rw [given]⟩ some
    | some p =>
      rw [given] at some
      obtain ⟨e, foreign, unread⟩ := yields_payload_error (not_exists.mp some)
      exact ⟨e, foreign, yields_load_error given (.bind_error (unread strict))⟩

/-- The errors of settings are contained: in lenient mode there are none, and in strict mode no
others than problems of the settings. -/
structure Contained (env : Environment) (files : Files.Tree) (path : Option String) : Prop where
  lenient : ∃ s, (load env files path (some false)).exec.1 = .ok s
  strict : (∃ s, (load env files path (some true)).exec.1 = .ok s) ∨
    ∃ m, (load env files path (some true)).exec.1 = .error (.invalidSettings m)

/-- Errors are contained exactly if the document in force can be used: its keys are texts, what
stands under the known ones is empty or a name, and the compatibility check can be written out. In
strict mode they also are where all keys are texts and one is not known. -/
theorem errors_contained_iff (env : Environment) (files : Files.Tree) (path : Option String) :
    (Contained env files path ↔ ∃ d, InForce env files path d ∧ Usable d) ∧
    ((∃ s, (load env files path (some true)).exec.1 = .ok s) ∨
        (∃ m, (load env files path (some true)).exec.1 = .error (.invalidSettings m)) ↔
      ∃ d, InForce env files path d ∧ (Usable d ∨ Keyed d ∧ ¬Known d)) := by
  have contained {d : Document} (inForce : InForce env files path d) (usable : Usable d) :
      Contained env files path := by
    have returns := (yields_load inForce usable).exec
    refine ⟨⟨_, returns⟩, ?_⟩
    unfold Reporting.exec at *
    cases parts_load env files path [] with
    | together r quiet _ _ strictly leniently =>
      rw [leniently] at returns
      exact .inl ⟨_, by rw [strictly]; exact returns⟩
    | apart p remedy quiet later _ r strictly _ => exact .inr ⟨_, by rw [strictly]⟩
  constructor
  · refine ⟨fun h => ?_, fun ⟨d, inForce, usable⟩ => contained inForce usable⟩
    obtain ⟨s, returns⟩ := h.lenient
    apply Classical.byContradiction
    intro none
    obtain ⟨e, -, fails⟩ := yields_load_foreign false fun d inForce =>
      ⟨fun usable => none ⟨d, inForce, usable⟩, nofun⟩
    cases fails.exec.symm.trans returns
  · constructor
    · intro h
      apply Classical.byContradiction
      intro none
      obtain ⟨e, foreign, fails⟩ := yields_load_foreign true fun d inForce =>
        ⟨fun usable => none ⟨d, inForce, .inl usable⟩, fun _ keyed =>
          Classical.not_not.mp fun unknown => none ⟨d, inForce, .inr ⟨keyed, unknown⟩⟩⟩
      obtain ⟨s, returns⟩ | ⟨m, rejects⟩ := h
      · cases fails.exec.symm.trans returns
      · cases fails.exec.symm.trans rejects
        exact foreign m rfl
    · rintro ⟨d, inForce, usable | ⟨keyed, unknown⟩⟩
      · exact (contained inForce usable).strict
      · obtain ⟨m, rejects⟩ := yields_load_unknown inForce keyed unknown
        exact .inr ⟨m, rejects.exec⟩

def numbered : Files.Tree where
  entries := [(["c.yml".toList], .file (Text.utf8 "1: x\n"))]

/-- A key that is a number is no mere key that is not known: reading ends in another error in both
modes. -/
theorem uncontained_numbered :
    (load [] numbered (some "c.yml") (some false)).exec.1.toOption.isNone = true ∧
      ¬Contained [] numbered (some "c.yml") := by
  have fails : (load [] numbered (some "c.yml") (some false)).exec.1.toOption.isNone = true := by
    decide +kernel
  refine ⟨fails, fun h => ?_⟩
  obtain ⟨s, returns⟩ := h.lenient
  rw [returns] at fails
  cases fails

end Settings

end ClangIndex.Library
