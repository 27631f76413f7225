import ClangIndex.Library.Loader
import ClangIndex.Proofs.DeclaredFunctions
import ClangIndex.Proofs.FailingRuns

namespace ClangIndex.Library

theorem Registration.missing_ofTable {T C : Type} (has : String → Bool) (lenient : Bool)
    (table : List (Declaration T C)) :
    (ofTable has lenient table).missing =
      if lenient then none else (table.find? fun d => !has d.name).map (·.name) := by
  rw [ofTable_eq]

namespace Loaded

def lacking? (l : Loaded) : Option String :=
  (Loader.declarations.find? fun d => !l.has d.name).map (·.name)

def declare (l : Loaded) (lenient : Bool) : Except Failure Loaded :=
  match if lenient then none else l.lacking? with
  | some name => .error (.symbolMissing (l.file.path ++ ": undefined symbol: " ++ name))
  | none =>
    let r := Registration.ofTable l.has lenient Loader.declarations
    .ok { l with found := r.prototypes.map (·.1) }

def knows (l : Loaded) (name : String) : Bool := Loader.ownNames.contains name || l.has name

def Same (l k : Loaded) : Prop := k.file = l.file ∧ k.has = l.has

end Loaded

namespace Surroundings

variable (s : Surroundings)

def settingsOver (l : Loader) : Except Failure Settings :=
  (Settings.load s.environment s.machine.files none none).exec.1.map l.override

/-- What trying a file decides, if it decides the search; a refusal does not. -/
def tried? (file : Name) : Option (Except Failure Loaded) :=
  match s.offer file with
  | .refused _ => none
  | .unpassable => some (.error Failure.valueError)
  | .symbols missing only => some (.ok { file, has := Offer.has missing only })

def refusal? (file : Name) : Option (String × String) :=
  match s.offer file with
  | .refused text => some (file.shown, text)
  | .unpassable | .symbols .. => none

def firstOf (files : List Name) : Except Failure Loaded :=
  (files.findSome? s.tried?).getD (.error (.libraryNotLoaded (files.filterMap s.refusal?)))

/-- The files of which loading is attempted: up to the first that decides the search. -/
def attempted : List Name → List Name
  | [] => []
  | file :: files =>
    match s.tried? file with
    | none => file :: attempted files
    | some _ => [file]

def attempt (l : Loader) : Except Failure Loaded := do
  let settings ← s.settingsOver l
  let files ← s.machine.candidates settings none
  let library ← s.firstOf files
  library.declare !settings.compatibilityCheck

inductive Unloadable (l : Loader) : Prop
  | unread {e : Failure} (inForce : s.settingsOver l = .error e)
  | unnamed {settings : Settings} {e : Failure} (inForce : s.settingsOver l = .ok settings)
      (none : s.machine.candidates settings none = .error e)
  | refused {settings : Settings} {files : List Name} (inForce : s.settingsOver l = .ok settings)
      (named : s.machine.candidates settings none = .ok files)
      (all : ∀ file ∈ files, s.tried? file = none)
  | unpassable {settings : Settings} {files : List Name} {e : Failure}
      (inForce : s.settingsOver l = .ok settings)
      (named : s.machine.candidates settings none = .ok files)
      (first : files.findSome? s.tried? = some (.error e))
  | lacking {settings : Settings} {files : List Name} {library : Loaded}
      (inForce : s.settingsOver l = .ok settings)
      (named : s.machine.candidates settings none = .ok files)
      (first : files.findSome? s.tried? = some (.ok library))
      (checked : settings.compatibilityCheck = true)
      (missing : ∃ d ∈ Loader.declarations, library.has d.name = false)

variable {s} {l : Loader} {settings : Settings}

theorem attempt_eq {files : List Name} (inForce : s.settingsOver l = .ok settings)
    (named : s.machine.candidates settings none = .ok files) :
    s.attempt l = s.firstOf files >>= fun library =>
      library.declare !settings.compatibilityCheck := by
  rw [attempt, inForce]
  simp only [bind, Except.bind, named]

theorem attempt_unread {e : Failure} (inForce : s.settingsOver l = .error e) :
    s.attempt l = .error e := by
  rw [attempt, inForce]
  rfl

theorem attempt_unnamed {e : Failure} (inForce : s.settingsOver l = .ok settings)
    (none : s.machine.candidates settings none = .error e) : s.attempt l = .error e := by
  rw [attempt, inForce]
  simp only [bind, Except.bind, none]

end Surroundings

theorem Loaded.declare_fails_iff {library : Loaded} {lenient : Bool} :
    (∃ e, library.declare lenient = .error e) ↔
      lenient = false ∧ ∃ d ∈ Loader.declarations, library.has d.name = false := by
  cases lenient with
  | true => simp [declare]
  | false =>
    cases found : Loader.declarations.find? fun d => !library.has d.name with
    | none =>
      have has := List.find?_eq_none.mp found
      simpa [declare, lacking?, found] using has
    | some d =>
      have lacks : library.has d.name = false := by simpa using List.find?_some found
      simpa [declare, lacking?, found] using ⟨d, List.mem_of_find?_eq_some found, lacks⟩

theorem Surroundings.attempt_fails_iff {s : Surroundings} {l : Loader} :
    (∃ e, s.attempt l = .error e) ↔ s.Unloadable l := by
  cases inForce : s.settingsOver l with
  | error e => exact iff_of_true ⟨e, attempt_unread inForce⟩ (.unread inForce)
  | ok settings =>
    cases named : s.machine.candidates settings none with
    | error e => exact iff_of_true ⟨e, attempt_unnamed inForce named⟩ (.unnamed inForce named)
    | ok files =>
      rw [attempt_eq inForce named, firstOf]
      match first : files.findSome? s.tried? with
      | none =>
        exact iff_of_true ⟨_, rfl⟩ (.refused inForce named (List.findSome?_eq_none_iff.mp first))
      | some (.error e) => exact iff_of_true ⟨e, rfl⟩ (.unpassable inForce named first)
      | some (.ok library) =>
        refine Loaded.declare_fails_iff.trans ⟨fun ⟨checked, missing⟩ =>
          .lacking inForce named first (by simpa using checked) missing, fun unloadable => ?_⟩
        cases unloadable with
        | unread e => cases inForce.symm.trans e
        | unnamed e none =>
          cases inForce.symm.trans e
          cases named.symm.trans none
        | refused e given all =>
          cases inForce.symm.trans e
          cases named.symm.trans given
          cases first.symm.trans (List.findSome?_eq_none_iff.mpr all)
        | unpassable e given stuck =>
          cases inForce.symm.trans e
          cases named.symm.trans given
          cases first.symm.trans stuck
        | lacking e given obtained checked missing =>
          cases inForce.symm.trans e
          cases named.symm.trans given
          cases first.symm.trans obtained
          exact ⟨by simp [checked], missing⟩

theorem Machine.typeError_of_candidates {m : Machine} {settings : Settings}
    {system : Option String} {e : Failure} (h : m.candidates settings system = .error e) :
    e = Failure.typeError := by
  unfold candidates at h
  split at h
  · cases h
  · match path : settings.directory? with
    | none =>
      rw [path] at h
      cases h
    | some (.text dir) =>
      rw [path] at h
      cases h
    | some (.bytes dir) =>
      rw [path] at h
      cases h
      rfl

theorem Surroundings.valueError_of_tried {s : Surroundings} {files : List Name} {e : Failure}
    (h : files.findSome? s.tried? = some (.error e)) : e = Failure.valueError := by
  obtain ⟨-, file, -, -, decided, -⟩ := List.findSome?_eq_some_iff.mp h
  unfold tried? at decided
  split at decided <;> cases decided
  rfl

theorem Surroundings.attempt_attribute_iff {s : Surroundings} {l : Loader} :
    s.attempt l = .error (.plain .attribute) ↔ s.settingsOver l = .error (.plain .attribute) := by
  cases inForce : s.settingsOver l with
  | error e => simp [attempt_unread inForce]
  | ok settings =>
    refine iff_of_false (fun ended => ?_) (by simp)
    cases named : s.machine.candidates settings none with
    | error e =>
      cases (attempt_unnamed inForce named).symm.trans ended
      cases Machine.typeError_of_candidates named
    | ok files =>
      rw [attempt_eq inForce named, firstOf] at ended
      match first : files.findSome? s.tried? with
      | none =>
        rw [first] at ended
        cases ended
      | some (.error e) =>
        rw [first] at ended
        cases ended
        cases valueError_of_tried first
      | some (.ok library) =>
        simp only [first, Option.getD_some, bind, Except.bind, Loaded.declare] at ended
        split at ended <;> cases ended

namespace Loader

def Notes (l k : Loader) : Prop :=
  ∃ tried records, k = { l with tried := l.tried ++ tried, records := l.records ++ records }

namespace Notes

variable {l k m : Loader}

theorem recorded (l : Loader) (records : List Log.Record) :
    l.Notes { l with records := l.records ++ records } := ⟨[], records, by simp⟩

theorem trans (h : l.Notes k) (h' : k.Notes m) : l.Notes m := by
  obtain ⟨tried, records, rfl⟩ := h
  obtain ⟨tried', records', rfl⟩ := h'
  exact ⟨tried ++ tried', records ++ records', by simp⟩

end Notes

section

variable {α β : Type} {m : Loading α} {f : α → Loading β} {s : Surroundings} {l k : Loader}

theorem exec_bind_ok {a : α} (h : exec m s l = (.ok a, k)) :
    exec (m >>= f) s l = exec (f a) s k :=
  FailingRun.bind_ok h

theorem exec_bind_error {e : Failure} (h : exec m s l = (.error e, k)) :
    exec (m >>= f) s l = (.error e, k) :=
  FailingRun.bind_error h

theorem exec_tryCatch_ok {g : Failure → Loading α} {a : α} (h : exec m s l = (.ok a, k)) :
    exec (tryCatch m g) s l = (.ok a, k) :=
  FailingRun.tryCatch_ok h

theorem exec_tryCatch_error {g : Failure → Loading α} {e : Failure}
    (h : exec m s l = (.error e, k)) : exec (tryCatch m g) s l = exec (g e) s k :=
  FailingRun.tryCatch_error h

end

variable {s : Surroundings} {l k : Loader}

theorem surrounded (s : Surroundings) (l : Loader) : exec read s l = (.ok s, l) := rfl

theorem modified (f : Loader → Loader) (s : Surroundings) (l : Loader) :
    exec (modify f) s l = (.ok (), f l) := rfl

theorem recorded (level : Log.Level) (message : String) (s : Surroundings) (l : Loader) :
    exec (record level message) s l =
      (.ok (), { l with records := l.records ++ [⟨level, logger, message, {}⟩] }) := rfl

theorem exec_settings (s : Surroundings) (l : Loader) :
    ∃ records, exec settings s l =
      (s.settingsOver l, { l with records := l.records ++ records }) := by
  have read (r : Except Failure Settings × List Log.Record) :
      exec (do
        modify fun l => { l with records := l.records ++ r.2 }
        return (← get).override (← r.1)) s l =
      (r.1.map l.override, { l with records := l.records ++ r.2 }) := by
    obtain ⟨found | found, records⟩ := r <;> rfl
  exact ⟨_, read (Settings.load s.environment s.machine.files none none).exec⟩

theorem exec_tryFiles (s : Surroundings) (failures : List (String × String)) (files : List Name)
    (l : Loader) :
    ∃ records, exec (tryFiles failures files) s l = ((files.findSome? s.tried?).getD
        (.error (.libraryNotLoaded (failures ++ files.filterMap s.refusal?))),
      { l with tried := l.tried ++ s.attempted files, records := l.records ++ records }) := by
  induction files generalizing failures l with
  | nil =>
    let message := "Unable to load libclang (tried " ++ toString failures.length ++ " candidates)"
    refine ⟨[⟨.error, logger, message, {}⟩], ?_⟩
    rw [List.filterMap_nil, List.append_nil, Surroundings.attempted, List.append_nil]
    rfl
  | cons file files ih =>
    let noted (message : String) : Loader :=
      { l with tried := l.tried ++ [file], records := l.records ++ [⟨.debug, logger, message, {}⟩] }
    cases offer : s.offer file with
    | refused text =>
      have refused : s.tried? file = none ∧ s.refusal? file = some (file.shown, text) := by
        simp [Surroundings.tried?, Surroundings.refusal?, offer]
      let message := "Could not load " ++ file.shown ++ ": " ++ text
      have first : exec (tryFiles failures (file :: files)) s l =
          exec (tryFiles (failures ++ [(file.shown, text)]) files) s (noted message) := by
        rw [tryFiles, exec_bind_ok (modified _ s l), exec_bind_ok (surrounded s _), offer]
        exact exec_bind_ok (recorded ..)
      obtain ⟨records, tried⟩ := ih (failures ++ [(file.shown, text)]) (noted message)
      refine ⟨⟨.debug, logger, message, {}⟩ :: records, ?_⟩
      rw [first, tried, List.findSome?_cons, List.filterMap_cons, refused.1, refused.2,
        Surroundings.attempted, refused.1, List.append_assoc, List.append_assoc, List.append_assoc]
      rfl
    | unpassable =>
      have stuck : s.tried? file = some (.error Failure.valueError) := by
        simp [Surroundings.tried?, offer]
      refine ⟨[], ?_⟩
      rw [List.findSome?_cons, stuck, Surroundings.attempted, stuck, tryFiles,
        exec_bind_ok (modified _ s l), exec_bind_ok (surrounded s _), offer, List.append_nil]
      rfl
    | symbols missing only =>
      have opened : s.tried? file = some (.ok { file, has := Offer.has missing only }) := by
        simp [Surroundings.tried?, offer]
      refine ⟨[⟨.debug, logger, "Loaded libclang from " ++ file.shown, {}⟩], ?_⟩
      rw [List.findSome?_cons, opened, Surroundings.attempted, opened, tryFiles,
        exec_bind_ok (modified _ s l), exec_bind_ok (surrounded s _), offer]
      exact exec_bind_ok (recorded ..)

theorem exec_candidates (s : Surroundings) (settings : Settings) (l : Loader) :
    exec (candidates settings) s l = (s.machine.candidates settings none, l) := by
  rw [candidates, exec_bind_ok (surrounded s l)]
  cases s.machine.candidates settings none <;> rfl

theorem exec_openLibrary {s : Surroundings} {settings : Settings} {files : List Name}
    (named : s.machine.candidates settings none = .ok files) (l : Loader) :
    ∃ records, exec (openLibrary settings) s l = (s.firstOf files,
      { l with tried := l.tried ++ s.attempted files, records := l.records ++ records }) := by
  rw [openLibrary, exec_bind_ok (named ▸ exec_candidates s settings l)]
  exact exec_tryFiles s [] files l

theorem exec_openLibrary_unnamed {s : Surroundings} {settings : Settings} {e : Failure}
    (none : s.machine.candidates settings none = .error e) (l : Loader) :
    exec (openLibrary settings) s l = (.error e, l) :=
  exec_bind_error (none ▸ exec_candidates s settings l)

theorem exec_register (library : Loaded) (lenient : Bool) (s : Surroundings) (l : Loader) :
    ∃ k, l.Notes k ∧ exec (register library lenient) s l = (library.declare lenient, k) := by
  let r := Registration.ofTable library.has lenient declarations
  refine ⟨_, .recorded l (r.records declarations.length), ?_⟩
  rw [register, exec_bind_ok (modified _ s l), Loaded.declare, Loaded.lacking?,
    ← Registration.missing_ofTable, Registration.failure?]
  cases r.missing <;> rfl

theorem exec_library_of_some {library : Loaded} (h : l.loaded = some library) (s : Surroundings) :
    exec Loader.library s l = (.ok library, l) := by
  rw [Loader.library, exec_bind_ok (show exec get s l = (.ok l, l) from rfl), h]
  rfl

theorem exec_library_of_none (h : l.loaded = none) (s : Surroundings) :
    ∃ k, l.Notes k ∧ exec library s l = match s.attempt l with
      | .ok found => (.ok found, { k with loaded := some found, frozen := true })
      | .error e => (.error e, k) := by
  obtain ⟨records, read⟩ := exec_settings s l
  let k : Loader := { l with records := l.records ++ records }
  have start : l.Notes k := .recorded l records
  rw [library, exec_bind_ok (show exec get s l = (.ok l, l) from rfl), h]
  cases inForce : s.settingsOver l with
  | error e =>
    rw [Surroundings.attempt_unread inForce]
    exact ⟨k, start, exec_bind_error (inForce ▸ read)⟩
  | ok settings =>
    dsimp only
    rw [exec_bind_ok (inForce ▸ read)]
    cases named : s.machine.candidates settings none with
    | error e =>
      rw [Surroundings.attempt_unnamed inForce named]
      exact ⟨k, start, exec_bind_error (exec_openLibrary_unnamed named k)⟩
    | ok files =>
      obtain ⟨later, opened⟩ := exec_openLibrary named k
      let m : Loader := { k with
        tried := k.tried ++ s.attempted files
        records := k.records ++ later }
      have tried : k.Notes m := ⟨_, _, rfl⟩
      rw [Surroundings.attempt_eq inForce named]
      cases first : s.firstOf files with
      | error e => exact ⟨m, start.trans tried, exec_bind_error (first ▸ opened)⟩
      | ok candidate =>
        obtain ⟨n, noted, registered⟩ :=
          exec_register candidate (!settings.compatibilityCheck) s m
        refine ⟨n, (start.trans tried).trans noted, ?_⟩
        rw [exec_bind_ok (first ▸ opened)]
        cases declared : candidate.declare !settings.compatibilityCheck with
        | error e =>
          refine exec_bind_error (declared ▸ registered) |>.trans ?_
          simp [declared, bind, Except.bind]
        | ok found =>
          refine exec_bind_ok (declared ▸ registered) |>.trans ?_
          simp only [bind, Except.bind, declared]
          rfl

end Loader

end ClangIndex.Library
