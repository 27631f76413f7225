import ClangIndex.Proofs.LibraryLoading

/-!
What callers ask of a loader, one request after another, each in the surroundings of its time. Until
the library is obtained every access makes an attempt of its own; from then on nothing that callers
can see changes.
-/

namespace ClangIndex.Library

namespace Loaded

def learn (l : Loaded) (name : String) : Loaded :=
  if Loader.ownNames.contains name then l else (l.find? name).getD l

theorem Same.refl (l : Loaded) : l.Same l := ⟨rfl, rfl⟩

theorem Same.trans {l k m : Loaded} (h : l.Same k) (h' : k.Same m) : l.Same m :=
  ⟨h'.1.trans h.1, h'.2.trans h.2⟩

theorem find?_eq (l : Loaded) (name : String) :
    l.find? name = if l.has name then some ((l.find? name).getD l) else none := by
  rw [find?]
  split <;> rfl

theorem same_learn (l : Loaded) (name : String) : l.Same (l.learn name) := by
  rw [learn, find?]
  split
  · exact .refl l
  · split
    · split <;> exact ⟨rfl, rfl⟩
    · exact .refl l

end Loaded

namespace Loader

variable {s : Surroundings} {l k : Loader}

theorem loaded_eta {found : Loaded} (h : k.loaded = some found) :
    { k with loaded := some found } = k := by
  rw [← h]

theorem exec_symbol?_ok {found : Loaded} (h : exec library s l = (.ok found, k))
    (kept : k.loaded = some found) (name : String) :
    exec (symbol? name) s l =
      (.ok (found.find? name), { k with loaded := some ((found.find? name).getD found) }) := by
  rw [symbol?, exec_bind_ok h]
  cases found.find? name with
  | some l => rfl
  | none => exact congrArg (Prod.mk _) (loaded_eta kept).symm

theorem exec_hasName_ok {found : Loaded} (h : exec library s l = (.ok found, k))
    (kept : k.loaded = some found) (name : String) :
    exec (hasName name) s l =
      (.ok (found.knows name), { k with loaded := some (found.learn name) }) := by
  rw [hasName, Loaded.knows, Loaded.learn]
  cases ownNames.contains name with
  | true => exact (exec_bind_ok h).trans (congrArg (Prod.mk _) (loaded_eta kept).symm)
  | false =>
    rw [if_neg Bool.false_ne_true, exec_bind_ok (exec_symbol?_ok h kept name), Loaded.find?_eq]
    cases found.has name <;> rfl

theorem exec_hasName_error {e : Failure} (h : exec library s l = (.error e, k)) (name : String) :
    exec (hasName name) s l = (.error e, k) := by
  rw [hasName]
  cases ownNames.contains name with
  | true => exact exec_bind_error h
  | false => exact exec_bind_error (exec_bind_error h)

theorem kept_of_exec_library {found : Loaded} (h : exec library s l = (.ok found, k)) :
    k.loaded = some found := by
  cases there : l.loaded with
  | some library =>
    cases h.symm.trans (exec_library_of_some there s)
    exact there
  | none =>
    obtain ⟨m, -, attempted⟩ := exec_library_of_none there s
    cases came : s.attempt l with
    | error e =>
      rw [came] at attempted
      cases h.symm.trans attempted
    | ok library =>
      rw [came] at attempted
      cases h.symm.trans attempted
      rfl

theorem exec_functionExists_ok {found : Loaded} (h : exec library s l = (.ok found, k))
    (name : String) :
    exec (functionExists name) s l =
      (.ok (found.knows name), { k with loaded := some (found.learn name) }) :=
  exec_tryCatch_ok (exec_hasName_ok h (kept_of_exec_library h) name)

def unlooked : Failure → Except Failure Bool
  | .plain .attribute => .ok false
  | e => .error e

theorem unlooked_eq_error_iff {e : Failure} :
    unlooked e = .error e ↔ e ≠ .plain .attribute := by
  unfold unlooked
  split <;> simp_all

theorem exec_functionExists_error {e : Failure} (h : exec library s l = (.error e, k))
    (name : String) : exec (functionExists name) s l = (unlooked e, k) := by
  rw [functionExists, exec_tryCatch_error (exec_hasName_error h name)]
  cases e with
  | plain e => cases e <;> rfl
  | _ => rfl

inductive Request
  | setLibraryPath (path : String)
  | setLibraryFile (file : String)
  | setCompatibilityCheck (b : Bool)
  | settings
  | library
  | functionExists (name : String)

namespace Request

def after (s : Surroundings) (l : Loader) : Request → Loader
  | .setLibraryPath path => (exec (Loader.setLibraryPath path) s l).2
  | .setLibraryFile file => (exec (Loader.setLibraryFile file) s l).2
  | .setCompatibilityCheck b => (exec (Loader.setCompatibilityCheck b) s l).2
  | .settings => (exec Loader.settings s l).2
  | .library => (exec Loader.library s l).2
  | .functionExists name => (exec (Loader.functionExists name) s l).2

def accesses : Request → Bool
  | .library | .functionExists _ => true
  | _ => false

def Obtains (r : Request) (s : Surroundings) (l : Loader) : Prop :=
  r.accesses = true ∧ ∃ found, (exec Loader.library s l).1 = .ok found

end Request

abbrev History := List (Surroundings × Request)

def after (l : Loader) (h : History) : Loader := h.foldl (fun l x => x.2.after x.1 l) l

def Refuses (l : Loader) (m : Loading Unit) : Prop :=
  ∀ s, ∃ e, e.class? = some .library ∧ exec m s l = (.error e, l)

structure Settled (l : Loader) (found : Loaded) : Prop where
  frozen : l.frozen = true
  loaded : l.loaded = some found
  given (s : Surroundings) : exec library s l = (.ok found, l)
  path (path : String) : l.Refuses (setLibraryPath path)
  file (file : String) : l.Refuses (setLibraryFile file)
  check (b : Bool) : l.Refuses (setCompatibilityCheck b)

/-- A loader without a library. Whatever was tried before, an access goes by what is set now. -/
structure Open (l : Loader) : Prop where
  frozen : l.frozen = false
  loaded : l.loaded = none
  attempts (s : Surroundings) : ∃ k, l.Notes k ∧ exec library s l = match s.attempt l with
    | .ok found => (.ok found, { k with loaded := some found, frozen := true })
    | .error e => (.error e, k)
  fails_iff (s : Surroundings) : (∃ e, (exec library s l).1 = .error e) ↔ s.Unloadable l
  looks (s : Surroundings) (name : String) (fails : s.Unloadable l) :
    l.Notes (exec (functionExists name) s l).2
  path (s : Surroundings) (path : String) :
    exec (setLibraryPath path) s l = (.ok (), { l with libraryPath := some path })
  file (s : Surroundings) (file : String) :
    exec (setLibraryFile file) s l = (.ok (), { l with libraryFile := some file })
  check (s : Surroundings) (b : Bool) :
    exec (setCompatibilityCheck b) s l = (.ok (), { l with compatibilityCheck := some b })

theorem exec_ensureOpen (what : String) (s : Surroundings) (l : Loader) :
    exec (ensureOpen what) s l =
      if l.frozen then (.error (.settingFrozen what), l) else (.ok (), l) := by
  rw [ensureOpen, exec_bind_ok (show exec get s l = (.ok l, l) from rfl)]
  cases l.frozen <;> rfl

theorem refuses_of_frozen (h : l.frozen = true) (what : String) (m : Loading Unit) :
    l.Refuses (ensureOpen what >>= fun _ => m) :=
  fun s => ⟨_, rfl, exec_bind_error ((exec_ensureOpen what s l).trans (if_pos h))⟩

theorem exec_set_of_unfrozen (h : l.frozen = false) (what : String) (f : Loader → Loader)
    (s : Surroundings) : exec (ensureOpen what >>= fun _ => modify f) s l = (.ok (), f l) :=
  exec_bind_ok ((exec_ensureOpen what s l).trans (if_neg (by simp [h])))

theorem settled_of_loaded {found : Loaded} (frozen : l.frozen = true)
    (loaded : l.loaded = some found) : l.Settled found where
  frozen := frozen
  loaded := loaded
  given := exec_library_of_some loaded
  path _ := refuses_of_frozen frozen _ _
  file _ := refuses_of_frozen frozen _ _
  check _ := refuses_of_frozen frozen _ _

theorem open_of_unloaded (frozen : l.frozen = false) (loaded : l.loaded = none) : l.Open := by
  have attempts := exec_library_of_none loaded
  have fails_iff (s : Surroundings) : (∃ e, (exec library s l).1 = .error e) ↔ s.Unloadable l := by
    obtain ⟨k, -, came⟩ := attempts s
    rw [← Surroundings.attempt_fails_iff, came]
    cases s.attempt l <;> simp
  refine ⟨frozen, loaded, attempts, fails_iff, fun s name fails => ?_,
    fun s _ => exec_set_of_unfrozen frozen _ _ s, fun s _ => exec_set_of_unfrozen frozen _ _ s,
    fun s _ => exec_set_of_unfrozen frozen _ _ s⟩
  obtain ⟨k, notes, came⟩ := attempts s
  obtain ⟨e, failed⟩ := Surroundings.attempt_fails_iff.mpr fails
  rw [failed] at came
  rw [exec_functionExists_error came]
  exact notes

variable {r : Request} {found : Loaded}

/-- What stays of a loader with its library: it learns names at most, and records are added. -/
def Lasts (l : Loader) (found : Loaded) (k : Loader) : Prop :=
  ∃ found' records, found.Same found' ∧
    k = { l with loaded := some found', records := l.records ++ records }

theorem Lasts.refl (h : l.loaded = some found) : l.Lasts found l :=
  ⟨found, [], .refl found, by rw [List.append_nil]; exact (loaded_eta h).symm⟩

namespace Settled

theorem lasts_request (settled : l.Settled found) (r : Request) (s : Surroundings) :
    l.Lasts found (r.after s l) := by
  have refused {m : Loading Unit} (h : l.Refuses m) : l.Lasts found (exec m s l).2 := by
    obtain ⟨e, -, came⟩ := h s
    rw [came]
    exact .refl settled.loaded
  cases r with
  | setLibraryPath path => exact refused (settled.path path)
  | setLibraryFile file => exact refused (settled.file file)
  | setCompatibilityCheck b => exact refused (settled.check b)
  | settings =>
    obtain ⟨records, came⟩ := exec_settings s l
    exact ⟨found, records, .refl found, by rw [Request.after, came, ← settled.loaded]⟩
  | library =>
    rw [Request.after, settled.given s]
    exact .refl settled.loaded
  | functionExists name =>
    rw [Request.after, exec_functionExists_ok (settled.given s)]
    exact ⟨found.learn name, [], found.same_learn name, by rw [List.append_nil]⟩

theorem of_lasts (settled : l.Settled found) (h : l.Lasts found k) :
    ∃ found', found.Same found' ∧ k.Settled found' := by
  obtain ⟨found', records, same, rfl⟩ := h
  exact ⟨found', same, settled_of_loaded settled.frozen rfl⟩

theorem lasts (settled : l.Settled found) (later : History) :
    l.Lasts found (l.after later) := by
  induction later generalizing l found with
  | nil => exact .refl settled.loaded
  | cons x later ih =>
    obtain ⟨found', records, same, came⟩ := settled.lasts_request x.2 x.1
    have still : (x.2.after x.1 l).Settled found' := by
      rw [came]
      exact settled_of_loaded settled.frozen rfl
    obtain ⟨found'', records', same', came'⟩ := ih still
    refine ⟨found'', records ++ records', same.trans same', ?_⟩
    rw [came] at came'
    rw [after, List.foldl_cons, came, ← List.append_assoc]
    exact came'

end Settled

theorem Open.after_request (opened : l.Open) (r : Request) (s : Surroundings) :
    (r.Obtains s l ∧ ∃ found, (r.after s l).Settled found) ∨
      ¬ r.Obtains s l ∧ (r.after s l).Open := by
  have free (k : Loader) (frozen : k.frozen = l.frozen) (loaded : k.loaded = l.loaded) : k.Open :=
    open_of_unloaded (frozen.trans opened.frozen) (loaded.trans opened.loaded)
  have noted {k : Loader} (h : l.Notes k) : k.Open := by
    obtain ⟨tried, records, rfl⟩ := h
    exact free _ rfl rfl
  obtain ⟨k, notes, came⟩ := opened.attempts s
  cases r with
  | setLibraryPath path =>
    refine .inr ⟨fun h => Bool.false_ne_true h.1, ?_⟩
    rw [Request.after, opened.path]
    exact free _ rfl rfl
  | setLibraryFile file =>
    refine .inr ⟨fun h => Bool.false_ne_true h.1, ?_⟩
    rw [Request.after, opened.file]
    exact free _ rfl rfl
  | setCompatibilityCheck b =>
    refine .inr ⟨fun h => Bool.false_ne_true h.1, ?_⟩
    rw [Request.after, opened.check]
    exact free _ rfl rfl
  | settings =>
    obtain ⟨records, read⟩ := exec_settings s l
    refine .inr ⟨fun h => Bool.false_ne_true h.1, ?_⟩
    rw [Request.after, read]
    exact free _ rfl rfl
  | library =>
    rw [Request.after, Request.Obtains, came]
    cases s.attempt l with
    | ok found => exact .inl ⟨⟨rfl, found, rfl⟩, found, settled_of_loaded rfl rfl⟩
    | error e => exact .inr ⟨fun h => (nomatch h.2), noted notes⟩
  | functionExists name =>
    cases attempted : s.attempt l with
    | ok found =>
      rw [attempted] at came
      rw [Request.after, Request.Obtains, exec_functionExists_ok came, came]
      exact .inl ⟨⟨rfl, found, rfl⟩, _, settled_of_loaded rfl rfl⟩
    | error e =>
      rw [attempted] at came
      rw [Request.after, Request.Obtains, exec_functionExists_error came, came]
      exact .inr ⟨fun h => (nomatch h.2), noted notes⟩

def Obtained (l : Loader) (h : History) : Prop :=
  ∃ past s r later, h = past ++ (s, r) :: later ∧ r.Obtains s (l.after past)

theorem obtained_cons {h : History} :
    l.Obtained ((s, r) :: h) ↔ r.Obtains s l ∨ (r.after s l).Obtained h := by
  constructor
  · rintro ⟨past, s', r', later, e, obtains⟩
    cases past with
    | nil =>
      cases e
      exact .inl obtains
    | cons x past =>
      cases e
      exact .inr ⟨past, s', r', later, rfl, obtains⟩
  · rintro (obtains | ⟨past, s', r', later, rfl, obtains⟩)
    · exact ⟨[], s, r, h, rfl, obtains⟩
    · exact ⟨(s, r) :: past, s', r', later, rfl, obtains⟩

theorem Open.after_history (opened : l.Open) (h : History) :
    (l.Obtained h ∧ ∃ found, (l.after h).Settled found) ∨ ¬ l.Obtained h ∧ (l.after h).Open := by
  induction h generalizing l with
  | nil =>
    refine .inr ⟨?_, opened⟩
    rintro ⟨past, s, r, later, e, -⟩
    exact List.append_ne_nil_of_right_ne_nil past (List.cons_ne_nil _ _) e.symm
  | cons x h ih =>
    obtain ⟨s, r⟩ := x
    rw [obtained_cons]
    obtain ⟨obtains, found, settled⟩ | ⟨fails, stillOpen⟩ := opened.after_request r s
    · obtain ⟨found', -, last⟩ := settled.of_lasts (settled.lasts h)
      exact .inl ⟨.inl obtains, found', last⟩
    · obtain ⟨obtained, found, settled⟩ | ⟨never, last⟩ := ih stillOpen
      · exact .inl ⟨.inr obtained, found, settled⟩
      · exact .inr ⟨fun h => h.elim fails never, last⟩

/-- Looking for a function says whether the library that an access obtains has it, and fails as that
access does. -/
def Truthful (l : Loader) (s : Surroundings) (name : String) : Prop :=
  (∀ b, (exec (functionExists name) s l).1 = .ok b →
    ∃ found, (exec library s l).1 = .ok found ∧ b = found.knows name) ∧
  ∀ e, (exec library s l).1 = .error e → (exec (functionExists name) s l).1 = .error e

theorem Settled.truthful (settled : l.Settled found) (s : Surroundings) (name : String) :
    l.Truthful s name := by
  rw [Truthful, exec_functionExists_ok (settled.given s), settled.given s]
  exact ⟨fun b e => ⟨found, rfl, (Except.ok.inj e).symm⟩, fun _ e => nomatch e⟩

theorem Open.truthful_iff (opened : l.Open) (s : Surroundings) (name : String) :
    l.Truthful s name ↔ s.settingsOver l ≠ .error (.plain .attribute) := by
  obtain ⟨k, -, came⟩ := opened.attempts s
  rw [Ne, ← Surroundings.attempt_attribute_iff]
  cases attempted : s.attempt l with
  | ok found =>
    rw [attempted] at came
    rw [Truthful, exec_functionExists_ok came, came]
    simp
  | error e =>
    rw [attempted] at came
    rw [Truthful, exec_functionExists_error came, came, Except.error.injEq, ← Ne,
      ← unlooked_eq_error_iff]
    refine ⟨fun h => h.2 e rfl, fun same => ⟨fun b answer => ?_, fun e' h => ?_⟩⟩
    · rw [same] at answer
      cases answer
    · cases h
      exact same

def ofHistory (h : History) : Loader := after {} h

theorem ofHistory_append (h later : History) :
    ofHistory (h ++ later) = (ofHistory h).after later :=
  List.foldl_append ..

/-- The library is obtained once. The settings are frozen exactly from then on, and everything that
is asked later finds the same library and the same settings. Until then each access makes an attempt
by the settings of its time, of which nothing but notes stays when it fails. Looking for a function
tells the truth about that, unless reading the settings ends in an attribute error. -/
theorem library_obtained_once (h : History) :
    ((ofHistory h).frozen = true ↔ ({} : Loader).Obtained h) ∧
    ((ofHistory h).frozen = true → ∃ found, (ofHistory h).Settled found ∧ ∀ later,
      (ofHistory h).Lasts found (ofHistory (h ++ later)) ∧
        ∃ found', found.Same found' ∧ (ofHistory (h ++ later)).Settled found') ∧
    ((ofHistory h).frozen = false → (ofHistory h).Open) ∧
    ∀ s name, (ofHistory h).Truthful s name ↔ ((ofHistory h).frozen = false →
      s.settingsOver (ofHistory h) ≠ .error (.plain .attribute)) := by
  have start : ({} : Loader).Open := open_of_unloaded rfl rfl
  obtain ⟨obtained, found, settled⟩ | ⟨never, opened⟩ := start.after_history h
  · refine ⟨iff_of_true settled.frozen obtained, fun _ => ⟨found, settled, fun later => ?_⟩,
      fun unfrozen => ?_, fun s name => iff_of_true (settled.truthful s name) fun unfrozen => ?_⟩
    · rw [ofHistory_append]
      exact ⟨settled.lasts later, settled.of_lasts (settled.lasts later)⟩
    all_goals cases settled.frozen.symm.trans unfrozen
  · have unfrozen := opened.frozen
    refine ⟨iff_of_false (fun frozen => ?_) never, fun frozen => ?_, fun _ => opened,
      fun s name => (opened.truthful_iff s name).trans ⟨fun h _ => h, fun h => h unfrozen⟩⟩
    all_goals cases unfrozen.symm.trans frozen

def offering : Surroundings where
  offers := [("libclang.so", .symbols ["clang_getClangVersion"] none)]

def recovering : History := [
  ({}, .library), (offering, .functionExists "clang_createIndex"),
  (offering, .setCompatibilityCheck false), (offering, .library)]

theorem library_obtained_once_recovering :
    (ofHistory (recovering.take 3)).Open ∧ ({} : Loader).Obtained recovering ∧
      ∃ found, (ofHistory recovering).Settled found ∧
        (ofHistory recovering).Truthful {} "clang_createIndex" := by
  have first := library_obtained_once (recovering.take 3)
  have all := library_obtained_once recovering
  have frozen : (ofHistory recovering).frozen = true := by decide +kernel
  obtain ⟨found, settled, -⟩ := all.2.1 frozen
  exact ⟨first.2.2.1 (by decide +kernel), all.1.mp frozen, found, settled,
    (all.2.2.2 {} "clang_createIndex").mpr fun unfrozen => by cases frozen.symm.trans unfrozen⟩

def badTime : Surroundings where
  machine.files.entries := [(["c.yml".toList], .file (Text.utf8 "!!timestamp today\n"))]
  environment := [(Variable.config, "c.yml")]
  offers := [("libclang.so", .symbols [] none)]

/-- A file of settings with a time that is none: there is a library to load, but no access gets at
it. Looking for a function says that there is none instead of failing as the access does. -/
theorem untruthful_badTime :
    (exec library badTime (ofHistory [])).1.toOption.isNone = true ∧
      (exec (functionExists "clang_getClangVersion") badTime (ofHistory [])).1.toOption =
        some false ∧
      ¬ (ofHistory []).Truthful badTime "clang_getClangVersion" := by
  have failed : (exec library badTime (ofHistory [])).1.toOption.isNone = true := by decide +kernel
  have answered : (exec (functionExists "clang_getClangVersion") badTime
      (ofHistory [])).1.toOption = some false := by decide +kernel
  refine ⟨failed, answered, fun truthful => ?_⟩
  cases answer : (exec (functionExists "clang_getClangVersion") badTime (ofHistory [])).1 with
  | error e =>
    rw [answer] at answered
    cases answered
  | ok b =>
    obtain ⟨found, obtained, -⟩ := truthful.1 b answer
    rw [obtained] at failed
    cases failed

end Loader

end ClangIndex.Library
