import ClangIndex.Proofs.LibraryLoading
import Mathlib.Data.List.Basic
import Mathlib.Data.List.Induction

namespace ClangIndex.Library

namespace Machine

theorem distinct_concat (xs : List String) (x : String) :
    distinct (xs ++ [x]) = if x ∈ distinct xs then distinct xs else distinct xs ++ [x] := by
  simp [distinct, List.foldl_append]

theorem mem_distinct {xs : List String} {f : String} : f ∈ distinct xs ↔ f ∈ xs := by
  induction xs using List.reverseRecOn generalizing f with
  | nil => rfl
  | append_singleton xs x ih =>
    rw [distinct_concat]
    split
    · rename_i there
      rw [List.mem_append, List.mem_singleton, ih]
      exact ⟨.inl, fun among => among.elim id fun same => same ▸ ih.mp there⟩
    · rw [List.mem_append, List.mem_append, ih]

/-- Where a word stands first does not change when more words follow. -/
theorem pairwise_idxOf_distinct (xs : List String) :
    (distinct xs).Pairwise fun a b => xs.idxOf a < xs.idxOf b := by
  induction xs using List.reverseRecOn with
  | nil => exact .nil
  | append_singleton xs x ih =>
    have kept : (distinct xs).Pairwise fun a b => (xs ++ [x]).idxOf a < (xs ++ [x]).idxOf b := by
      refine ih.imp_of_mem fun {a b} here there lt => ?_
      rwa [List.idxOf_append_of_mem (mem_distinct.mp here),
        List.idxOf_append_of_mem (mem_distinct.mp there)]
    rw [distinct_concat]
    split
    · exact kept
    · rename_i absent
      refine List.pairwise_append.mpr ⟨kept, List.pairwise_singleton _ _, ?_⟩
      intro a here b last
      rw [List.mem_singleton.mp last, List.idxOf_append_of_mem (mem_distinct.mp here),
        List.idxOf_append_of_notMem (mt mem_distinct.mpr absent)]
      exact Nat.lt_add_right _ (List.idxOf_lt_length_of_mem (mem_distinct.mp here))

def sources (m : Machine) (s : Settings) (system : Option String) : List String :=
  let name := m.libraryName system
  let inPath := match s.directory? with
    | some (.text dir) => some (String.ofList (Text.Path.join dir.toList name.toList))
    | _ => none
  inPath.toList ++ (m.bundled? system).toList ++
    (Settings.nonEmpty (lookup "clang" m.linked)).toList ++ [name]

/-- A file that is named is the only one. Otherwise these are the sources, without repetition, each
where it stands first. -/
structure Ordered (m : Machine) (s : Settings) (system : Option String) (files : List Name) :
    Prop where
  named : ∀ file, s.file? = some file → files = [file]
  unnamed : s.file? = none → ∃ names : List String,
    files = names.map .text ∧ (∀ f, f ∈ names ↔ f ∈ m.sources s system) ∧
      names.Pairwise fun a b => (m.sources s system).idxOf a < (m.sources s system).idxOf b

section

variable {m : Machine} {s : Settings} {system : Option String}

theorem candidates_of_named {file : Name} (named : s.file? = some file) :
    m.candidates s system = .ok [file] := by
  rw [candidates, named]

theorem candidates_of_bytes (unnamed : s.file? = none)
    {dir : Text.Bytes} (path : s.directory? = some (.bytes dir)) :
    m.candidates s system = .error Failure.typeError := by
  rw [candidates, unnamed]
  dsimp only
  rw [path]
  rfl

theorem candidates_of_unnamed (unnamed : s.file? = none)
    (path : ∀ dir, s.directory? ≠ some (.bytes dir)) :
    m.candidates s system = .ok ((distinct (m.sources s system)).map .text) := by
  rw [candidates, unnamed, sources]
  dsimp only
  match named : s.directory? with
  | none | some (.text dir) =>
    cases m.bundled? system <;> cases Settings.nonEmpty (lookup "clang" m.linked) <;> rfl
  | some (.bytes dir) => exact absurd named (path dir)

theorem ordered_of_candidates {files : List Name} (h : m.candidates s system = .ok files) :
    m.Ordered s system files := by
  refine ⟨fun file named => ?_, fun unnamed => ?_⟩
  · rw [candidates_of_named named] at h
    exact (Except.ok.inj h).symm
  · by_cases path : ∃ dir, s.directory? = some (.bytes dir)
    · obtain ⟨dir, path⟩ := path
      cases (candidates_of_bytes unnamed path).symm.trans h
    · rw [candidates_of_unnamed unnamed (not_exists.mp path)] at h
      exact ⟨_, (Except.ok.inj h).symm, fun _ => mem_distinct, pairwise_idxOf_distinct _⟩

end

end Machine

namespace Surroundings

variable {s : Surroundings} {before after files : List Name} {file : Name}

theorem tried?_eq_none_iff : s.tried? file = none ↔ ∃ text, s.offer file = .refused text := by
  unfold tried?
  cases s.offer file <;> simp

theorem attempted_append (refused : ∀ f ∈ before, s.tried? f = none) (after : List Name) :
    s.attempted (before ++ after) = before ++ s.attempted after := by
  induction before with
  | nil => rfl
  | cons f before ih =>
    obtain ⟨here, others⟩ := List.forall_mem_cons.mp refused
    rw [List.cons_append, attempted, here, ih others]
    rfl

/-- Files that are not loaded, before one that the system is not even asked for. -/
def Stuck (s : Surroundings) (files before : List Name) (file : Name) : Prop :=
  before ++ [file] <+: files ∧ (∀ f ∈ before, ∃ text, s.offer f = .refused text) ∧
    s.offer file = .unpassable

/-- What a search through some files should come to. It ends with the first that loads; all files
before it were tried. If none does, the error has every file with its text. -/
inductive Searched (s : Surroundings) (l : Loader) (files : List Name) :
    Except Failure Loaded × Loader → Prop
  | loaded {before after : List Name} {file : Name} {missing : List String}
      {only : Option (List String)} {records : List Log.Record}
      (split : files = before ++ file :: after)
      (refused : ∀ f ∈ before, ∃ text, s.offer f = .refused text)
      (offered : s.offer file = .symbols missing only) :
      s.Searched l files (.ok { file, has := Offer.has missing only },
        { l with tried := l.tried ++ (before ++ [file]), records := l.records ++ records })
  | failed {text : Name → String} {records : List Log.Record}
      (refused : ∀ f ∈ files, s.offer f = .refused (text f)) :
      s.Searched l files (.error (.libraryNotLoaded (files.map fun f => (f.shown, text f))),
        { l with tried := l.tried ++ files, records := l.records ++ records })

/-- What a search comes to that does not come to its end. -/
inductive Broken (s : Surroundings) (settings : Settings) (l : Loader) :
    Except Failure Loaded × Loader → Prop
  | unnamed (none : s.machine.candidates settings none = .error Failure.typeError) :
      s.Broken settings l (.error Failure.typeError, l)
  | stuck {files before : List Name} {file : Name} {records : List Log.Record}
      (named : s.machine.candidates settings none = .ok files)
      (first : s.Stuck files before file) :
      s.Broken settings l (.error Failure.valueError,
        { l with tried := l.tried ++ (before ++ [file]), records := l.records ++ records })

/-- The candidates can be named, and up to the first that loads each can be handed to the system. -/
structure Searchable (s : Surroundings) (settings : Settings) : Prop where
  named : settings.file? = none →
    ∀ dir, settings.directory? ≠ some (.bytes dir)
  passable : ∀ files before file, s.machine.candidates settings none = .ok files →
    ¬s.Stuck files before file

theorem exists_refusals (refused : ∀ f ∈ files, s.tried? f = none) :
    ∃ text : Name → String, (∀ f ∈ files, s.offer f = .refused (text f)) ∧
      files.filterMap s.refusal? = files.map fun f => (f.shown, text f) := by
  let text (f : Name) : String := match s.offer f with
    | .refused t => t
    | _ => ""
  have told (f) (mem : f ∈ files) : s.offer f = .refused (text f) := by
    obtain ⟨t, offered⟩ := tried?_eq_none_iff.mp (refused f mem)
    simp only [text, offered]
  refine ⟨text, told, ?_⟩
  rw [← List.filterMap_eq_map]
  refine List.filterMap_congr fun f mem => ?_
  simp only [refusal?, told f mem, Function.comp_apply]

theorem firstOf_cases (l : Loader) (files : List Name) (records : List Log.Record) :
    let r : Except Failure Loaded × Loader := (s.firstOf files,
      { l with tried := l.tried ++ s.attempted files, records := l.records ++ records })
    s.Searched l files r ∨ ∃ before file, s.Stuck files before file ∧ r =
      (.error Failure.valueError,
        { l with tried := l.tried ++ (before ++ [file]), records := l.records ++ records }) := by
  intro r
  cases found : files.findSome? s.tried? with
  | none =>
    have refused := List.findSome?_eq_none_iff.mp found
    have all : s.attempted files = files := by
      simpa [attempted] using attempted_append refused []
    obtain ⟨text, told, listed⟩ := exists_refusals refused
    refine .inl ?_
    simp only [r, firstOf, found, Option.getD_none, listed, all]
    exact .failed told
  | some decision =>
    obtain ⟨before, file, after, split, decided, refused⟩ := List.findSome?_eq_some_iff.mp found
    have tried : s.attempted files = before ++ [file] := by
      rw [split, attempted_append refused, attempted, decided]
    have told (f) (mem : f ∈ before) := tried?_eq_none_iff.mp (refused f mem)
    simp only [r, firstOf, found, Option.getD_some, tried]
    unfold tried? at decided
    split at decided
    · cases decided
    · rename_i stuck
      cases decided
      refine .inr ⟨before, file, ⟨⟨after, ?_⟩, told, stuck⟩, rfl⟩
      rw [split, List.append_assoc, List.singleton_append]
    · rename_i missing only offered
      cases decided
      exact .inl (.loaded split told offered)

theorem findSome?_of_split (split : files = before ++ file :: after)
    (refused : ∀ f ∈ before, ∃ text, s.offer f = .refused text) {d : Except Failure Loaded}
    (decided : s.tried? file = some d) : files.findSome? s.tried? = some d :=
  List.findSome?_eq_some_iff.mpr ⟨before, file, after, split, decided,
    fun f mem => tried?_eq_none_iff.mpr (refused f mem)⟩

theorem Searched.not_stuck {l : Loader} {r : Except Failure Loaded × Loader}
    (h : s.Searched l files r) (before : List Name) (file : Name) : ¬s.Stuck files before file := by
  rintro ⟨⟨after, same⟩, refused, stuck⟩
  have split : files = before ++ file :: after := by
    rw [← same, List.append_assoc, List.singleton_append]
  have decided := findSome?_of_split split refused
    (show s.tried? file = some (.error Failure.valueError) by simp [tried?, stuck])
  cases h with
  | @loaded _ _ other missing only _ split refused offered =>
    have opened : s.tried? other = some (.ok { file := other, has := Offer.has missing only }) := by
      simp [tried?, offered]
    cases decided.symm.trans (findSome?_of_split split refused opened)
  | failed refused =>
    cases (refused file (split ▸ List.mem_append_right _ List.mem_cons_self)).symm.trans stuck

end Surroundings

section

variable (s : Surroundings) (settings : Settings) (l : Loader)

def opening : Except Failure Loaded × Loader := Loader.exec (Loader.openLibrary settings) s l

variable {s settings l}

theorem opening_of_named {files : List Name}
    (named : s.machine.candidates settings none = .ok files) :
    s.Searched l files (opening s settings l) ∨
      ∃ before file, s.Stuck files before file ∧ s.Broken settings l (opening s settings l) := by
  obtain ⟨records, opened⟩ := Loader.exec_openLibrary named l
  obtain found | ⟨before, file, stuck, ended⟩ := Surroundings.firstOf_cases (s := s) l files records
  · rw [opening, opened]
    exact .inl found
  · refine .inr ⟨before, file, stuck, ?_⟩
    rw [opening, opened, ended]
    exact .stuck named stuck

theorem opening_unnamed {e : Failure} (none : s.machine.candidates settings none = .error e) :
    s.Broken settings l (opening s settings l) := by
  obtain rfl := Machine.typeError_of_candidates none
  rw [opening, Loader.exec_openLibrary_unnamed none]
  exact .unnamed none

theorem searched_iff : (∃ files, s.machine.candidates settings none = .ok files ∧
    s.Searched l files (opening s settings l)) ↔ s.Searchable settings := by
  constructor
  · rintro ⟨files, named, found⟩
    refine ⟨fun unnamed dir path => ?_, fun files' before file named' => ?_⟩
    · cases (Machine.candidates_of_bytes unnamed path).symm.trans named
    · cases named.symm.trans named'
      exact found.not_stuck before file
  · intro searchable
    cases named : s.machine.candidates settings none with
    | error e =>
      cases unnamed : settings.file? with
      | some file => cases (Machine.candidates_of_named unnamed).symm.trans named
      | none =>
        cases (Machine.candidates_of_unnamed unnamed (searchable.named unnamed)).symm.trans named
    | ok files =>
      obtain found | ⟨before, file, stuck, -⟩ := opening_of_named (l := l) named
      · exact ⟨files, rfl, found⟩
      · exact absurd stuck (searchable.passable files before file named)

theorem broken_of_not_searchable (h : ¬s.Searchable settings) :
    s.Broken settings l (opening s settings l) := by
  cases named : s.machine.candidates settings none with
  | error e => exact opening_unnamed named
  | ok files =>
    obtain found | ⟨before, file, -, broken⟩ := opening_of_named (l := l) named
    · exact absurd (searched_iff.mp ⟨files, named, found⟩) h
    · exact broken

theorem opening_fails_iff :
    (∃ e, (opening s settings l).1 = .error e ∧ e.class? = some .library) ↔
      ∃ files, s.machine.candidates settings none = .ok files ∧
        ∀ file ∈ files, ∃ text, s.offer file = .refused text := by
  constructor
  · rintro ⟨e, failed, library⟩
    have unbroken : ¬s.Broken settings l (opening s settings l) := by
      intro broken
      generalize opening s settings l = r at broken failed
      cases broken <;> (cases failed; cases library)
    cases named : s.machine.candidates settings none with
    | error e => exact absurd (opening_unnamed named) unbroken
    | ok files =>
      obtain found | ⟨-, -, -, broken⟩ := opening_of_named (l := l) named
      · refine ⟨files, rfl, ?_⟩
        generalize opening s settings l = r at found failed
        cases found with
        | loaded => cases failed
        | failed refused => exact fun f mem => ⟨_, refused f mem⟩
      · exact absurd broken unbroken
  · rintro ⟨files, named, refused⟩
    obtain found | ⟨before, file, ⟨start, -, stuck⟩, -⟩ := opening_of_named (l := l) named
    · generalize opening s settings l = r at found
      cases found with
      | @loaded _ _ file _ _ _ split _ offered =>
        obtain ⟨text, other⟩ := refused file (split ▸ List.mem_append_right _ List.mem_cons_self)
        cases offered.symm.trans other
      | failed => exact ⟨_, rfl, rfl⟩
    · obtain ⟨text, other⟩ := refused file (start.subset (by simp))
      cases stuck.symm.trans other

end

/-- A file that is named is the only candidate; otherwise the sources are, the most wanted first and
none of them twice. They are tried up to the first that loads. Only when none does the search fails,
and its message has all that were tried and why they could not be loaded. This is so exactly if the
candidates can be named and handed to the system. A directory that is named by bytes leaves no
candidates, and a name that cannot be handed on ends the search where it stands. -/
theorem library_search (s : Surroundings) (settings : Settings) :
    (∀ (system : Option String) (files : List Name),
      s.machine.candidates settings system = .ok files →
        s.machine.Ordered settings system files) ∧
    (∀ l : Loader,
      ((∃ files, s.machine.candidates settings none = .ok files ∧
        s.Searched l files (Loader.exec (Loader.openLibrary settings) s l)) ↔
          s.Searchable settings) ∧
      (¬s.Searchable settings →
        s.Broken settings l (Loader.exec (Loader.openLibrary settings) s l)) ∧
      ((∃ e, (Loader.exec (Loader.openLibrary settings) s l).1 = .error e ∧
          e.class? = some .library) ↔
        ∃ files, s.machine.candidates settings none = .ok files ∧
          ∀ file ∈ files, ∃ text, s.offer file = .refused text)) ∧
    ∀ attempts : List (String × String),
      (Failure.libraryNotLoaded attempts).class? = some .library ∧
        (Failure.libraryNotLoaded attempts).message? = some ("Unable to load libclang (" ++
          "; ".intercalate (attempts.map fun a => a.1 ++ ": " ++ a.2) ++
          "). To provide a path to libclang use Config.set_library_path(), " ++
          "Config.set_library_file() or the CLANGBIND_LIBRARY_FILE / " ++
          "CLANGBIND_LIBRARY_PATH environment variables.") :=
  ⟨fun _ _ => Machine.ordered_of_candidates,
    fun _ => ⟨searched_iff, broken_of_not_searchable, opening_fails_iff⟩,
    fun _ => ⟨rfl, rfl⟩⟩

def twice : Surroundings where
  machine := { linked := [("clang", "libclang.so")] }
  offers := [("/opt/libclang.so", .refused "no library"), ("libclang.so", .symbols [] none)]

def inOpt : Settings where
  libraryPath := some "/opt"

theorem library_search_twice :
    twice.machine.Ordered inOpt none ["/opt/libclang.so", "libclang.so"] ∧
      twice.Searched {} ["/opt/libclang.so", "libclang.so"]
        (Loader.exec (Loader.openLibrary inOpt) twice {}) ∧
      (∃ e, (Loader.exec (Loader.openLibrary inOpt) {} {}).1 = .error e ∧
        e.class? = some .library) := by
  obtain ⟨ordered, search, -⟩ := library_search twice inOpt
  have files : twice.machine.candidates inOpt none = .ok ["/opt/libclang.so", "libclang.so"] := rfl
  have passable : twice.Searchable inOpt := by
    refine ⟨fun _ dir path => (nomatch path), fun names before file named => ?_⟩
    cases files.symm.trans named
    rintro ⟨start, -, stuck⟩
    have among : file ∈ [("/opt/libclang.so" : Name), "libclang.so"] := start.subset (by simp)
    simp only [List.mem_cons, List.not_mem_nil, or_false] at among
    obtain rfl | rfl := among <;> cases stuck
  obtain ⟨named, given, found⟩ := (search {}).1.mpr passable
  cases files.symm.trans given
  have none : ({} : Surroundings).machine.candidates inOpt none =
    .ok ["/opt/libclang.so", "libclang.so"] := rfl
  have bare := (library_search {} inOpt).2.1 {}
  refine ⟨ordered _ _ files, found, bare.2.2.mpr ⟨_, none, ?_⟩⟩
  simp only [List.forall_mem_cons, List.not_mem_nil, false_implies, implies_true, and_true]
  exact ⟨⟨_, rfl⟩, _, rfl⟩

def inZero : Settings where
  libraryPath := some "a\x00b"

def inBytes : Settings where
  libraryPath := some (.bytes [97])

/-- A name that cannot be handed to the system, and bytes that cannot be joined with the name of a
file. A library that loads is there in both cases. -/
theorem library_search_stuck :
    twice.offer "libclang.so" = .symbols [] none ∧
      twice.machine.candidates inZero none = .ok ["a\x00b/libclang.so", "libclang.so"] ∧
      (Loader.exec (Loader.openLibrary inZero) twice {}).1 = .error Failure.valueError ∧
      (Loader.exec (Loader.openLibrary inZero) twice {}).2.tried = ["a\x00b/libclang.so"] ∧
      (Loader.exec (Loader.openLibrary inBytes) twice {}).1 = .error Failure.typeError ∧
      (Loader.exec (Loader.openLibrary inBytes) twice {}).2.tried = [] :=
  ⟨rfl, rfl, rfl, rfl, rfl, rfl⟩

example :
    (Loader.exec (Loader.openLibrary inOpt) twice {}).2.tried =
      ["/opt/libclang.so", "libclang.so"] := by
  decide +kernel

end ClangIndex.Library
