import ClangIndex.Proofs.FailingRuns
import ClangIndex.Proofs.JsonRoundTrip
import ClangIndex.Proofs.Utf8Reading
import ClangIndex.Tool.Report

namespace ClangIndex

namespace Files.Tree

open Text (Bytes)

variable {t : Tree} {l m : Location} {e : Entry}

theorem entryAt?_put_directory (new : t.entryAt? l ≠ some .directory)
    (h : t.entryAt? m = some .directory) : (t.put l e).entryAt? m = some .directory := by
  have other : l ≠ m := fun same => new (same ▸ h)
  unfold entryAt? at h ⊢
  simp only [put, List.find?_cons, beq_eq_false_iff_ne.mpr other, List.any_cons]
  split at h
  case h_1 found => simp only [found, h]
  case h_2 none =>
    simp only [none]
    split at h
    case isTrue above =>
      rw [Bool.or_eq_true] at above
      refine if_pos ?_
      rw [Bool.or_eq_true, Bool.or_eq_true]
      exact above.imp_right .inr
    case isFalse => cases h

theorem step_put (new : t.entryAt? l ≠ some .directory) {n : Name} {m' : Location}
    (h : t.step m n = .ok m') : (t.put l e).step m n = .ok m' := by
  unfold step at h ⊢
  split at h
  case h_1 => cases h
  case h_2 => cases h
  case h_3 found =>
    rw [entryAt?_put_directory new found]
    exact h

theorem foldlM_step_put (new : t.entryAt? l ≠ some .directory) {ns : List Name} {m' : Location}
    (h : ns.foldlM t.step m = .ok m') : ns.foldlM (t.put l e).step m = .ok m' := by
  induction ns generalizing m with
  | nil => exact h
  | cons n r ih =>
    rw [List.foldlM_cons] at h ⊢
    cases first : t.step m n with
    | error x =>
      rw [first] at h
      cases h
    | ok k =>
      rw [first] at h
      rw [step_put new first]
      exact ih h

theorem resolve_put (new : t.entryAt? l ≠ some .directory) {path : List Char} {m' : Location}
    (h : t.resolve path = .ok m') : (t.put l e).resolve path = .ok m' := by
  unfold resolve at h ⊢
  split at h
  case isTrue => cases h
  case isFalse named =>
    rw [if_neg named]
    split at h
    case isTrue => cases h
    case isFalse formed =>
      rw [if_neg formed]
      split at h
      case isTrue => cases h
      case isFalse short =>
        rw [if_neg short]
        exact foldlM_step_put new h

def Takes (t : Tree) (path : List Char) : Prop :=
  ∃ l, t.resolve path = .ok l ∧ t.entryAt? l ≠ some .directory

theorem write_of_resolve {path : List Char} (leads : t.resolve path = .ok l) (b : Bytes) :
    t.write path b =
      if t.entryAt? l = some .directory then .error .isDirectory else .ok (t.put l (.file b)) := by
  unfold write
  rw [leads]
  dsimp only [bind, Except.bind]
  split
  case h_1 there =>
    rw [if_pos there]
    rfl
  case h_2 free =>
    rw [if_neg free]
    rfl

theorem write_cases (t : Tree) (path : List Char) (b : Bytes) :
    (t.Takes path ∧ ∃ t', t.write path b = .ok t' ∧ t'.read path = .ok b) ∨
      (¬t.Takes path ∧ ∃ e, t.write path b = .error e) := by
  cases leads : t.resolve path with
  | error e =>
    refine .inr ⟨fun ⟨_, there, _⟩ => ?_, e, ?_⟩
    · rw [leads] at there
      cases there
    · rw [write, leads]
      rfl
  | ok l =>
    rw [write_of_resolve leads]
    by_cases new : t.entryAt? l = some .directory
    · refine .inr ⟨fun ⟨_, there, free⟩ => ?_, .isDirectory, if_pos new⟩
      rw [leads] at there
      cases there
      exact free new
    · refine .inl ⟨⟨l, leads, new⟩, t.put l (.file b), if_neg new, ?_⟩
      simp only [read, find, resolve_put new leads, entryAt?_put, bind, Except.bind]
      rfl

end Files.Tree

namespace Tool.Report

open Files (Tree PathFault)

namespace Origin

/-- What is added to a report under a key that it does not have. -/
def given (o : Origin) (k : String) : Option Json :=
  if k = "run_id" then some (.text o.run)
  else if k = "timestamp_utc" then some (.text o.time)
  else if k = "tool" then (o.tool.filter (· ≠ "")).map .text
  else none

def extend (o : Origin) (entries : Entries) : Entries :=
  let named := assignDefault "run_id" (.text o.run) entries
  let timed := assignDefault "timestamp_utc" (.text o.time) named
  match o.tool? with
  | some t => assignDefault "tool" (.text t) timed
  | none => timed

theorem tool?_eq (o : Origin) : o.tool? = o.tool.filter (· ≠ "") := by
  unfold tool?
  congr 1
  funext t
  rw [Bool.eq_iff_iff]
  simp

theorem lookup_extend (o : Origin) (entries : Entries) (k : String) :
    lookup k (o.extend entries) = (lookup k entries).or (o.given k) := by
  unfold extend given
  rw [← tool?_eq]
  by_cases run : k = "run_id"
  · subst run
    cases o.tool? <;> simp [lookup_assignDefault]
  by_cases time : k = "timestamp_utc"
  · subst time
    cases o.tool? <;> simp [lookup_assignDefault]
  by_cases tool : k = "tool"
  · subst tool
    cases o.tool? <;> simp [lookup_assignDefault]
  · cases o.tool? <;>
      simp [lookup_assignDefault, run, time, tool, Ne.symm run, Ne.symm time, Ne.symm tool]

theorem wellFormed_extend (o : Origin) {entries : Entries}
    (formed : (Json.object entries).WellFormed) : (Json.object (o.extend entries)).WellFormed := by
  have named := formed.assignDefault "run_id" (.text o.run)
  have timed := named.assignDefault "timestamp_utc" (.text o.time)
  unfold extend
  cases o.tool? with
  | some t => exact timed.assignDefault "tool" (.text t)
  | none => exact timed

theorem writable_extend_iff (o : Origin) (entries : Entries) :
    (Json.object (o.extend entries)).Writable ↔ (Json.object entries).Writable := by
  unfold extend
  cases o.tool? <;> simp only [Json.writable_assignDefault_iff]

end Origin

namespace Act

section

variable {change : Tree → Except PathFault Tree} {d : Desk}

theorem changeFiles_ok {files : Tree} (h : change d.files = .ok files) :
    changeFiles change d = (.ok (), { d with files }) := by simp only [changeFiles, h]

theorem changeFiles_error {e : PathFault} (h : change d.files = .error e) :
    changeFiles change d = (.error e.failure, d) := by simp only [changeFiles, h]

end

variable (xs : Array Entries) (entries : Entries) (files : Tree)

theorem addDefault_push (k : String) (v : Json) :
    addDefault ⟨xs.size⟩ k v { reports := xs.push entries, files } =
      (.ok (), { reports := xs.push (assignDefault k v entries), files }) := by
  have change : (xs.push entries).modify xs.size (assignDefault k v) =
      xs.push (assignDefault k v entries) := by
    refine Array.ext_getElem? fun i => ?_
    rw [Array.getElem?_modify, Array.getElem?_push, Array.getElem?_push]
    by_cases last : i = xs.size
    · simp [last]
    · rw [if_neg (Ne.symm last), if_neg last, if_neg last]
  exact congrArg (fun reports => (Except.ok (), Desk.mk reports files)) change

theorem entries_push : Desk.entries { reports := xs.push entries, files } ⟨xs.size⟩ = entries := by
  simp [Desk.entries]

theorem entries_push_of_lt {r : Ref} (before : r.place < xs.size) (files files' : Tree) :
    Desk.entries { reports := xs.push entries, files := files' } r =
      Desk.entries { reports := xs, files } r := by
  simp only [Desk.entries, Array.getElem?_push, if_neg before.ne]

end Act

section

variable (o : Origin) (xs : Array Entries) (entries : Entries) (files : Tree)

theorem complete_push : complete o ⟨xs.size⟩ { reports := xs.push entries, files } =
    (.ok (), { reports := xs.push (o.extend entries), files }) := by
  refine (FailingRun.bind_ok (Act.addDefault_push ..)).trans ?_
  refine (FailingRun.bind_ok (Act.addDefault_push ..)).trans ?_
  unfold Origin.extend
  cases o.tool? with
  | some t => exact Act.addDefault_push ..
  | none => rfl

theorem write_push (path : List Char) :
    let pieces := (Json.object entries).sorted.pieces 0
    let text := String.ofList (Json.written pieces)
    write path ⟨xs.size⟩ { reports := xs.push entries, files } =
      match files.write path (Text.utf8 text) with
      | .ok files' =>
        (if pieces.all Option.isSome then .ok ⟨String.ofList path, text⟩
          else .error Failure.valueError, { reports := xs.push entries, files := files' })
      | .error e => (.error e.failure, { reports := xs.push entries, files }) := by
  intro pieces text
  refine (FailingRun.bind_ok (m := get) rfl).trans ?_
  rw [Act.entries_push]
  cases written : files.write path (Text.utf8 text) with
  | ok files' =>
    refine (FailingRun.bind_ok (a := ()) (Act.changeFiles_ok written)).trans ?_
    dsimp only
    split <;> rfl
  | error e => exact FailingRun.bind_error (Act.changeFiles_error written)

end

theorem save_exec {o : Origin} {directory : String} {d : Desk} {made : Tree}
    (makes : d.files.makeDirectories directory.toList = .ok made) (report : Ref) :
    (save o directory report).exec d =
      write (Text.Path.join directory.toList o.fileName.toList) ⟨d.reports.size⟩
        { reports := d.reports.push (o.extend (d.entries report)), files := made } := by
  have first : Act.changeFiles (·.makeDirectories directory.toList) d =
      (.ok (), { d with files := made }) := Act.changeFiles_ok makes
  have copied : Act.copy report { d with files := made } =
      (.ok ⟨d.reports.size⟩, { reports := d.reports.push (d.entries report), files := made }) := rfl
  refine (FailingRun.bind_ok first).trans ?_
  refine (FailingRun.bind_ok copied).trans ?_
  exact FailingRun.bind_ok (complete_push ..)

theorem save_exec_error {o : Origin} {directory : String} {d : Desk} {e : PathFault}
    (fails : d.files.makeDirectories directory.toList = .error e) (report : Ref) :
    (save o directory report).exec d = (.error e.failure, d) :=
  FailingRun.bind_error (Act.changeFiles_error fails)

/-- What a saved report reads as: keys are in order, what the report has stays, and what it lacks is
added. -/
structure Extends (o : Origin) (entries : Entries) (doc : Json) : Prop where
  ordered : doc.Ordered
  values : ∀ k, Option.Rel Json.Same ((lookup k entries).or (o.given k)) (doc.get? k)

theorem parse_written (o : Origin) {entries : Entries}
    (formed : (Json.object entries).WellFormed) (writable : (Json.object entries).Writable) :
    ∃ doc, Text.Utf8.decode (Text.utf8 (String.ofList
          (Json.written ((Json.object (o.extend entries)).sorted.pieces 0)))) =
        Json.indented 0 doc ∧
      Json.parse (String.ofList (Json.indented 0 doc)) = some doc ∧ Extends o entries doc := by
  have extended := o.wellFormed_extend formed
  have whole := (Json.writable_sorted_iff extended).mpr ((o.writable_extend_iff entries).mpr writable)
  refine ⟨(Json.object (o.extend entries)).sorted, ?_, Json.parse_indented_sorted extended,
    Json.ordered_sorted extended, fun k => ?_⟩
  · rw [Text.utf8, Text.Utf8.decode_encode, String.toList_ofList,
      (Json.spells_pieces whole 0).written_eq]
  · rw [← o.lookup_extend]
    have keys : ((o.extend entries).map Prod.fst).Nodup := extended.here.keys
    change Option.Rel Json.Same _ (lookup k (Json.sortEntries (Json.sortedValues _)))
    rw [Json.lookup_sorted keys]
    cases found : lookup k (o.extend entries) with
    | none => exact .none
    | some v => exact .some (Json.same_sorted (extended.values (k, v) (mem_of_lookup found)))

theorem all_pieces_extend_iff (o : Origin) {entries : Entries}
    (formed : (Json.object entries).WellFormed) :
    ((Json.object (o.extend entries)).sorted.pieces 0).all Option.isSome = true ↔
      (Json.object entries).Writable := by
  have extended := o.wellFormed_extend formed
  rw [Json.all_pieces_iff (Json.wellFormed_sorted extended), Json.writable_sorted_iff extended,
    o.writable_extend_iff]

/-- Saving a report changes no report. It succeeds exactly if the files take a file at the path that
the origin gives, and no number of the report has too many digits. The file reads back as the report
with what was missing. -/
theorem save_loses_nothing (o : Origin) (directory : String) (report : Ref) (d : Desk)
    (formed : (Json.object (d.entries report)).WellFormed) :
    let ended := (save o directory report).exec d
    let path := Text.Path.join directory.toList o.fileName.toList
    (∀ r : Ref, r.place < d.reports.size → ended.2.entries r = d.entries r) ∧
      ((∃ s, ended.1 = .ok s) ↔
        (∃ made, d.files.makeDirectories directory.toList = .ok made ∧ made.Takes path) ∧
          (Json.object (d.entries report)).Writable) ∧
      ∀ s, ended.1 = .ok s → s.path.toList = path ∧
        ∃ bytes doc, ended.2.files.read path = .ok bytes ∧
          Text.Utf8.decode bytes = Json.indented 0 doc ∧
          Json.parse (String.ofList (Text.Utf8.decode bytes)) = some doc ∧
          Extends o (d.entries report) doc := by
  dsimp only
  cases makes : d.files.makeDirectories directory.toList with
  | error e =>
    rw [save_exec_error makes]
    refine ⟨fun _ _ => rfl, iff_of_false nofun nofun, nofun⟩
  | ok made =>
    have numbers := all_pieces_extend_iff o formed
    rw [save_exec makes, write_push]
    obtain ⟨takes, files, written, back⟩ | ⟨refuses, e, failed⟩ := made.write_cases
      (Text.Path.join directory.toList o.fileName.toList) (Text.utf8 (String.ofList
        (Json.written ((Json.object (o.extend (d.entries report))).sorted.pieces 0))))
    · simp only [written]
      refine ⟨fun r before => Act.entries_push_of_lt _ _ before _ _, ?_⟩
      by_cases writable : (Json.object (d.entries report)).Writable
      · obtain ⟨doc, text, parsed, extended⟩ := parse_written o formed writable
        rw [if_pos (numbers.mpr writable)]
        refine ⟨iff_of_true ⟨_, rfl⟩ ⟨⟨made, rfl, takes⟩, writable⟩, ?_⟩
        rintro _ ⟨⟩
        exact ⟨String.toList_ofList, _, doc, back, text, text ▸ parsed, extended⟩
      · rw [if_neg (mt numbers.mp writable)]
        exact ⟨iff_of_false nofun fun h => writable h.2, nofun⟩
    · simp only [failed]
      refine ⟨fun r before => Act.entries_push_of_lt _ _ before _ _, iff_of_false nofun ?_, nofun⟩
      rintro ⟨⟨_, ⟨⟩, takes⟩, -⟩
      exact refuses takes

def nested : Entries :=
  [("tool", .object [("\"😀\n", .array [.float (.finite true 7205759403792794 (-56)), .null]),
      ("", .object [])]),
    ("run_id", .int (-7)), ("a", .array [.bool true, .text "\x7fé\\/"])]

theorem wellFormed_nested : (Json.object nested).WellFormed := by
  have number : (Json.float (.finite true 7205759403792794 (-56))).WellFormed :=
    .float ⟨by decide, by decide, by decide, by decide⟩
  refine .object (by decide) ?_
  simp only [nested, List.forall_mem_cons]
  refine ⟨.object (by decide) ?_, .int _, .array ?_, List.forall_mem_nil _⟩
  · simp only [List.forall_mem_cons]
    refine ⟨.array ?_, .object .nil (List.forall_mem_nil _), List.forall_mem_nil _⟩
    simp only [List.forall_mem_cons]
    exact ⟨number, .null, List.forall_mem_nil _⟩
  · simp only [List.forall_mem_cons]
    exact ⟨.bool _, .text _, List.forall_mem_nil _⟩

theorem writable_nested : (Json.object nested).Writable := by
  refine .object nofun ?_
  simp only [nested, List.forall_mem_cons]
  refine ⟨.object nofun ?_, .leaf ?_ rfl rfl, .array nofun ?_, List.forall_mem_nil _⟩
  · simp only [List.forall_mem_cons]
    refine ⟨.array nofun ?_, .object nofun (List.forall_mem_nil _), List.forall_mem_nil _⟩
    simp only [List.forall_mem_cons]
    exact ⟨.leaf nofun rfl rfl, .leaf nofun rfl rfl, List.forall_mem_nil _⟩
  · rintro _ ⟨⟩
    decide
  · simp only [List.forall_mem_cons]
    exact ⟨.leaf nofun rfl rfl, .leaf nofun rfl rfl, List.forall_mem_nil _⟩

theorem save_loses_nothing_nested :
    let ended := (save ⟨"r", "now", some "t"⟩ "out" ⟨0⟩).exec { reports := #[nested] }
    (Json.object nested).WellFormed ∧ ended.2.entries ⟨0⟩ = nested ∧
      ∃ s bytes doc, ended.1 = .ok s ∧ s.path.toList = "out/t-r.json".toList ∧
        ended.2.files.read "out/t-r.json".toList = .ok bytes ∧
        Json.parse (String.ofList (Text.Utf8.decode bytes)) = some doc ∧
        Option.Rel Json.Same (some (.int (-7))) (doc.get? "run_id") := by
  obtain ⟨kept, succeeds, reads⟩ :=
    save_loses_nothing ⟨"r", "now", some "t"⟩ "out" ⟨0⟩ { reports := #[nested] } wellFormed_nested
  obtain ⟨s, saved⟩ := succeeds.mpr ⟨⟨_, rfl, _, rfl, by decide +kernel⟩, writable_nested⟩
  obtain ⟨path, bytes, doc, back, -, parsed, extended⟩ := reads s saved
  exact ⟨wellFormed_nested, kept ⟨0⟩ (by decide), s, bytes, doc, saved, path, back, parsed,
    extended.values "run_id"⟩

end Tool.Report

end ClangIndex
