import ClangIndex.Proofs.VisitOrder

namespace ClangIndex

open Native (Script Side)

def Forest.pairs (parent : Symbol) : Forest → List Meeting
  | .nil => []
  | .cons s inside rest => (s, parent) :: (inside.pairs s ++ rest.pairs parent)

namespace Answers

variable {answers : Answers}

theorem preorder_of_recurses (h : ∀ before m, (answers before m).recurses = true) (f : Forest)
    (parent : Symbol) (before : List Meeting) :
    f.preorder answers parent before = f.pairs parent := by
  induction f generalizing parent before with
  | nil => rfl
  | cons s inside rest ihInside ihRest =>
    simp [Forest.preorder, Forest.pairs, h, ihInside, ihRest]

theorem preorder_of_stays (h : ∀ before m, (answers before m).recurses = false) {side : Side}
    {ss : List Symbol} {f : Forest} (u : side.Unfolds ss f) (parent : Symbol)
    (before : List Meeting) : f.preorder answers parent before = ss.map (·, parent) := by
  induction u generalizing before with
  | nil => rfl
  | cons _ _ _ ih => simp [Forest.preorder, h, ih]

end Answers

/-- A visitor that enters whatever it is told of, at any time. -/
def Visitor.AlwaysRecurses (visitor : Visitor Cursor) (side : Side) : Prop :=
  ∀ child parent w, Reply.recurses ((visitor child parent).exec side w).1 = true

namespace World

def listedOne (side : Side) (w : World) (c : Cursor) : World :=
  { w with
    dealings := ⟨c.visitCall, [], none⟩ :: w.dealings
    supplies := w.supplies.push ((side.children c.symbol).map fun s => .cursor ⟨s, c.unit⟩) }

def listed (side : Side) (w : World) (cs : List Cursor) : World := cs.foldl (listedOne side) w

@[simp]
theorem dealings_listed (side : Side) (w : World) (cs : List Cursor) :
    (w.listed side cs).dealings =
      (cs.map fun c => ⟨c.visitCall, [], none⟩).reverse ++ w.dealings := by
  induction cs generalizing w with
  | nil => rfl
  | cons c r ih =>
    rw [listed, List.foldl_cons, ← listed, ih]
    simp [listedOne]

theorem listed_append (side : Side) (w : World) (cs ds : List Cursor) :
    w.listed side (cs ++ ds) = (w.listed side cs).listed side ds := List.foldl_append

def withList (w : World) (xs : List Value) : World := { w with supplies := w.supplies.push xs }

end World

namespace Cursor

variable {side : Side} {c : Cursor} {f : Forest} {w : World}

theorem exec_collect (w : World) (xs : List Value) (c parent : Cursor) :
    (collect w.supplies.size c parent).exec side (w.withList xs) =
      (.ok (.member ⟨.childVisitResult, 1⟩), w.withList (xs ++ [.cursor c])) := by
  have grown : (w.supplies.push xs).modify w.supplies.size (· ++ [Value.cursor c]) =
      w.supplies.push (xs ++ [.cursor c]) := by
    refine Array.ext_getElem? fun i => ?_
    rw [Array.getElem?_modify, Array.getElem?_push, Array.getElem?_push]
    by_cases h : i = w.supplies.size
    · simp [h]
    · simp [h, Ne.symm h]
  rw [World.withList, World.withList, ← grown]
  rfl

theorem after_collect (side : Side) (w : World) (unit : Option Handle) (met : List Meeting)
    (xs : List Value) :
    Visitor.after (collect w.supplies.size) unit side (w.withList xs) met =
      w.withList (xs ++ met.map fun m => .cursor ⟨m.1, unit⟩) := by
  induction met generalizing xs with
  | nil => simp [Visitor.after]
  | cons m r ih =>
    have told : (Visitor.tell (collect w.supplies.size) unit m).exec side (w.withList xs) = _ :=
      exec_collect w xs ⟨m.1, unit⟩ ⟨m.2, unit⟩
    rw [Visitor.after, List.foldl_cons, told, ← Visitor.after, ih, List.map_cons, List.append_assoc,
      List.singleton_append]

theorem exec_children (h : side.Below c.symbol f) (w : World) :
    c.children.exec side w =
      (.ok ((side.children c.symbol).map (⟨·, c.unit⟩)), w.listedOne side c) := by
  have stays (before m) :
      (c.answers side (collect w.supplies.size) (w.withList []) before m).recurses = false := rfl
  have goes (before m) :
      (c.answers side (collect w.supplies.size) (w.withList []) before m).stops = false := rfl
  have met : c.meetings side f (collect w.supplies.size) (w.withList []) =
      (side.children c.symbol).map (·, c.symbol) := by
    rw [meetings, Answers.cut_of_going goes, Answers.preorder_of_stays stays h.unfolds]
  have fine (r) (last : c.lastReply? side f (collect w.supplies.size) (w.withList []) = some r) :
      ∃ n ∈ [0, 1, 2], r.number? = some n := by
    obtain ⟨m, -, rfl⟩ := Option.map_eq_some_iff.mp last
    exact Reply.number_of_goes (goes _ _)
  have visited := exec_visit_of_fine h fine
  have after : c.afterMeetings side f (collect w.supplies.size) (w.withList []) =
      w.listedOne side c := by
    rw [afterMeetings, met]
    have listed := after_collect side (w.afterCall c.visitCall) c.unit
      ((side.children c.symbol).map (·, c.symbol)) []
    simpa [World.listedOne, World.withList, World.afterCall, Function.comp_def] using listed
  rw [after] at visited
  have made : (Binding.keeping fun w =>
      (w.supplies.size, { w with supplies := w.supplies.push [] })).exec side w =
        (.ok w.supplies.size, w.withList []) := rfl
  have kept : (w.listedOne side c).supply w.supplies.size =
      (side.children c.symbol).map fun s => .cursor ⟨s, c.unit⟩ := by
    simp [World.supply, World.listedOne]
  have now : World.now.exec side (w.listedOne side c) =
    (.ok (w.listedOne side c), w.listedOne side c) := rfl
  rw [children, Binding.exec_bind_ok made, Binding.exec_bind_ok visited, Binding.exec_bind_ok now,
    kept, Binding.exec_pure, List.filterMap_map]
  simp [ofValue?, Function.comp_def]

theorem exec_mapM_preorder {ss : List Symbol} (u : side.Unfolds ss f) {depth : Nat}
    (nests : f.height ≤ depth) (room : depth ≤ side.depth) (unit : Option Handle)
    (parent : Symbol) (w : World) :
    ∃ lists : List (List Cursor),
      lists.flatten = (f.pairs parent).map (fun m => ⟨m.1, unit⟩) ∧
        ((ss.map fun s => (⟨s, unit⟩ : Cursor)).mapM (preorder depth)).exec side w =
          (.ok lists, w.listed side lists.flatten) := by
  induction u generalizing depth parent w with
  | nil => exact ⟨[], rfl, rfl⟩
  | @cons s r inside rest below others ihBelow ihOthers =>
    simp only [Forest.height, Nat.max_le] at nests
    obtain ⟨deep, wide⟩ := nests
    obtain ⟨depth, rfl⟩ : ∃ d, depth = d + 1 := ⟨depth - 1, by omega⟩
    have held : side.Below s inside := ⟨below, by omega⟩
    have listed : (children ⟨s, unit⟩).exec side w = _ := exec_children held w
    obtain ⟨lists, within, walked⟩ := ihBelow (Nat.le_of_succ_le_succ deep) (by omega) s
      (w.listedOne side ⟨s, unit⟩)
    have first : (preorder (depth + 1) ⟨s, unit⟩).exec side w =
        (.ok (⟨s, unit⟩ :: lists.flatten), w.listed side (⟨s, unit⟩ :: lists.flatten)) := by
      rw [preorder, Binding.exec_bind_ok listed, Binding.exec_bind_ok walked]
      rfl
    obtain ⟨next, aside, others⟩ := ihOthers wide room parent
      (w.listed side (⟨s, unit⟩ :: lists.flatten))
    refine ⟨(⟨s, unit⟩ :: lists.flatten) :: next, ?_, ?_⟩
    · rw [List.flatten_cons, within, aside]
      simp [Forest.pairs]
    · rw [List.map_cons, List.mapM_cons, Binding.exec_bind_ok first, Binding.exec_bind_ok others,
        List.flatten_cons, World.listed_append, Binding.exec_pure]

theorem exec_walk (h : side.Below c.symbol f) (w : World) :
    c.walk.exec side w =
      (.ok (c :: (f.pairs c.symbol).map fun m => ⟨m.1, c.unit⟩),
        w.listed side (c :: (f.pairs c.symbol).map fun m => ⟨m.1, c.unit⟩)) := by
  obtain ⟨depth, deep⟩ : ∃ d, side.depth = d + 1 := ⟨side.depth - 1, by have := h.nests; omega⟩
  have nests := h.nests
  have read : (MonadReaderOf.read : Binding Side).exec side w = (.ok side, w) := rfl
  obtain ⟨lists, within, walked⟩ := exec_mapM_preorder h.unfolds
    (show f.height ≤ depth by omega) (by omega) c.unit c.symbol (w.listedOne side c)
  rw [walk]
  refine (Binding.exec_bind_ok read).trans ?_
  rw [deep, preorder, Binding.exec_bind_ok (exec_children h w), Binding.exec_bind_ok walked,
    ← within]
  rfl

def gather (list : Nat) : Visitor Cursor := fun child parent => do
  let _ ← collect list child parent
  return .member ⟨.childVisitResult, 2⟩

theorem after_gather (side : Side) (w : World) (unit : Option Handle) (met : List Meeting)
    (xs : List Value) :
    Visitor.after (gather w.supplies.size) unit side (w.withList xs) met =
      w.withList (xs ++ met.map fun m => .cursor ⟨m.1, unit⟩) :=
  after_collect side w unit met xs

theorem meetings_of_recurses {visitor : Visitor Cursor} (h : visitor.AlwaysRecurses side)
    (w : World) : c.meetings side f visitor w = f.pairs c.symbol := by
  have enters (before m) : (c.answers side visitor w before m).recurses = true := h _ _ _
  have goes (before m) : (c.answers side visitor w before m).stops = false :=
    Reply.stops_of_recurses (enters before m)
  rw [meetings, Answers.cut_of_going goes, Answers.preorder_of_recurses enters]

theorem exec_visit_of_recurses (h : side.Below c.symbol f) {visitor : Visitor Cursor}
    (enters : visitor.AlwaysRecurses side) (w : World) :
    (c.visit visitor).exec side w =
      (.ok (c.visitReport side f visitor w != 0), c.afterMeetings side f visitor w) := by
  refine exec_visit_of_fine h fun r last => ?_
  obtain ⟨m, -, rfl⟩ := Option.map_eq_some_iff.mp last
  exact Reply.number_of_goes (Reply.stops_of_recurses (enters _ _ _))

def reached (c : Cursor) (side : Side) (f : Forest) (visitor : Visitor Cursor) (w : World) :
    List Cursor :=
  c :: (c.meetings side f visitor w).map fun m => ⟨m.1, c.unit⟩

/-- What a walk has in common with a visit that enters everything. -/
structure WalkAgrees (c : Cursor) (side : Side) (f : Forest) : Prop where
  visits : ∀ visitor : Visitor Cursor, visitor.AlwaysRecurses side → ∀ w,
    ∃ b, (c.visit visitor).exec side w = (.ok b, c.afterMeetings side f visitor w)
  walks : ∀ visitor : Visitor Cursor, visitor.AlwaysRecurses side → ∀ v w,
    c.walk.exec side w =
      (.ok (c.reached side f visitor v), w.listed side (c.reached side f visitor v))
  calls : ∀ w, ∃ yielded v, c.walk.exec side w = (.ok yielded, v) ∧
    v.dealings = (yielded.map fun d => ⟨d.visitCall, [], none⟩).reverse ++ w.dealings ∧
    ∀ d ∈ yielded, d.unit = c.unit ∧ ∀ u, d.children.exec side u =
      (.ok ((side.children d.symbol).map (⟨·, d.unit⟩)), u.listedOne side d)
  gathers : ∀ w, ∃ b v u,
    (c.visit (gather w.supplies.size)).exec side (w.withList []) = (.ok b, v) ∧
    v.dealings = ⟨c.visitCall, [], none⟩ :: w.dealings ∧
    c.walk.exec side w = (.ok (c :: (v.supply w.supplies.size).filterMap ofValue?), u)

theorem below_of_mem_pairs {ss : List Symbol} (u : side.Unfolds ss f)
    (nests : f.height < side.depth) {parent : Symbol} {m : Meeting} (h : m ∈ f.pairs parent) :
    ∃ g, side.Below m.1 g := by
  induction u generalizing parent with
  | nil => cases h
  | @cons s r inside rest below others ihBelow ihOthers =>
    simp only [Forest.height, Nat.max_lt] at nests
    rw [Forest.pairs, List.mem_cons, List.mem_append] at h
    obtain rfl | deeper | aside := h
    · exact ⟨inside, below, by omega⟩
    · exact ihBelow (by omega) deeper
    · exact ihOthers nests.2 aside

theorem walkAgrees_of_below (h : side.Below c.symbol f) : c.WalkAgrees side f where
  visits visitor enters w := ⟨_, exec_visit_of_recurses h enters w⟩
  walks visitor enters v w := by
    rw [reached, meetings_of_recurses enters]
    exact exec_walk h w
  calls w := by
    refine ⟨_, _, exec_walk h w, World.dealings_listed side w _, fun d m => ?_⟩
    obtain rfl | inside := List.mem_cons.mp m
    · exact ⟨rfl, exec_children h⟩
    · obtain ⟨meeting, among, rfl⟩ := List.mem_map.mp inside
      obtain ⟨g, held⟩ := below_of_mem_pairs h.unfolds h.nests among
      exact ⟨rfl, exec_children held⟩
  gathers w := by
    have enters : (gather w.supplies.size).AlwaysRecurses side := fun _ _ _ => rfl
    have visited := exec_visit_of_recurses h enters (w.withList [])
    have after : c.afterMeetings side f (gather w.supplies.size) (w.withList []) =
        (w.afterCall c.visitCall).withList
          ((f.pairs c.symbol).map fun m => .cursor ⟨m.1, c.unit⟩) := by
      rw [afterMeetings, meetings_of_recurses enters]
      exact after_gather side (w.afterCall c.visitCall) c.unit (f.pairs c.symbol) []
    rw [after] at visited
    have kept : (((w.afterCall c.visitCall).withList
        ((f.pairs c.symbol).map fun m => .cursor ⟨m.1, c.unit⟩)).supply
          w.supplies.size).filterMap ofValue? = (f.pairs c.symbol).map fun m => ⟨m.1, c.unit⟩ := by
      simp [World.supply, World.withList, World.afterCall, ofValue?, List.filterMap_map,
        Function.comp_def]
    have walked := exec_walk h w
    rw [← kept] at walked
    exact ⟨_, _, _, visited, rfl, walked⟩

/-- A walk yields the cursor itself and then what a visit that always enters is told, in that order
and of the same unit, with one native call for the children of each. -/
theorem walk_agrees_with_visit :
    (∀ (side : Side) (c : Cursor) (f : Forest), side.Below c.symbol f → c.WalkAgrees side f) ∧
    ∀ (script : Script) (c : Cursor) (f : Forest),
      script.toSide.Unfolds (script.toSide.children c.symbol) f → c.WalkAgrees script.toSide f :=
  ⟨fun _ _ _ => walkAgrees_of_below,
    fun _ _ _ h => walkAgrees_of_below (Script.below_of_unfolds h)⟩

def shared : Script where
  children := [("root", .array [.text "a", .text "b", .text "a"]), ("a", .array [.text "c"])]

def sharedForest : Forest :=
  .cons "a" (.cons "c" .nil .nil) (.cons "b" .nil (.cons "a" (.cons "c" .nil .nil) .nil))

theorem walk_agrees_with_visit_shared :
    ∃ u, (walk ⟨"root", none⟩).exec shared.toSide {} =
      (.ok [⟨"root", none⟩, ⟨"a", none⟩, ⟨"c", none⟩, ⟨"b", none⟩, ⟨"a", none⟩, ⟨"c", none⟩], u) ∧
      u.dealings.length = 6 := by
  have unfolds : shared.toSide.Unfolds (shared.toSide.children "root") sharedForest :=
    .cons (.cons .nil .nil) (.cons .nil (.cons (.cons .nil .nil) .nil))
  have agrees := walk_agrees_with_visit.2 shared ⟨"root", none⟩ sharedForest unfolds
  have enters : Visitor.AlwaysRecurses (fun _ _ => return .int 2) shared.toSide :=
    fun _ _ _ => rfl
  have walked := agrees.walks _ enters {} {}
  exact ⟨_, walked, by rw [World.dealings_listed]; rfl⟩

end Cursor

end ClangIndex
