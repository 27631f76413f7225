import ClangIndex.Proofs.LiveSequences

namespace ClangIndex

open Native (Argument Call Function Side)

namespace CodeCompleteResults

section

variable {α : Type} {order : List Nat} {items : List α}

theorem getElem?_reorder (perm : order.Perm (List.range items.length)) (i : Nat) :
    (reorder order items)[i]? = order[i]?.bind fun j => items[j]? := by
  have size : order.length = items.length := by simpa using perm.length_eq
  cases there : items[i]? with
  | none =>
    have beyond : items.length ≤ i := List.getElem?_eq_none_iff.mp there
    simp [reorder, beyond, size]
  | some x =>
    obtain ⟨lt, -⟩ := List.getElem?_eq_some_iff.mp there
    have chosen : order[i] ∈ List.range items.length := perm.subset (List.getElem_mem _)
    have inside : order[i] < items.length := List.mem_range.mp chosen
    have given : order[i]? = some order[i] := List.getElem?_eq_getElem (by omega)
    simp [reorder, there, given, inside]

theorem map_some_reorder (perm : order.Perm (List.range items.length)) :
    (reorder order items).map some = order.map fun j => items[j]? := by
  have size : order.length = items.length := by simpa using perm.length_eq
  apply List.ext_getElem?
  intro i
  rw [List.getElem?_map, List.getElem?_map, getElem?_reorder perm]
  cases given : order[i]? with
  | none => rfl
  | some j =>
    have chosen : j < items.length := List.mem_range.mp (perm.subset (List.mem_of_getElem? given))
    simp [chosen]

theorem reorder_eq (perm : order.Perm (List.range items.length)) :
    reorder order items = order.filterMap fun j => items[j]? := by
  have same := congrArg (List.filterMap id) (map_some_reorder perm)
  simpa [List.filterMap_map] using same

theorem reorder_range (items : List α) : reorder (List.range items.length) items = items := by
  apply List.ext_getElem?
  intro i
  rw [getElem?_reorder (List.Perm.refl _)]
  by_cases lt : i < items.length <;> simp [lt]

theorem reorder_perm (perm : order.Perm (List.range items.length)) :
    (reorder order items).Perm items := by
  rw [reorder_eq perm]
  refine (perm.filterMap _).trans (.of_eq ?_)
  rw [← reorder_eq (List.Perm.refl _), reorder_range]

end

def pairs (w : World) (a : Symbol) : List (Int × Option Symbol) := (lookup a w.completions).getD []

def pair? (w : World) : Value → Option (Int × Option Symbol)
  | .object (.completionResult a i) _ => some (CompletionResult.entry w a i)
  | _ => none

theorem entry_eq (w : World) (a : Symbol) (i : Nat) :
    CompletionResult.entry w a i = (pairs w a)[i]?.getD (0, none) := by
  rw [CompletionResult.entry, pairs]
  cases lookup a w.completions <;> rfl

section

variable {h : Handle} {a : Symbol} {w : World}

theorem exec_accesses (cls : h.cls = .codeCompleteResults) (array : array? w h = some a)
    (side : Side) :
    let shown (i : Nat) : Value := .object (.completionResult a i)
    let n := (pairs w a).length
    h.size.exec side w = (.ok n, w) ∧
      (∀ i < n, (h.item (.int i)).exec side w = (.ok (shown i), w)) ∧
      ∀ m ∈ h.listings, m.exec side w = (.ok ((List.range n).map shown), w) := by
  intro shown n
  have now : World.now.exec side w = (.ok w, w) := rfl
  have sized : (size h).exec side w = (.ok n, w) := by
    rw [size, Binding.exec_bind_ok now, array]
    rfl
  have measured : h.size.exec side w = (.ok n, w) := by
    simp only [Handle.size, cls]
    exact sized
  have listed : (results h).exec side w = (.ok ((List.range n).map shown), w) := by
    rw [results, Binding.exec_bind_ok now, array]
    exact Binding.exec_bind_ok sized
  have sequence : h.cls.isSequence = true := by rw [cls]; rfl
  refine ⟨measured, fun i lt => ?_, fun m mem => ?_⟩
  · have found : (h.itemAt i).exec side w = (.ok (shown i), w) := by
      rw [Handle.itemAt, Binding.exec_bind_ok now]
      simp only [cls, array]
      rfl
    rw [Handle.item_eq_take sequence, Value.ensureWithin_of_nonneg _ (Int.natCast_nonneg i),
      bind_assoc, Binding.exec_bind_ok measured, if_neg (by omega)]
    simp only [Handle.take, cls]
    exact found
  · simp only [Handle.listings, cls, List.mem_cons, List.not_mem_nil, or_false] at mem
    obtain rfl | rfl := mem
    · exact Handle.exec_elements_of_results cls listed
    · exact listed

theorem map_pair? (w : World) (a : Symbol) :
    ((List.range (pairs w a).length).map fun i => .object (.completionResult a i)).map (pair? w) =
      (pairs w a).map some := by
  apply List.ext_getElem?
  intro i
  by_cases lt : i < (pairs w a).length
  · simp [lt, pair?, entry_eq]
  · simp [lt]

end

section

variable {h : Handle} {a : Symbol} {w : World}

def sortCall (w : World) (a : Symbol) : Call :=
  ⟨.sortCodeCompletionResults, [.handle (some a), .int (pairs w a).length]⟩

/-- The order that the native side chooses. Where it gives none, all stays in its place. -/
def chosen (side : Side) (w : World) (a : Symbol) : List Nat :=
  (side.answer w.calls (sortCall w a)).order.getD (List.range (pairs w a).length)

/-- What a sorting changes. -/
structure Sorts (order : List Nat) (a : Symbol) (w v : World) : Prop where
  calls : v.calls = sortCall w a :: w.calls
  held : ∀ k, v.held? k = w.held? k
  others : ∀ b, b ≠ a → lookup b v.completions = lookup b w.completions
  reordered : pairs v a = reorder order (pairs w a)

theorem exec_changeArray (a : Symbol) (order : List Nat) (side : Side) (w : World) :
    ∃ v, (changeArray a (reorder order)).exec side w = (.ok (), v) ∧ v.calls = w.calls ∧
      (∀ k, v.held? k = w.held? k) ∧
      (∀ b, b ≠ a → lookup b v.completions = lookup b w.completions) ∧
      pairs v a = reorder order (pairs w a) := by
  simp only [changeArray, Binding.update, Binding.keeping, Binding.exec]
  cases stands : lookup a w.completions with
  | none => exact ⟨w, rfl, rfl, fun _ => rfl, fun _ _ => rfl, by simp [pairs, stands, reorder]⟩
  | some items =>
    exact ⟨_, rfl, rfl, fun _ => rfl, fun b other => lookup_assign_other other _ _,
      by simp [pairs, stands, lookup_assign_self]⟩

theorem exec_sort (cls : h.cls = .codeCompleteResults) (array : array? w h = some a)
    (side : Side) :
    ∃ v, (sort h).exec side w = (.ok (), v) ∧ Sorts (chosen side w a) a w v := by
  have now : World.now.exec side w = (.ok w, w) := rfl
  have sized : (size h).exec side w = (.ok (pairs w a).length, w) := by
    rw [size, Binding.exec_bind_ok now, array]
    rfl
  have live : w.isDisposed h = false := by
    obtain ⟨t, symbol, -⟩ := Option.map_eq_some_iff.mp array
    obtain ⟨x, held, -⟩ := Option.bind_eq_some_iff.mp symbol
    simp [World.isDisposed, held]
  have clear : h.obstacle w = none :=
    Handle.obstacle_eq_none.mpr (Handle.usable_of_live live (by simp [cls]))
  let passed : List Actual := [.native (.handle (some a)), .native (.int (pairs w a).length)]
  let u : World := { w with
    dealings := Actual.dealing w (sortCall w a) (some h) passed :: w.dealings }
  have asked : (Function.sortCodeCompletionResults.invokeOn h passed).exec side w =
      (.ok (sortCall w a, side.answer w.calls (sortCall w a)), u) := by
    simp only [Binding.exec, Function.invokeOn, clear]
    rfl
  rw [sort, Binding.exec_bind_ok now, array]
  simp only
  rw [Binding.exec_bind_ok sized, Binding.exec_bind_ok asked]
  simp only [chosen]
  cases (side.answer w.calls (sortCall w a)).order with
  | none =>
    refine ⟨u, rfl, rfl, fun _ => rfl, fun _ _ => rfl, ?_⟩
    rw [Option.getD_none, reorder_range]
    rfl
  | some order =>
    obtain ⟨v, changed, calls, held, others, pairs⟩ := exec_changeArray a order side u
    exact ⟨v, changed, calls, held, others, pairs⟩

end

def stringAt (w : World) (a : Symbol) (i : Nat) : Option Symbol := (pairs w a)[i]?.bind (·.2)

theorem symbolOf_place (w : World) (a : Symbol) (i : Nat) :
    w.symbolOf (.place a i) = stringAt w a i := by
  rw [stringAt, pairs, World.symbolOf]
  cases lookup a w.completions <;> rfl

theorem symbol?_place {w : World} {k : Handle} {a : Symbol} {i : Nat}
    (place : w.held? k = some (.place a i)) : w.symbol? k = stringAt w a i := by
  rw [World.symbol?, place, Option.bind_some, symbolOf_place]

namespace Sorts

variable {order : List Nat} {a : Symbol} {w v : World}

theorem stringAt_eq (sorts : Sorts order a w v)
    (perm : order.Perm (List.range (pairs w a).length)) (j : Nat) :
    stringAt v a j = order[j]?.bind (stringAt w a) := by
  rw [stringAt, sorts.reordered, getElem?_reorder perm, Option.bind_assoc]
  rfl

theorem array?_eq {h : Handle} {s : Symbol} (sorts : Sorts order a w v)
    (held : w.held? h = some (.handle (some s))) :
    CodeCompleteResults.array? v h = some (arrayOf s) := by
  rw [CodeCompleteResults.array?, sorts.held, held]
  rfl

theorem symbol?_eq (sorts : Sorts order a w v)
    (perm : order.Perm (List.range (pairs w a).length)) (k : Handle) :
    v.symbol? k = match w.held? k with
      | some (.place b j) => if b = a then order[j]?.bind (stringAt w a) else w.symbol? k
      | _ => w.symbol? k := by
  rw [World.symbol?, World.symbol?, sorts.held]
  cases w.held? k with
  | none => rfl
  | some x =>
    cases x with
    | handle t => rfl
    | place b j =>
      by_cases same : b = a
      · subst same
        simp [symbolOf_place, sorts.stringAt_eq perm]
      · have unchanged : pairs v b = pairs w b := by rw [pairs, pairs, sorts.others b same]
        simp [symbolOf_place, same, stringAt, unchanged]

theorem symbol?_elsewhere (sorts : Sorts order a w v)
    (perm : order.Perm (List.range (pairs w a).length)) {k : Handle}
    (elsewhere : ∀ j < (pairs w a).length, w.held? k ≠ some (.place a j)) :
    v.symbol? k = w.symbol? k := by
  have size : order.length = (pairs w a).length := by simpa using perm.length_eq
  rw [sorts.symbol?_eq perm]
  cases held : w.held? k with
  | none => rfl
  | some x =>
    cases x with
    | handle t => rfl
    | place b j =>
      by_cases same : b = a
      · subst same
        have beyond : (pairs w b).length ≤ j := Nat.le_of_not_lt fun lt => elsewhere j lt held
        rw [symbol?_place held, stringAt, List.getElem?_eq_none beyond]
        simp [size, beyond]
      · simp [same]

end Sorts

/-- Sorting by any permutation keeps the length of a result set and reorders its pairs, and its
accesses go on to agree. A completion string that was taken before goes on to denote the same native
string exactly if the one that came to its place is the same; strings of other origin always do. -/
theorem sort_keeps_iff {h : Handle} {s : Symbol} {w : World} (side : Side)
    (cls : h.cls = .codeCompleteResults) (held : w.held? h = some (.handle (some s)))
    (perm : (chosen side w (arrayOf s)).Perm (List.range (pairs w (arrayOf s)).length)) :
    let a := arrayOf s
    let n := (pairs w a).length
    let order := chosen side w a
    ∃ v, (sort h).exec side w = (.ok (), v) ∧ v.calls = sortCall w a :: w.calls ∧
      (pairs v a = order.filterMap fun j => (pairs w a)[j]?) ∧ (pairs v a).Perm (pairs w a) ∧
      (∀ u ∈ [w, v], h.size.exec side u = (.ok n, u) ∧
        (∀ i < n, ∃ x, (h.item (.int i)).exec side u = (.ok x, u) ∧ pair? u x = (pairs u a)[i]?) ∧
        ∀ m ∈ h.listings, ∃ xs, m.exec side u = (.ok xs, u) ∧
          xs.map (pair? u) = (pairs u a).map some) ∧
      (∀ k i j, w.held? k = some (.place a j) → order[j]? = some i →
        v.symbol? k = stringAt w a i ∧
          (v.symbol? k = w.symbol? k ↔ stringAt w a i = stringAt w a j)) ∧
      ∀ k, (∀ j < n, w.held? k ≠ some (.place a j)) → v.symbol? k = w.symbol? k := by
  intro a n order
  have array : array? w h = some a := by
    rw [array?, held]
    rfl
  obtain ⟨v, sorted, sorts⟩ := exec_sort cls array side
  have reordered : (pairs v a).Perm (pairs w a) := sorts.reordered ▸ reorder_perm perm
  refine ⟨v, sorted, sorts.calls, sorts.reordered.trans (reorder_eq perm), reordered, ?_, ?_, ?_⟩
  · intro u mem
    have there : array? u h = some a ∧ (pairs u a).length = n := by
      obtain rfl | rfl : u = w ∨ u = v := by simpa using mem
      · exact ⟨array, rfl⟩
      · exact ⟨sorts.array?_eq held, reordered.length_eq⟩
    obtain ⟨size, item, lists⟩ := exec_accesses cls there.1 side
    refine ⟨there.2 ▸ size, fun i lt => ⟨_, item i (there.2 ▸ lt), ?_⟩, fun m mem =>
      ⟨_, lists m mem, map_pair? u a⟩⟩
    have inside : i < (pairs u a).length := there.2 ▸ lt
    simp [pair?, entry_eq, inside]
  · intro k i j place given
    have after : v.symbol? k = stringAt w a i := by
      have chosen : (chosen side w a)[j]? = some i := given
      simp [sorts.symbol?_eq perm, place, chosen]
    exact ⟨after, by rw [after, symbol?_place place]⟩
  · exact fun k elsewhere => sorts.symbol?_elsewhere perm elsewhere

end CodeCompleteResults

namespace Session

open CodeCompleteResults

def exchanging : Side where
  answer _ c := match c.function with
    | .codeCompleteAt =>
      { result := .handle (some "r"), completions := [(1, some "s0"), (2, some "s1")] }
    | .sortCodeCompletionResults => { order := some [1, 0] }
    | _ => {}

def firstTaken : List Step := [
  .mk (.value (.handle (.unit true) (some "u"))) (some "unit"),
  .mk (.call "complete_at" (.register "unit")
    [.plain (.text "a.c"), .plain (.int 1), .plain (.int 1)] []) (some "results"),
  .mk (.item (.register "results") (.plain (.int 0))) (some "first"),
  .mk (.read "completion_string" (.register "first")) (some "string")]

def taken : World := (run exchanging firstTaken).2

theorem sort_keeps_iff_exchanging :
    ∃ v, (sort ⟨.codeCompleteResults, 1⟩).exec exchanging taken = (.ok (), v) ∧
      pairs v "r.results" = [(2, some "s1"), (1, some "s0")] ∧
      v.symbol? ⟨.completionString, 2⟩ ≠ taken.symbol? ⟨.completionString, 2⟩ := by
  have held : taken.held? ⟨.codeCompleteResults, 1⟩ = some (.handle (some "r")) := by
    decide +kernel
  obtain ⟨v, sorted, -, reordered, -, -, moved, -⟩ :=
    sort_keeps_iff exchanging rfl held (by decide +kernel)
  refine ⟨v, sorted, reordered.trans (by decide +kernel), ?_⟩
  have denotes := (moved ⟨.completionString, 2⟩ 1 0 (by decide +kernel) (by decide +kernel)).2
  rw [Ne, denotes]
  decide +kernel

theorem sorted_string_changes :
    let sorted := run exchanging (firstTaken ++
      [.mk (.call "sort" (.register "results") [] []) none])
    taken.symbol? ⟨.completionString, 2⟩ = some "s0" ∧
      sorted.2.isDisposed ⟨.codeCompleteResults, 1⟩ = false ∧
      sorted.2.symbol? ⟨.completionString, 2⟩ = some "s1" := by
  decide +kernel

end Session

end ClangIndex
