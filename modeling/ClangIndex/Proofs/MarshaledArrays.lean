import ClangIndex.Proofs.LoadingCalls

namespace ClangIndex

open Native (Call Function Side)
open Text (Bytes)
open Marshal (UnsavedFile)
open Binding (Calls Silent)

/-- An iterator that was gone through has nothing more to give. -/
def World.drained (w : World) : Value → World
  | .iterator id => { w with supplies := w.supplies.set! id [] }
  | _ => w

def World.afterReading (w : World) : Value → World
  | .stream _ id => { w with supplies := w.supplies.set! id [] }
  | _ => w

theorem Binding.outcome_bind_pure {α β : Type} (m : Binding α) (g : α → β) (side : Side)
    (w : World) :
    ((m >>= fun a => pure (g a)).exec side w).1 = (m.exec side w).1.map g := by
  cases e : m.exec side w with
  | mk r v =>
    cases r with
    | ok a => rw [exec_bind_ok e]; rfl
    | error x => rw [exec_bind_error e]; rfl

namespace World

variable {w : World} {id k : Nat} {x : Value} {r : List Value}

theorem set!_empty {a : Array (List Value)} (h : (a[id]?).getD [] = []) : a.set! id [] = a := by
  refine Array.ext_getElem? fun i => ?_
  rw [Array.set!_eq_setIfInBounds, Array.getElem?_setIfInBounds]
  split
  · subst i
    split <;> simp_all
  · rfl

theorem drained_of_empty (h : w.supply id = []) : w.drained (.iterator id) = w := by
  rw [drained, set!_empty h]

theorem supply_give (h : w.supply id = x :: r) :
    ({ w with supplies := w.supplies.set! id r } : World).supply id = r := by
  have inside : id < w.supplies.size := by
    by_contra out
    simp [supply, out] at h
  simp [supply, inside]

theorem supply_give_other (ne : id ≠ k) (xs : List Value) :
    ({ w with supplies := w.supplies.set! id xs } : World).supply k = w.supply k := by
  simp [supply, ne]

@[simp]
theorem dealings_drained (w : World) (v : Value) : (w.drained v).dealings = w.dealings := by
  cases v <;> rfl

theorem drained_give (xs : List Value) :
    ({ w with supplies := w.supplies.set! id xs } : World).drained (.iterator id) =
      w.drained (.iterator id) := by
  simp [drained]

end World

namespace Value

/-- The items of a command line, or of files, that are not there or given one by one. -/
inductive Lists (w : World) : Value → List Value → Prop
  | none : Lists w .none []
  | list (xs : List Value) : Lists w (.list xs) xs
  | tuple (xs : List Value) : Lists w (.tuple xs) xs
  | iterator (id : Nat) : Lists w (.iterator id) (w.supply id)

def isPlain : Value → Bool
  | .handle _ | .iterator _ | .stream .. => false
  | _ => true

def pair (v : Value) : Except Failure (Value × Value) :=
  match v.items? with
  | some [name, contents] => .ok (name, contents)
  | some _ => .error Failure.valueError
  | Option.none => .error Failure.typeError

def IsPair (v : Value) (p : Value × Value) : Prop := v.isPlain = true ∧ v.pair = .ok p

def Apart (v : Value) (pairs : List (Value × Value)) : Prop :=
  ∀ id, v = .iterator id → ∀ p ∈ pairs, ∀ binary, p.2 ≠ .stream binary id

/-- The names and contents of unsaved files, in each shape that files may have. -/
inductive Pairs (w : World) : Value → List (Value × Value) → Prop
  | mapping (es : List (Key × Value)) : Pairs w (.mapping es) (es.map fun e => (e.1.value, e.2))
  | taken (files : List (Bytes × Bytes)) (id : Identity) :
      Pairs w (.object (.unsavedFiles files) id) (files.map fun f => (.bytes f.1, .bytes f.2))
  | listed {v : Value} {items : List Value} {pairs : List (Value × Value)}
      (lists : v.Lists w items) (each : List.Forall₂ IsPair items pairs) (apart : v.Apart pairs) :
      Pairs w v pairs

def readIn (w : World) : Value → Value
  | .stream binary id => joined binary (w.supply id)
  | .fileLike v _ => v
  | v => v

def IsText (v : Value) : Prop := ∃ b, v.toBytes = .ok b

def IsContents (v : Value) : Prop := ∀ w, (v.readIn w).IsText

variable {v contents : Value} {w : World}

theorem Pairs.apart {pairs : List (Value × Value)} (h : v.Pairs w pairs) : v.Apart pairs := by
  cases h with
  | listed _ _ apart => exact apart
  | _ => exact fun _ e => nomatch e

theorem Apart.of_cons {p : Value × Value} {pairs : List (Value × Value)}
    (h : v.Apart (p :: pairs)) : v.Apart [p] ∧ v.Apart pairs :=
  ⟨fun id e q mem => h id e q (List.mem_cons.mpr (.inl (List.mem_singleton.mp mem))),
    fun id e q mem => h id e q (List.mem_cons_of_mem _ mem)⟩

theorem readIn_drained {name : Value} (apart : v.Apart [(name, contents)]) :
    contents.readIn (w.drained v) = contents.readIn w := by
  cases v with
  | iterator id =>
    cases contents with
    | stream binary k =>
      have ne : id ≠ k := fun e => apart id rfl _ List.mem_cons_self binary (e ▸ rfl)
      simp only [readIn, World.drained, World.supply_give_other ne]
    | _ => rfl
  | _ => rfl

theorem afterReading_drained {name : Value} (apart : v.Apart [(name, contents)]) :
    (w.drained v).afterReading contents = (w.afterReading contents).drained v := by
  cases v with
  | iterator id =>
    cases contents with
    | stream binary k =>
      have ne : id ≠ k := fun e => apart id rfl _ List.mem_cons_self binary (e ▸ rfl)
      simp [World.afterReading, World.drained, Array.setIfInBounds_comm _ _ ne]
    | _ => rfl
  | _ => rfl

theorem toBytes_cases (v : Value) :
    (∃ b, v.toBytes = .ok b) ∨ ¬v.IsText ∧ v.toBytes = .error (.notText v.typeName) := by
  unfold IsText
  cases e : v.toBytes with
  | ok b => exact .inl ⟨b, rfl⟩
  | error x =>
    refine .inr ⟨nofun, ?_⟩
    unfold toBytes at e
    split at e <;> cases e
    rfl

theorem isText_joined (binary : Bool) (xs : List Value) : (joined binary xs).IsText := by
  cases binary <;> exact ⟨_, rfl⟩

theorem isContents_of_isText {w : World} (h : (v.readIn w).IsText) : v.IsContents := by
  intro u
  cases v with
  | stream binary id => exact isText_joined _ _
  | _ => exact h

end Value

namespace Supply

variable {β : Type} {f : β → Value → Binding (Progress β)} (step : β → Value → Except Failure β)
  {side : Side}

theorem exec_foldItems
    (steps : ∀ b x w, (f b x).exec side w = ((step b x).map .more, w)) (xs : List Value) (b : β)
    (w : World) : (foldItems f xs b).exec side w = (xs.foldlM step b, w) := by
  induction xs generalizing b with
  | nil => rfl
  | cons x r ih =>
    have first := steps b x w
    cases e : step b x with
    | ok c =>
      rw [e] at first
      rw [foldItems, Binding.exec_bind_ok first, List.foldlM_cons, e]
      exact ih c
    | error c =>
      rw [e] at first
      rw [foldItems, Binding.exec_bind_error first, List.foldlM_cons, e]
      rfl

theorem exec_foldOnce
    (steps : ∀ b x w, (f b x).exec side w = ((step b x).map .more, w)) (id : Nat)
    (xs : List Value) (b : β) (w : World) (h : w.supply id = xs) :
    ∃ u, (foldOnce f id xs b).exec side w = (xs.foldlM step b, u) ∧ u.dealings = w.dealings ∧
      ∀ c, xs.foldlM step b = .ok c → u = w.drained (.iterator id) := by
  induction xs generalizing b w with
  | nil => exact ⟨w, rfl, rfl, fun _ _ => (World.drained_of_empty h).symm⟩
  | cons x r ih =>
    -- The item is gone before it is used, so the others start from what is left then.
    let v : World := { w with supplies := w.supplies.set! id r }
    have given : (foldOnce f id (x :: r) b).exec side w =
        (f b x >>= proceed (foldOnce f id r)).exec side v := rfl
    have first := steps b x v
    rw [given, List.foldlM_cons]
    cases e : step b x with
    | ok c =>
      rw [e] at first
      rw [Binding.exec_bind_ok first]
      obtain ⟨u, done, same, drained⟩ := ih c v (World.supply_give h)
      exact ⟨u, done, same, fun c e => (drained c e).trans (World.drained_give r)⟩
    | error c =>
      rw [e] at first
      exact ⟨v, Binding.exec_bind_error first, rfl, nofun⟩

theorem exec_supply_fold
    (steps : ∀ b x w, (f b x).exec side w = ((step b x).map .more, w)) {v : Value} {w : World}
    {items : List Value} (lists : v.Lists w items) (given : v ≠ .none) (b : β) :
    ∃ u, (do let s ← v.supply; s.fold f b).exec side w = (items.foldlM step b, u) ∧
      u.dealings = w.dealings ∧ ∀ c, items.foldlM step b = .ok c → u = w.drained v := by
  cases lists with
  | none => exact absurd rfl given
  | list => exact ⟨w, exec_foldItems step steps items b w, rfl, fun _ _ => rfl⟩
  | tuple => exact ⟨w, exec_foldItems step steps items b w, rfl, fun _ _ => rfl⟩
  | iterator id => exact exec_foldOnce step steps id _ b w rfl

end Supply

namespace Value

variable {v : Value} {w : World} {items : List Value} {side : Side}

theorem foldlM_toBytes (items : List Value) (taken : List Bytes) :
    (∃ xs, List.Forall₂ (fun x b => toBytes x = .ok b) items xs ∧
      items.foldlM (fun xs x => (toBytes x).map (· :: xs)) taken = .ok (xs.reverse ++ taken)) ∨
    (∃ x ∈ items, ¬x.IsText) ∧ ∃ name,
      items.foldlM (fun xs x => (toBytes x).map (· :: xs)) taken = .error (.notText name) := by
  induction items generalizing taken with
  | nil => exact .inl ⟨[], .nil, rfl⟩
  | cons x r ih =>
    rw [List.foldlM_cons]
    obtain ⟨b, e⟩ | ⟨not, e⟩ := x.toBytes_cases
    · rw [e]
      obtain ⟨xs, each, done⟩ | ⟨⟨y, mem, not⟩, failed⟩ := ih (b :: taken)
      · refine .inl ⟨b :: xs, .cons e each, ?_⟩
        rw [List.reverse_cons, List.append_assoc]
        exact done
      · exact .inr ⟨⟨y, List.mem_cons_of_mem _ mem, not⟩, failed⟩
    · rw [e]
      exact .inr ⟨⟨x, List.mem_cons_self, not⟩, _, rfl⟩

theorem foldlM_cons_ok (items taken : List Value) :
    items.foldlM (fun xs x => (Except.ok (x :: xs) : Except Failure (List Value))) taken =
      .ok (items.reverse ++ taken) := by
  induction items generalizing taken with
  | nil => rfl
  | cons x r ih =>
    rw [List.foldlM_cons, List.reverse_cons, List.append_assoc]
    exact ih (x :: taken)

theorem exec_elements (lists : v.Lists w items) (given : v ≠ .none) :
    v.elements.exec side w = (.ok items, w.drained v) := by
  have hint : v.hintSize = pure () := by
    cases lists <;> rfl
  let gather (xs : List Value) (x : Value) : Binding (Progress (List Value)) :=
    pure (.more (x :: xs))
  have split : v.elements = (do let s ← v.supply; s.fold gather []) >>= fun xs =>
      pure xs.reverse := by
    simp [elements, hint, gather]
  obtain ⟨u, done, -, drained⟩ := Supply.exec_supply_fold (f := gather) (fun xs x => .ok (x :: xs))
    (fun _ _ _ => rfl) lists given []
  rw [foldlM_cons_ok] at done drained
  rw [split, Binding.exec_bind_ok done, drained _ rfl]
  simp

end Value

namespace Marshal

variable {v : Value} {w : World} {items : List Value} {pairs : List (Value × Value)}

theorem exec_argv (lists : v.Lists w items) (side : Side) :
    (∃ xs, List.Forall₂ (fun x b => x.toBytes = .ok b) items xs ∧
      (argv v).exec side w = (.ok xs, w.drained v)) ∨
    (∃ x ∈ items, ¬x.IsText) ∧ ∃ name u,
      (argv v).exec side w = (.error (.notText name), u) ∧ u.dealings = w.dealings := by
  have holds : v.holds = pure v.truthy := by
    cases lists <;> rfl
  cases truthy : v.truthy with
  | false =>
    -- What counts as no has no items, and is not even gone through.
    have none : items = [] ∧ w.drained v = w := by
      cases lists with
      | none => exact ⟨rfl, rfl⟩
      | list | tuple => exact ⟨by simpa [Value.truthy] using truthy, rfl⟩
      | iterator => cases truthy
    rw [none.1, none.2]
    refine .inl ⟨[], .nil, ?_⟩
    rw [argv, holds, truthy]
    rfl
  | true =>
    have given : v ≠ .none := fun e => by
      rw [e] at truthy
      cases truthy
    let take (xs : List Bytes) (x : Value) : Binding (Progress (List Bytes)) := do
      return .more ((← x.toBytes) :: xs)
    have split : argv v = (do let s ← v.supply; s.fold take []) >>= fun xs => pure xs.reverse := by
      simp [argv, holds, truthy, take]
    have steps (xs : List Bytes) (x : Value) (w : World) : (take xs x).exec side w =
        ((x.toBytes.map (· :: xs)).map .more, w) := by
      simp only [take]
      cases x.toBytes <;> rfl
    obtain ⟨u, done, same, drained⟩ := Supply.exec_supply_fold _ steps lists given []
    rw [split]
    obtain ⟨xs, each, e⟩ | ⟨not, name, e⟩ := Value.foldlM_toBytes items []
    · rw [e] at done drained
      rw [Binding.exec_bind_ok done, drained _ rfl]
      exact .inl ⟨xs, each, by simp⟩
    · rw [e] at done
      exact .inr ⟨not, name, u, Binding.exec_bind_error done, same⟩

/-- The files that names and contents make, one for one and in order. A stream is read once. -/
inductive Taken : World → List (Value × Value) → List UnsavedFile → Prop
  | nil (w : World) : Taken w [] []
  | cons {w : World} {name contents : Value} {n c : Bytes} {pairs : List (Value × Value)}
      {files : List UnsavedFile} (named : name.toBytes = .ok n)
      (read : (contents.readIn w).toBytes = .ok c)
      (rest : Taken (w.afterReading contents) pairs files) :
      Taken w ((name, contents) :: pairs) (⟨n, c⟩ :: files)

namespace UnsavedFile

theorem exec_ofPair (name contents : Value) (side : Side) (w : World) :
    (ofPair name contents).exec side w =
      (do return ⟨← name.toBytes, ← (contents.readIn w).toBytes⟩, w.afterReading contents) := by
  have read : (readContents contents).exec side w =
      (.ok (contents.readIn w), w.afterReading contents) := by
    cases contents <;> rfl
  rw [ofPair, Binding.exec_bind_ok read]
  cases name.toBytes with
  | error => rfl
  | ok n => cases (contents.readIn w).toBytes <;> rfl

theorem exec_mapM_ofPair (pairs : List (Value × Value)) (side : Side) (w : World) :
    (∃ files u, Taken w pairs files ∧
      (pairs.mapM fun p => ofPair p.1 p.2).exec side w = (.ok files, u)) ∨
    (∃ p ∈ pairs, ¬(p.1.IsText ∧ p.2.IsContents)) ∧ ∃ name u,
      (pairs.mapM fun p => ofPair p.1 p.2).exec side w = (.error (.notText name), u) := by
  induction pairs generalizing w with
  | nil => exact .inl ⟨[], w, .nil w, rfl⟩
  | cons p r ih =>
    obtain ⟨name, contents⟩ := p
    rw [List.mapM_cons]
    have first := exec_ofPair name contents side w
    obtain ⟨n, named⟩ | ⟨not, refused⟩ := name.toBytes_cases
    · obtain ⟨c, read⟩ | ⟨not, refused⟩ := (contents.readIn w).toBytes_cases
      · rw [named, read] at first
        obtain ⟨files, u, taken, done⟩ | ⟨⟨q, mem, not⟩, name, u, failed⟩ :=
          ih (w.afterReading contents)
        · refine .inl ⟨⟨n, c⟩ :: files, u, .cons named read taken, ?_⟩
          rw [Binding.exec_bind_ok first, Binding.exec_bind_ok done]
          rfl
        · refine .inr ⟨⟨q, List.mem_cons_of_mem _ mem, not⟩, name, u, ?_⟩
          rw [Binding.exec_bind_ok first, Binding.exec_bind_error failed]
      · rw [named, refused] at first
        exact .inr ⟨⟨_, List.mem_cons_self, fun both => not (both.2 w)⟩, _, _,
          Binding.exec_bind_error first⟩
    · rw [refused] at first
      exact .inr ⟨⟨_, List.mem_cons_self, fun both => not both.1⟩, _, _,
        Binding.exec_bind_error first⟩

theorem asPair_of_isPlain {x : Value} (h : x.isPlain = true) : asPair x = liftM x.pair := by
  have supply : x.supply =
      x.items?.elim (throw Failure.typeError) fun xs => pure (.items xs) := by
    unfold Value.supply
    split
    case h_4 => split <;> rename_i e <;> rw [e] <;> rfl
    all_goals cases h
  rw [asPair, supply, Value.pair]
  rcases x.items? with - | (- | ⟨a, - | ⟨b, - | ⟨c, r⟩⟩⟩) <;> rfl

theorem ofItem_of_isPlain {x : Value} (h : x.isPlain = true) :
    ofItem x = (do let p ← x.pair; ofPair p.1 p.2) := by
  rw [ofItem, asPair_of_isPlain h]

theorem silent_ofItem {x : Value} (h : x.isPlain = true) : Silent (ofItem x) := by
  rw [ofItem_of_isPlain h]
  exact (Calls.lift _).bind fun _ => (solitary_ofPair _ _).calls

theorem ofItem_of_isPair {x : Value} {p : Value × Value} (h : x.IsPair p) :
    ofItem x = ofPair p.1 p.2 := by
  rw [ofItem_of_isPlain h.1, h.2]
  rfl

theorem mapM_ofItem (each : List.Forall₂ Value.IsPair items pairs) :
    items.mapM ofItem = pairs.mapM fun p => ofPair p.1 p.2 := by
  induction each with
  | nil => rfl
  | cons first _ ih => rw [List.mapM_cons, List.mapM_cons, ofItem_of_isPair first, ih]

theorem mapM_ofPair_bytes (files : List (Bytes × Bytes)) :
    (files.mapM fun f => ofPair (.bytes f.1) (.bytes f.2)) =
      pure (files.map fun f => ⟨f.1, f.2⟩) :=
  List.mapM_pure

theorem ofValue_of_lists (lists : v.Lists w items) (given : v ≠ .none) :
    ofValue v = v.elements >>= (·.mapM ofItem) := by
  cases lists with
  | none => exact absurd rfl given
  | _ => rfl

theorem exec_ofValue (h : v.Pairs w pairs) (side : Side) :
    (ofValue v).exec side w = (pairs.mapM fun p => ofPair p.1 p.2).exec side (w.drained v) := by
  cases h with
  | mapping es => rw [List.mapM_map]; rfl
  | taken files id =>
    rw [List.mapM_map]
    exact congrArg (fun m => m.exec side w) (mapM_ofPair_bytes files).symm
  | listed lists each =>
    by_cases given : v = .none
    · subst given
      cases lists
      cases each
      rfl
    · rw [ofValue_of_lists lists given, Binding.exec_bind_ok (Value.exec_elements lists given),
        mapM_ofItem each]

theorem exec_mapM_drained (apart : v.Apart pairs) (side : Side) (w : World) :
    ((pairs.mapM fun p => ofPair p.1 p.2).exec side (w.drained v)).1 =
      ((pairs.mapM fun p => ofPair p.1 p.2).exec side w).1 := by
  induction pairs generalizing w with
  | nil => rfl
  | cons p r ih =>
    obtain ⟨first, others⟩ := apart.of_cons
    have here := exec_ofPair p.1 p.2 side w
    have there := exec_ofPair p.1 p.2 side (w.drained v)
    rw [Value.readIn_drained first, Value.afterReading_drained first] at there
    have rest := ih others (w.afterReading p.2)
    rw [List.mapM_cons]
    -- Both runs make the same of the first pair, and draining commutes with reading it.
    generalize (do return ⟨← p.1.toBytes, ← (p.2.readIn w).toBytes⟩ : Except Failure UnsavedFile) =
      made at here there
    cases made with
    | error e => rw [Binding.exec_bind_error here, Binding.exec_bind_error there]
    | ok f =>
      rw [Binding.exec_bind_ok here, Binding.exec_bind_ok there, Binding.outcome_bind_pure,
        Binding.outcome_bind_pure, rest]

theorem outcome_ofValue (h : v.Pairs w pairs) (side : Side) :
    ((ofValue v).exec side w).1 = ((pairs.mapM fun p => ofPair p.1 p.2).exec side w).1 ∧
      ((ofValue v).exec side w).2.dealings = w.dealings := by
  have silent : Silent (pairs.mapM fun p => ofPair p.1 p.2) :=
    .mapM fun _ _ => (solitary_ofPair _ _).calls
  rw [exec_ofValue h, silent.dealings_eq, World.dealings_drained]
  exact ⟨exec_mapM_drained h.apart side w, rfl⟩

theorem exec_mapM_of_failing {α β : Type} {g : α → Binding β} {xs : List α} {x : α} (mem : x ∈ xs)
    (fails : ∀ w, ∃ e u, (g x).exec side w = (.error e, u)) (w : World) :
    ∃ e u, (xs.mapM g).exec side w = (.error e, u) := by
  induction xs generalizing w with
  | nil => cases mem
  | cons y r ih =>
    rw [List.mapM_cons]
    cases first : (g y).exec side w with
    | mk outcome v =>
      cases outcome with
      | error e => exact ⟨e, v, Binding.exec_bind_error first⟩
      | ok b =>
        obtain rfl | mem := List.mem_cons.mp mem
        · obtain ⟨e, u, failed⟩ := fails w
          rw [failed] at first
          cases first
        · obtain ⟨e, u, failed⟩ := ih mem v
          exact ⟨e, u, (Binding.exec_bind_ok first).trans (Binding.exec_bind_error failed)⟩

theorem exec_ofValue_of_malformed (lists : v.Lists w items)
    (plain : ∀ x ∈ items, x.isPlain = true) {x : Value} (mem : x ∈ items)
    (malformed : ∀ p, x.pair ≠ .ok p) (side : Side) :
    ∃ e u, (ofValue v).exec side w = (.error e, u) ∧ u.dealings = w.dealings := by
  have given : v ≠ .none := by
    rintro rfl
    cases lists
    cases mem
  have silent : Silent (items.mapM ofItem) := .mapM fun y m => silent_ofItem (plain y m)
  have fails (w : World) : ∃ e u, (ofItem x).exec side w = (.error e, u) := by
    rw [ofItem_of_isPlain (plain x mem)]
    cases e : x.pair with
    | ok p => exact absurd e (malformed p)
    | error x => exact ⟨x, w, rfl⟩
  obtain ⟨e, u, failed⟩ := exec_mapM_of_failing mem fails (w.drained v)
  have same := silent.dealings_eq side (w.drained v)
  rw [failed, World.dealings_drained] at same
  rw [ofValue_of_lists lists given, Binding.exec_bind_ok (Value.exec_elements lists given)]
  exact ⟨e, u, failed, same⟩

end UnsavedFile

namespace Taken

variable {files : List UnsavedFile}

theorem convertible (h : Taken w pairs files) : ∀ p ∈ pairs, p.1.IsText ∧ p.2.IsContents := by
  induction h with
  | nil => exact List.forall_mem_nil _
  | cons named read _ ih =>
    exact List.forall_mem_cons.mpr ⟨⟨⟨_, named⟩, Value.isContents_of_isText ⟨_, read⟩⟩, ih⟩

end Taken

end Marshal

namespace Loading

open Marshal (Taken)

variable {l : Loading} {w : World} {items : List Value} {pairs : List (Value × Value)}

theorem texts_of_converted {xs : List Bytes}
    (each : List.Forall₂ (fun x b => x.toBytes = .ok b) items xs) : ∀ x ∈ items, x.IsText := by
  induction each with
  | nil => exact List.forall_mem_nil _
  | cons e _ ih => exact List.forall_mem_cons.mpr ⟨⟨_, e⟩, ih⟩

theorem exec_conversions (lists : l.commandLine.Lists w items)
    (files : l.files.Pairs (w.drained l.commandLine) pairs) (side : Side) :
    (∃ xs fs u, List.Forall₂ (fun x b => x.toBytes = .ok b) items xs ∧
      Taken (w.drained l.commandLine) pairs fs ∧
      l.conversions.exec side w = (.ok (xs, fs), u) ∧ u.dealings = w.dealings) ∨
    ((∃ x ∈ items, ¬x.IsText) ∨ ∃ p ∈ pairs, ¬(p.1.IsText ∧ p.2.IsContents)) ∧
      ∃ name u, l.conversions.exec side w = (.error (.notText name), u) ∧
        u.dealings = w.dealings := by
  obtain ⟨xs, each, argv⟩ | ⟨not, name, u, failed, same⟩ := Marshal.exec_argv lists side
  · obtain ⟨outcome, same⟩ := UnsavedFile.outcome_ofValue files side
    rw [World.dealings_drained] at same
    cases e : (UnsavedFile.ofValue l.files).exec side (w.drained l.commandLine) with
    | mk r u =>
      rw [e] at outcome same
      obtain ⟨fs, v, taken, done⟩ | ⟨not, name, v, failed⟩ :=
        UnsavedFile.exec_mapM_ofPair pairs side (w.drained l.commandLine)
      · rw [done] at outcome
        obtain rfl : r = .ok fs := outcome
        exact .inl ⟨xs, fs, u, each, taken,
          (Binding.exec_bind_ok argv).trans (Binding.exec_bind_ok e), same⟩
      · rw [failed] at outcome
        obtain rfl : r = .error (.notText name) := outcome
        exact .inr ⟨.inr not, name, u,
          (Binding.exec_bind_ok argv).trans (Binding.exec_bind_error e), same⟩
  · exact .inr ⟨.inl not, name, u, Binding.exec_bind_error failed, same⟩

theorem exec_conversions_of_malformed {files : List Value} (lists : l.commandLine.Lists w items)
    (given : l.files.Lists (w.drained l.commandLine) files)
    (plain : ∀ x ∈ files, x.isPlain = true) (malformed : ∃ x ∈ files, ∀ p, x.pair ≠ .ok p)
    (side : Side) :
    ∃ e u, l.conversions.exec side w = (.error e, u) ∧ u.dealings = w.dealings := by
  obtain ⟨xs, -, argv⟩ | ⟨-, name, u, failed, same⟩ := Marshal.exec_argv lists side
  · obtain ⟨x, mem, malformed⟩ := malformed
    obtain ⟨e, u, failed, same⟩ :=
      UnsavedFile.exec_ofValue_of_malformed given plain mem malformed side
    rw [World.dealings_drained] at same
    exact ⟨e, u, (Binding.exec_bind_ok argv).trans (Binding.exec_bind_error failed), same⟩
  · exact ⟨_, u, Binding.exec_bind_error failed, same⟩

end Loading

namespace Marshal.UnsavedFile

theorem exec_ofValue_coerce {files kept : Value} {side : Side} {w u : World}
    (h : (coerce files).exec side w = (.ok kept, u)) :
    ∃ fs, (ofValue files).exec side w = (.ok fs, u) ∧
      ∀ v, (ofValue kept).exec side v = (.ok fs, v) := by
  unfold coerce at h
  split at h
  · cases h
    exact ⟨_, rfl, fun _ => rfl⟩
  · obtain ⟨fs, v, taken, made⟩ := Binding.exec_bind_cases h
    cases made
    have back : (fs.map fun f => (f.name, f.contents)).map (fun f => ⟨f.1, f.2⟩) = fs := by
      rw [List.map_map]
      exact List.map_id fs
    refine ⟨fs, taken, fun v => ?_⟩
    rw [ofValue, back]
    rfl

end Marshal.UnsavedFile

namespace Loading

open Marshal (Taken)

/-- What has code loaded makes one call, in which the arrays hold what the command line and the
files were converted to, or it fails; it does not fail when all else fits. The conversions take the
texts and the files one for one and in order, and do so just if all of them can be converted.
Otherwise the operation fails before anything is asked of the native side. Names with contents make
the same files in each shape, and what was taken from files once gives them again. -/
theorem arrays_carry_given (l : Loading) (side : Side) (w : World) :
    (∀ xs fs u, l.conversions.exec side w = (.ok (xs, fs), u) →
      (∃ arguments, l.Carries xs fs arguments ∧
        (l.run.exec side w).2.loadings = ⟨l.function, arguments⟩ :: w.loadings) ∨
      ¬l.Ready u ∧ (l.run.exec side w).2.loadings = w.loadings ∧
        ∃ e, (l.run.exec side w).1 = .error e) ∧
    (∀ e u, l.conversions.exec side w = (.error e, u) →
      l.run.exec side w = (.error e, u) ∧ u.loadings = w.loadings) ∧
    (∀ items pairs, l.commandLine.Lists w items → l.files.Pairs (w.drained l.commandLine) pairs →
      ((∀ x ∈ items, x.IsText) → (∀ p ∈ pairs, p.1.IsText ∧ p.2.IsContents) →
        ∃ xs fs u, List.Forall₂ (fun x b => x.toBytes = .ok b) items xs ∧
          Taken (w.drained l.commandLine) pairs fs ∧
          l.conversions.exec side w = (.ok (xs, fs), u) ∧ u.dealings = w.dealings) ∧
      ((∃ x ∈ items, ¬x.IsText) ∨ (∃ p ∈ pairs, ¬(p.1.IsText ∧ p.2.IsContents)) →
        ∃ name u, l.run.exec side w = (.error (.notText name), u) ∧ u.dealings = w.dealings)) ∧
    (∀ items files, l.commandLine.Lists w items → l.files.Lists (w.drained l.commandLine) files →
      (∀ x ∈ files, x.isPlain = true) → (∃ x ∈ files, ∀ p, x.pair ≠ .ok p) →
      ∃ e u, l.run.exec side w = (.error e, u) ∧ u.dealings = w.dealings) ∧
    (∀ files others pairs, files.Pairs w pairs → others.Pairs w pairs →
      ((UnsavedFile.ofValue files).exec side w).1 =
        ((UnsavedFile.ofValue others).exec side w).1) ∧
    ∀ files kept u, (UnsavedFile.coerce files).exec side w = (.ok kept, u) →
      ∃ fs, (UnsavedFile.ofValue files).exec side w = (.ok fs, u) ∧
        ∀ v, (UnsavedFile.ofValue kept).exec side v = (.ok fs, v) := by
  refine ⟨fun xs fs u => loadings_of_converted, fun e u failed => ⟨exec_run_of_failed failed, ?_⟩,
    fun items pairs lists files => ⟨fun texts parts => ?_, fun not => ?_⟩,
    fun items files lists given plain malformed => ?_, fun files others pairs h k => ?_,
    fun files kept u => UnsavedFile.exec_ofValue_coerce⟩
  · simpa [failed] using l.quiet_conversions.loadings_eq side w
  · obtain done | ⟨not, -⟩ := exec_conversions lists files side
    · exact done
    · obtain ⟨x, mem, not⟩ | ⟨p, mem, not⟩ := not
      · exact absurd (texts x mem) not
      · exact absurd (parts p mem) not
  · obtain ⟨xs, fs, u, each, taken, -, -⟩ | ⟨-, name, u, failed, same⟩ :=
      exec_conversions lists files side
    · obtain ⟨x, mem, not⟩ | ⟨p, mem, not⟩ := not
      · exact absurd (texts_of_converted each x mem) not
      · exact absurd (taken.convertible p mem) not
    · exact ⟨name, u, exec_run_of_failed failed, same⟩
  · obtain ⟨e, u, failed, same⟩ := exec_conversions_of_malformed lists given plain malformed side
    exact ⟨e, u, exec_run_of_failed failed, same⟩
  · rw [(UnsavedFile.outcome_ofValue h side).1, (UnsavedFile.outcome_ofValue k side).1]

def answering : Side where
  answer _ c := match c.function with
    | .createIndex => { result := .handle (some "index") }
    | .parseTranslationUnit => { result := .handle (some "unit") }
    | _ => {}

def twoFiles : Binding Value := do
  let _ ← Index.make (.bool false) (.bool false)
  Value.iteratorOver [
    .tuple [.text "a.h", .bytes [1, 0, 2]], .list [.text "a.h", .fileLike (.text "é") .passing]]

def beforeParsing : World := (twoFiles.exec answering {}).2

def parsing (arguments : Value) : Loading :=
  .parse ⟨.index, 0⟩ (.text "main.c") arguments (.iterator 0) (.int 0)

theorem arrays_carry_given_parsed :
    (∃ arguments, (parsing (.list [.text "-DÄ", .bytes [45, 0, 65]])).Carries
        [[45, 68, 195, 132], [45, 0, 65]]
        [⟨[97, 46, 104], [1, 0, 2]⟩, ⟨[97, 46, 104], [195, 169]⟩] arguments ∧
      ((parsing (.list [.text "-DÄ", .bytes [45, 0, 65]])).run.exec answering
        beforeParsing).2.loadings = [⟨.parseTranslationUnit, arguments⟩] ∧
      ∃ index path options, arguments = [index, path,
        .argv (some [[45, 68, 195, 132], [45]]), .int 2,
        .files (some [([97, 46, 104], [1, 0, 2]), ([97, 46, 104], [195, 169])]), .int 2,
        options]) ∧
    ∃ name u, (parsing (.tuple [.text "-v", .int 1])).run.exec answering beforeParsing =
      (.error (.notText name), u) ∧ u.dealings = beforeParsing.dealings := by
  constructor
  · have all := arrays_carry_given (parsing (.list [.text "-DÄ", .bytes [45, 0, 65]])) answering
      beforeParsing
    have ready : (parsing (.list [.text "-DÄ", .bytes [45, 0, 65]])).Ready
        (beforeParsing.drained (.iterator 0)) :=
      ⟨Handle.obstacle_eq_none.mp rfl, rfl, 0, rfl⟩
    obtain ⟨arguments, carries, made⟩ :=
      (all.1 _ _ (beforeParsing.drained (.iterator 0)) rfl).resolve_right fun stuck => stuck.1 ready
    refine ⟨arguments, carries, made, ?_⟩
    obtain ⟨argv, argc, files, count, ⟨index, path, options, rfl⟩, texts, contents⟩ := carries
    obtain ⟨rfl, rfl⟩ := texts.eq_some (by simp)
    obtain ⟨rfl, rfl⟩ := contents.eq_some (by simp)
    exact ⟨index, path, options, rfl⟩
  · have all := arrays_carry_given (parsing (.tuple [.text "-v", .int 1])) answering beforeParsing
    have pairs : (Value.iterator 0).Pairs beforeParsing
        [(.text "a.h", .bytes [1, 0, 2]), (.text "a.h", .fileLike (.text "é") .passing)] :=
      .listed (.iterator 0) (.cons ⟨rfl, rfl⟩ (.cons ⟨rfl, rfl⟩ .nil)) (by simp [Value.Apart])
    exact (all.2.2.1 _ _ (.tuple _) pairs).2
      (.inl ⟨.int 1, by simp, fun ⟨_, e⟩ => nomatch e⟩)

end Loading

end ClangIndex
