import ClangIndex.Proofs.WrittenNumbers

namespace ClangIndex

section

variable {α : Type} {k : String} {v : α} {es : List (String × α)}

theorem lookup_isSome : (lookup k es).isSome ↔ k ∈ es.map Prod.fst := by
  induction es with
  | nil => simp [lookup]
  | cons e r ih =>
    obtain ⟨k', v'⟩ := e
    by_cases here : k' = k
    · simp [lookup, here]
    · simp [lookup, here, ih, Ne.symm here]

theorem lookup_eq_none : lookup k es = none ↔ k ∉ es.map Prod.fst := by
  rw [← lookup_isSome, Bool.not_eq_true, Option.isSome_eq_false_iff, Option.isNone_iff_eq_none]

theorem lookup_of_mem (keys : (es.map Prod.fst).Nodup) (mem : (k, v) ∈ es) :
    lookup k es = some v := by
  induction es with
  | nil => cases mem
  | cons e r ih =>
    obtain ⟨k', v'⟩ := e
    rw [List.map_cons, List.nodup_cons] at keys
    rcases List.mem_cons.mp mem with same | mem
    · cases same
      simp [lookup]
    · have other : k' ≠ k := by
        rintro rfl
        exact keys.1 (List.mem_map.mpr ⟨_, mem, rfl⟩)
      rw [lookup, if_neg other, ih keys.2 mem]

theorem lookup_iff_mem (keys : (es.map Prod.fst).Nodup) : lookup k es = some v ↔ (k, v) ∈ es :=
  ⟨mem_of_lookup, lookup_of_mem keys⟩

theorem lookup_perm {fs : List (String × α)} (keys : (es.map Prod.fst).Nodup) (h : es.Perm fs)
    (k : String) : lookup k fs = lookup k es := by
  have keys' : (fs.map Prod.fst).Nodup := (h.map Prod.fst).nodup_iff.mp keys
  ext v
  rw [lookup_iff_mem keys', lookup_iff_mem keys, h.mem_iff]

theorem lookup_append (fs : List (String × α)) :
    lookup k (es ++ fs) = (lookup k es).or (lookup k fs) := by
  induction es with
  | nil => rfl
  | cons e r ih =>
    obtain ⟨k', v'⟩ := e
    by_cases here : k' = k <;> simp [lookup, here, ih]

theorem lookup_assignDefault (k' : String) (v : α) :
    lookup k (assignDefault k' v es) = (lookup k es).or (if k' = k then some v else none) := by
  unfold assignDefault
  split
  case h_1 found =>
    by_cases here : k' = k
    · subst here
      rw [found, Option.some_or]
    · rw [if_neg here, Option.or_none]
  case h_2 =>
    rw [lookup_append]
    rfl

theorem keys_assignDefault (keys : (es.map Prod.fst).Nodup) (k : String) (v : α) :
    ((assignDefault k v es).map Prod.fst).Nodup := by
  unfold assignDefault
  split
  case h_1 => exact keys
  case h_2 missing =>
    rw [List.map_append, List.map_singleton, List.nodup_append_comm]
    exact List.nodup_cons.mpr ⟨lookup_eq_none.mp missing, keys⟩

end

namespace Json

inductive Everywhere (p : Json → Prop) : Json → Prop
  | intro {v : Json} (here : p v) (items : ∀ x ∈ v.items, Everywhere p x)
    (values : ∀ e ∈ v.entries, Everywhere p e.2) : Everywhere p v

namespace Everywhere

variable {p : Json → Prop} {v : Json}

theorem here (h : v.Everywhere p) : p v := by
  cases h
  assumption

theorem values (h : v.Everywhere p) : ∀ e ∈ v.entries, e.2.Everywhere p := by
  cases h
  assumption

theorem items (h : v.Everywhere p) : ∀ x ∈ v.items, x.Everywhere p := by
  cases h
  assumption

theorem leaf (here : p v) (items : v.items = []) (entries : v.entries = []) : v.Everywhere p :=
  .intro here (by simp [items]) (by simp [entries])

theorem array {xs : List Json} (here : p (.array xs)) (items : ∀ x ∈ xs, x.Everywhere p) :
    (Json.array xs).Everywhere p := .intro here items (List.forall_mem_nil _)

theorem object {es : List (String × Json)} (here : p (.object es))
    (values : ∀ e ∈ es, e.2.Everywhere p) : (Json.object es).Everywhere p :=
  .intro here (List.forall_mem_nil _) values

end Everywhere

/-- An object has one value for each key, and numbers are in their form. -/
structure IsFormed (v : Json) : Prop where
  keys : (v.entries.map Prod.fst).Nodup
  number : ∀ x, v = .float x → x.IsProper

abbrev WellFormed (v : Json) : Prop := v.Everywhere IsFormed

abbrev Writable (v : Json) : Prop :=
  v.Everywhere fun v => ∀ n, v = .int n → (Number.writeInteger? n).isSome

abbrev Ordered (v : Json) : Prop :=
  v.Everywhere fun v => (v.entries.map Prod.fst).Pairwise (· < ·)

/-- The same document, with the entries of objects in any order. -/
inductive Same : Json → Json → Prop
  | refl (v : Json) : Same v v
  | array {xs ys : List Json} (length : xs.length = ys.length)
    (items : ∀ (i : ℕ) x y, xs[i]? = some x → ys[i]? = some y → Same x y) :
    Same (.array xs) (.array ys)
  | object {es fs : List (String × Json)}
    (keys : ∀ k, (lookup k es).isSome = (lookup k fs).isSome)
    (values : ∀ k x y, lookup k es = some x → lookup k fs = some y → Same x y) :
    Same (.object es) (.object fs)

namespace WellFormed

theorem null : WellFormed .null := .leaf ⟨.nil, nofun⟩ rfl rfl

theorem bool (b : Bool) : WellFormed (.bool b) := .leaf ⟨.nil, nofun⟩ rfl rfl

theorem int (n : ℤ) : WellFormed (.int n) := .leaf ⟨.nil, nofun⟩ rfl rfl

theorem float {x : Number.Binary64} (h : x.IsProper) : WellFormed (.float x) :=
  .leaf ⟨.nil, fun _ same => by cases same; exact h⟩ rfl rfl

theorem text (s : String) : WellFormed (.text s) := .leaf ⟨.nil, nofun⟩ rfl rfl

theorem array {xs : List Json} (h : ∀ x ∈ xs, x.WellFormed) : WellFormed (.array xs) :=
  Everywhere.array ⟨.nil, nofun⟩ h

theorem object {es : List (String × Json)} (keys : (es.map Prod.fst).Nodup)
    (h : ∀ e ∈ es, e.2.WellFormed) : WellFormed (.object es) := Everywhere.object ⟨keys, nofun⟩ h

theorem assignDefault {es : List (String × Json)} {v : Json}
    (h : (Json.object es).WellFormed) (k : String) (formed : v.WellFormed) :
    (Json.object (ClangIndex.assignDefault k v es)).WellFormed := by
  refine .object (keys_assignDefault h.here.keys k v) fun e mem => ?_
  unfold ClangIndex.assignDefault at mem
  split at mem
  case h_1 => exact h.values e mem
  case h_2 =>
    rcases List.mem_append.mp mem with mem | mem
    · exact h.values e mem
    · rw [List.mem_singleton.mp mem]
      exact formed

end WellFormed

section

variable {α : Type} (es : List (String × α))

theorem perm_insertSorted (e : String × α) : (insertSorted e es).Perm (e :: es) := by
  induction es with
  | nil => exact .refl _
  | cons f r ih =>
    unfold insertSorted
    split
    · exact .refl _
    · exact (ih.cons f).trans (.swap e f r)

theorem perm_sortEntries : (sortEntries es).Perm es := by
  induction es with
  | nil => exact .refl _
  | cons e r ih => exact (perm_insertSorted _ e).trans (ih.cons e)

variable {es}

theorem pairwise_insertSorted {e : String × α} (sorted : (es.map Prod.fst).Pairwise (· < ·))
    (new : e.1 ∉ es.map Prod.fst) : ((insertSorted e es).map Prod.fst).Pairwise (· < ·) := by
  induction es with
  | nil => simp [insertSorted]
  | cons f r ih =>
    rw [List.map_cons, List.pairwise_cons] at sorted
    rw [List.map_cons, List.mem_cons, not_or] at new
    unfold insertSorted
    split
    case isTrue before =>
      have first : ∀ k ∈ (f :: r).map Prod.fst, e.1 < k := by
        rw [List.map_cons, List.forall_mem_cons]
        exact ⟨before, fun k mem => String.lt_trans before (sorted.1 k mem)⟩
      exact .cons first (.cons sorted.1 sorted.2)
    case isFalse after =>
      have before : f.1 < e.1 := Std.lt_of_le_of_ne after (Ne.symm new.1)
      refine .cons (fun k mem => ?_) (ih sorted.2 new.2)
      rw [((perm_insertSorted r e).map Prod.fst).mem_iff, List.map_cons, List.mem_cons] at mem
      rcases mem with rfl | mem
      · exact before
      · exact sorted.1 k mem

theorem pairwise_sortEntries (keys : (es.map Prod.fst).Nodup) :
    ((sortEntries es).map Prod.fst).Pairwise (· < ·) := by
  induction es with
  | nil => exact .nil
  | cons e r ih =>
    rw [List.map_cons, List.nodup_cons] at keys
    refine pairwise_insertSorted (ih keys.2) fun mem => keys.1 ?_
    exact ((perm_sortEntries r).map Prod.fst).mem_iff.mp mem

end

theorem sortedItems_eq (xs : List Json) : sortedItems xs = xs.map sorted := by
  induction xs with
  | nil => rfl
  | cons x r ih => rw [sortedItems, ih, List.map_cons]

theorem sortedValues_eq (es : List (String × Json)) :
    sortedValues es = es.map fun e => (e.1, sorted e.2) := by
  induction es with
  | nil => rfl
  | cons e r ih => rw [sortedValues, ih, List.map_cons]

theorem keys_sortedValues (es : List (String × Json)) :
    (sortedValues es).map Prod.fst = es.map Prod.fst := by
  rw [sortedValues_eq, List.map_map]
  rfl

theorem lookup_sortedValues (k : String) (es : List (String × Json)) :
    lookup k (sortedValues es) = (lookup k es).map sorted := by
  induction es with
  | nil => rfl
  | cons e r ih =>
    obtain ⟨k', v⟩ := e
    by_cases here : k' = k <;> simp [sortedValues, lookup, here, ih]

section

variable {es : List (String × Json)}

theorem lookup_sorted (keys : (es.map Prod.fst).Nodup) (k : String) :
    lookup k (sortEntries (sortedValues es)) = (lookup k es).map sorted := by
  rw [lookup_perm (by rwa [keys_sortedValues]) (perm_sortEntries _).symm, lookup_sortedValues]

theorem mem_sorted {p : Json → Prop} (h : ∀ e ∈ es, p (sorted e.2)) :
    ∀ e ∈ sortEntries (sortedValues es), p e.2 := by
  intro e mem
  rw [(perm_sortEntries _).mem_iff, sortedValues_eq, List.mem_map] at mem
  obtain ⟨f, mem, rfl⟩ := mem
  exact h f mem

theorem pairwise_sorted (keys : (es.map Prod.fst).Nodup) :
    ((sortEntries (sortedValues es)).map Prod.fst).Pairwise (· < ·) :=
  pairwise_sortEntries (by rwa [keys_sortedValues])

end

theorem nodup_of_pairwise {ks : List String} (h : ks.Pairwise (· < ·)) : ks.Nodup := by
  refine List.Pairwise.imp ?_ h
  rintro k _ lt rfl
  exact String.lt_irrefl k lt

theorem ordered_sorted {v : Json} (h : v.WellFormed) : (sorted v).Ordered := by
  induction h with
  | @intro v formed _ _ items values =>
    cases v with
    | array xs =>
      rw [sorted, sortedItems_eq]
      exact .array .nil (List.forall_mem_map.mpr items)
    | object es => exact .object (pairwise_sorted formed.keys) (mem_sorted values)
    | _ => exact .leaf .nil rfl rfl

theorem wellFormed_sorted {v : Json} (h : v.WellFormed) : (sorted v).WellFormed := by
  induction h with
  | @intro v formed _ _ items values =>
    cases v with
    | array xs =>
      rw [sorted, sortedItems_eq]
      exact .array (List.forall_mem_map.mpr items)
    | object es =>
      exact .object (nodup_of_pairwise (pairwise_sorted formed.keys)) (mem_sorted values)
    | _ => exact .leaf formed rfl rfl

theorem writable_assignDefault_iff (es : List (String × Json)) (k s : String) :
    (Json.object (assignDefault k (.text s) es)).Writable ↔ (Json.object es).Writable := by
  have text : (Json.text s).Writable := .leaf nofun rfl rfl
  unfold assignDefault
  split
  case h_1 => exact .rfl
  case h_2 =>
    refine ⟨fun all => .object nofun fun e mem => all.values e (List.mem_append_left _ mem),
      fun all => .object nofun fun e mem => ?_⟩
    rcases List.mem_append.mp mem with mem | mem
    · exact all.values e mem
    · rw [List.mem_singleton.mp mem]
      exact text

theorem writable_sorted_iff {v : Json} (h : v.WellFormed) :
    (sorted v).Writable ↔ v.Writable := by
  induction h with
  | @intro v _ _ _ items values =>
    cases v with
    | array xs =>
      rw [sorted, sortedItems_eq]
      refine ⟨fun all => .array nofun fun x mem => ?_, fun all => .array nofun ?_⟩
      · exact (items x mem).mp (all.items _ (List.mem_map_of_mem mem))
      · exact List.forall_mem_map.mpr fun x mem => (items x mem).mpr (all.items x mem)
    | object es =>
      refine ⟨fun all => .object nofun fun e mem => ?_, fun all => .object nofun ?_⟩
      · have there : (e.1, sorted e.2) ∈ sortEntries (sortedValues es) := by
          rw [(perm_sortEntries _).mem_iff, sortedValues_eq]
          exact List.mem_map_of_mem mem
        exact (values e mem).mp (all.values _ there)
      · exact mem_sorted fun e mem => (values e mem).mpr (all.values e mem)
    | _ => exact .rfl

theorem same_sorted {v : Json} (h : v.WellFormed) : Same v (sorted v) := by
  induction h with
  | @intro v formed _ _ items values =>
    cases v with
    | array xs =>
      rw [sorted, sortedItems_eq]
      refine .array (List.length_map _).symm fun i x y here there => ?_
      rw [List.getElem?_map, here, Option.map_some, Option.some.injEq] at there
      exact there ▸ items x (List.mem_of_getElem? here)
    | object es =>
      have keys : (es.map Prod.fst).Nodup := formed.keys
      have found := lookup_sorted keys
      refine .object (fun k => ?_) fun k x y here there => ?_
      · rw [found, Option.isSome_map]
      · rw [found, here, Option.map_some, Option.some.injEq] at there
        exact there ▸ values (k, x) (mem_of_lookup here)
    | _ => exact .refl _

end Json

end ClangIndex
