import ClangIndex.Native.Script
import Mathlib.Data.List.Nodup
import Mathlib.Data.List.Perm.Subperm

namespace ClangIndex

/-- Siblings in order: the first one, what is below it, and the others. -/
inductive Forest
  | nil
  | cons (s : Symbol) (inside rest : Forest)

namespace Forest

def height : Forest → Nat
  | .nil => 0
  | .cons _ inside rest => max (inside.height + 1) rest.height

def size : Forest → Nat
  | .nil => 0
  | .cons _ inside rest => inside.size + rest.size + 1

end Forest

namespace Native.Side

/-- Cursors unfold to a forest when their children do, and the children of those. -/
inductive Unfolds (side : Side) : List Symbol → Forest → Prop
  | nil : Unfolds side [] .nil
  | cons {s r inside rest} (below : Unfolds side (side.children s) inside)
      (others : Unfolds side r rest) : Unfolds side (s :: r) (.cons s inside rest)

/-- What is below a cursor is a finite tree, less deep than the native side nests children. -/
structure Below (side : Side) (s : Symbol) (f : Forest) : Prop where
  unfolds : side.Unfolds (side.children s) f
  nests : f.height < side.depth

variable {side : Side}

theorem Unfolds.unique {ss : List Symbol} {f g : Forest} (h : side.Unfolds ss f)
    (k : side.Unfolds ss g) : f = g := by
  induction h generalizing g with
  | nil =>
    cases k
    rfl
  | cons _ _ below others =>
    cases k with
    | cons below' others' => rw [below below', others others']

theorem Unfolds.eq_nil {f : Forest} (h : side.Unfolds [] f) : f = .nil := by
  cases h
  rfl

/-- Below a chain of cursors that have children, each of which holds the forest, the forest is no
deeper than there are other cursors that have children. -/
theorem Unfolds.height_le {parents : List Symbol}
    (known : ∀ s, side.children s ≠ [] → s ∈ parents) {ss : List Symbol} {f : Forest}
    (h : side.Unfolds ss f) {chain : List Symbol} (distinct : chain.Nodup)
    (among : chain ⊆ parents)
    (holds : ∀ s ∈ chain, ∃ g, side.Unfolds (side.children s) g ∧ f.size ≤ g.size) :
    f.height + chain.length ≤ parents.length + 1 := by
  have room : chain.length ≤ parents.length := (List.subperm_of_subset distinct among).length_le
  induction h generalizing chain with
  | nil =>
    simp only [Forest.height]
    omega
  | @cons s r inside rest below others ihBelow ihOthers =>
    have holdsRest : ∀ a ∈ chain, ∃ g, side.Unfolds (side.children a) g ∧ rest.size ≤ g.size := by
      intro a m
      obtain ⟨g, u, le⟩ := holds a m
      exact ⟨g, u, by simp only [Forest.size] at le; omega⟩
    have aside := ihOthers distinct among holdsRest room
    suffices inner : inside.height + 1 + chain.length ≤ parents.length + 1 by
      simp only [Forest.height]
      omega
    by_cases leaf : side.children s = []
    · rw [leaf] at below
      rw [below.eq_nil]
      simp only [Forest.height]
      omega
    · -- A cursor of the chain holds more than is inside, so the chain can grow by this one.
      have fresh : s ∉ chain := by
        intro m
        obtain ⟨g, u, le⟩ := holds s m
        rw [u.unique below] at le
        simp only [Forest.size] at le
        omega
      have grown : (s :: chain).Nodup := List.nodup_cons.mpr ⟨fresh, distinct⟩
      have within : s :: chain ⊆ parents := List.cons_subset.mpr ⟨known s leaf, among⟩
      have deeper := ihBelow grown within (fun a m => ?_)
        (List.subperm_of_subset grown within).length_le
      · simpa [Nat.add_right_comm, Nat.add_assoc, Nat.add_comm] using deeper
      · cases List.mem_cons.mp m with
        | inl here => exact ⟨inside, here ▸ below, Nat.le_refl _⟩
        | inr above =>
          obtain ⟨g, u, le⟩ := holds a above
          exact ⟨g, u, by simp only [Forest.size] at le; omega⟩

end Native.Side

namespace Native.Script

theorem mem_keys_of_children {script : Script} {s : Symbol} (h : script.toSide.children s ≠ []) :
    s ∈ script.children.map (·.1) := by
  cases e : lookup s script.children with
  | none => exact absurd (by simp [toSide, e]) h
  | some j => exact List.mem_map_of_mem (mem_of_lookup e)

theorem below_of_unfolds {script : Script} {s : Symbol} {f : Forest}
    (h : script.toSide.Unfolds (script.toSide.children s) f) : script.toSide.Below s f := by
  refine ⟨h, ?_⟩
  have depth : script.toSide.depth = script.children.length + 1 := rfl
  by_cases leaf : script.toSide.children s = []
  · rw [leaf] at h
    rw [h.eq_nil, depth]
    exact Nat.succ_pos _
  · have bound := h.height_le (fun _ => mem_keys_of_children) (List.nodup_singleton s)
      (List.cons_subset.mpr ⟨mem_keys_of_children leaf, List.nil_subset _⟩)
      (fun a m => ⟨f, List.mem_singleton.mp m ▸ h, Nat.le_refl _⟩)
    rw [List.length_singleton, List.length_map] at bound
    omega

end Native.Script

end ClangIndex
