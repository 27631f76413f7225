import ClangIndex.Number.Binary64

namespace ClangIndex

inductive Json
  | null
  | bool (b : Bool)
  | int (n : Int)
  | float (x : Number.Binary64)
  | text (s : String)
  | array (xs : List Json)
  | object (entries : List (String × Json))
  deriving Inhabited, Repr

def lookup (k : String) : List (String × α) → Option α
  | [] => none
  | (k', v) :: r => if k' = k then some v else lookup k r

def assign (k : String) (v : α) : List (String × α) → List (String × α)
  | [] => [(k, v)]
  | (k', v') :: r => if k' = k then (k, v) :: r else (k', v') :: assign k v r

def assignDefault (k : String) (v : α) (entries : List (String × α)) : List (String × α) :=
  match lookup k entries with
  | some _ => entries
  | none => entries ++ [(k, v)]

@[simp] theorem lookup_nil (k : String) : lookup k ([] : List (String × α)) = none := rfl

theorem mem_of_lookup {k : String} {v : α} {entries : List (String × α)}
    (h : lookup k entries = some v) : (k, v) ∈ entries := by
  induction entries with
  | nil => cases h
  | cons e r ih =>
    obtain ⟨k', v'⟩ := e
    by_cases here : k' = k
    · simp_all [lookup]
    · simp only [lookup, here, if_false] at h
      exact List.mem_cons_of_mem _ (ih h)

theorem lookup_assign_self (k : String) (v : α) (entries : List (String × α)) :
    lookup k (assign k v entries) = some v := by
  induction entries with
  | nil => simp [assign, lookup]
  | cons e r ih =>
    obtain ⟨k', v'⟩ := e
    by_cases h : k' = k <;> simp [assign, lookup, h, ih]

theorem lookup_assign_other {k j : String} (h : j ≠ k) (v : α) (entries : List (String × α)) :
    lookup j (assign k v entries) = lookup j entries := by
  induction entries with
  | nil => simp [assign, lookup, h.symm]
  | cons e r ih =>
    obtain ⟨k', v'⟩ := e
    by_cases hk : k' = k
    · subst hk
      simp [assign, lookup, h.symm]
    · by_cases hj : k' = j
      · subst hj
        simp [assign, lookup, hk]
      · simp [assign, lookup, hk, hj, ih]

namespace Json

def get? (k : String) : Json → Option Json
  | .object es => lookup k es
  | _ => none

def entries : Json → List (String × Json)
  | .object es => es
  | _ => []

def items : Json → List Json
  | .array xs => xs
  | _ => []

def text? : Json → Option String
  | .text s => some s
  | _ => none

def int? : Json → Option Int
  | .int n => some n
  | _ => none

def bool? : Json → Option Bool
  | .bool b => some b
  | _ => none

end Json

end ClangIndex
