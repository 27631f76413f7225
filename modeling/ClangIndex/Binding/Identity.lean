import ClangIndex.Binding.Operation

namespace ClangIndex

namespace Value

def isOneObject : Value → Value → Bool
  | .object (.function f) _, .object (.function g) _ => f == g
  | .object _ i, .object _ j | .fileLike _ i, .fileLike _ j => i == j && i != .passing
  | .handle a, .handle b => a == b
  | .diagnostics _ i, .diagnostics _ j => i == j
  | .platform i, .platform j | .availability i, .availability j | .chunk i, .chunk j
  | .iterator i, .iterator j | .stream _ i, .stream _ j => i == j
  | _, _ => false

mutual

def numbered : Value → StateM Nat Value
  | .object o .passing => modifyGet fun n => (.object o (.kept n), n + 1)
  | .fileLike v .passing => modifyGet fun n => (.fileLike v (.kept n), n + 1)
  | .list xs => .list <$> numberedAll xs
  | .tuple xs => .tuple <$> numberedAll xs
  | .diagnostics xs id => (.diagnostics · id) <$> numberedAll xs
  | .mapping es => .mapping <$> numberedEntries es
  | .fixIt v r => .fixIt v <$> numbered r
  | v => pure v

def numberedAll : List Value → StateM Nat (List Value)
  | [] => pure []
  | x :: r => do
    let x ← numbered x
    return x :: (← numberedAll r)

def numberedEntries : List (Key × Value) → StateM Nat (List (Key × Value))
  | [] => pure []
  | (k, x) :: r => do
    let x ← numbered x
    return (k, x) :: (← numberedEntries r)

end

/-- Makes the objects of a value known, so that they are the same ones wherever it is used. -/
def keep (v : Value) : Binding Value :=
  .keeping fun w =>
    let (v, n) := v.numbered.run w.objects
    (v, { w with objects := n })

mutual

def recast (n : Nat) (o : Object) : Value → Value
  | .object p id => .object (if id = .kept n then o else p) id
  | .list xs => .list (recastAll n o xs)
  | .tuple xs => .tuple (recastAll n o xs)
  | .diagnostics xs id => .diagnostics (recastAll n o xs) id
  | .mapping es => .mapping (recastEntries n o es)
  | .fixIt v r => .fixIt v (recast n o r)
  | v => v

def recastAll (n : Nat) (o : Object) : List Value → List Value
  | [] => []
  | x :: r => recast n o x :: recastAll n o r

def recastEntries (n : Nat) (o : Object) : List (Key × Value) → List (Key × Value)
  | [] => []
  | (k, x) :: r => (k, recast n o x) :: recastEntries n o r

end

def holder? : Value → Option Holder
  | .object _ .passing | .fileLike _ .passing => Option.none
  | .object _ id | .fileLike _ id => some (.object id)
  | .handle h => some (.handle h)
  | .stream _ id => some (.supply id)
  | .diagnostics _ id => some (.diagnostics id)
  | .platform id => some (.platform id)
  | .availability id => some (.availability id)
  | .chunk id => some (.chunk id)
  | .member m => some (.member m)
  | .flags f n => some (.flags f n)
  | _ => Option.none

def canHold : Value → Bool
  | .object .method _ => false
  | .object .. | .fileLike .. => true
  | v => v.holder?.isSome

def attribute? (w : World) (v : Value) (name : String) : Option Value := do
  let holder ← v.holder?
  let found ← w.attributes.find? fun e => e.1 == holder && e.2.1 == name
  return found.2.2

def setAttribute (v : Value) (name : String) (x : Value) : Binding Unit :=
  match v.holder? with
  | some h => .update fun w => { w with attributes := (h, name, x) :: w.attributes }
  | Option.none => pure ()

end Value

namespace World

def recast (w : World) (n : Nat) (o : Object) : World :=
  let all := fun e : String × Value => (e.1, e.2.recast n o)
  { w with
    registers := w.registers.map all
    supplies := w.supplies.map (Value.recastAll n o)
    attributes := w.attributes.map fun e => (e.1, all e.2)
    owners := w.owners.map (Value.recast n o)
    chunks := w.chunks.map fun c => ⟨c.string.recast n o, c.key.recast n o⟩
    handles := w.handles.map fun s => s.exchange (s.role.value.recast n o) }

theorem accounts_recast (w : World) (n : Nat) (o : Object) :
    (w.recast n o).accounts = w.accounts := by
  simp [accounts, recast, Function.comp_def]

end World

end ClangIndex
