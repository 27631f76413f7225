import ClangIndex.Binding.Database
import ClangIndex.Binding.Hash

/-!
Values as sequences: their length, their items by index and in order. Arrays of the native side are
known by their length when they were made; the sizes of the others are asked each time. An iterator
or a stream gives each item once.
-/

namespace ClangIndex

open Native (Function HandleClass)

namespace OverriddenCursors

def contents (w : World) (h : Handle) : Option Handle × Nat × List Symbol :=
  match w.role h with
  | .overridden unit count items => (unit, count, items)
  | _ => (none, 0, [])

def size (h : Handle) : Binding Nat := do
  let w ← World.now
  if w.isDisposed h then throw (.disposed .overriddenCursors) else return (contents w h).2.1

end OverriddenCursors

namespace Native.HandleClass

def isSequence : HandleClass → Bool
  | .tokens | .overriddenCursors | .codeCompleteResults | .compileCommands | .completionString =>
    true
  | _ => false

end Native.HandleClass

namespace Handle

def size (h : Handle) : Binding Nat :=
  match h.cls with
  | .tokens => Tokens.size h
  | .overriddenCursors => OverriddenCursors.size h
  | .codeCompleteResults => CodeCompleteResults.size h
  | .compileCommands => CompileCommands.size h
  | .completionString => CompletionString.size h
  | _ => throw Failure.typeError

def itemAt (h : Handle) (i : Nat) : Binding Value := do
  let w ← World.now
  match h.cls with
  | .tokens =>
    return match Tokens.contents w h with
      | some (unit, _, items) => .token ⟨items.getD i zeroSymbol, some unit⟩
      | none => .none
  | .overriddenCursors =>
    let (unit, _, items) := OverriddenCursors.contents w h
    return .cursor ⟨items.getD i zeroSymbol, unit⟩
  | .codeCompleteResults =>
    return match CodeCompleteResults.array? w h with
      | some a => .object (.completionResult a i)
      | none => .none
  | .compileCommands => CompileCommands.command h (.int i)
  | .completionString => Value.chunkOf (.handle h) (.int i)
  | _ => throw Failure.typeError

/-- The item at an index. Every index out of range is refused, a negative one before all else. A
fraction in range counts as the index of a chunk only. -/
def item (h : Handle) (i : Value) : Binding Value := do
  match h.cls with
  | .compileCommands => CompileCommands.command h i
  | .completionString =>
    i.ensureWithin h.size
    Value.chunkOf (.handle h) i
  | .tokens | .overriddenCursors | .codeCompleteResults =>
    i.ensureWithin h.size
    match i.number? with
    | some n => h.itemAt n.toNat
    | none => throw Failure.typeError
  | _ => throw Failure.typeError

end Handle

inductive Supply
  | items (xs : List Value)
  | once (id : Nat)
  | array (h : Handle)
  | chunks (c : Handle)

inductive Progress (β : Type)
  | more (b : β)
  | enough (b : β)

namespace Supply

def proceed (rest : β → Binding β) : Progress β → Binding β
  | .more b => rest b
  | .enough b => pure b

variable {β : Type} (f : β → Value → Binding (Progress β))

def foldItems : List Value → β → Binding β
  | [], b => pure b
  | x :: r, b => do proceed (foldItems r) (← f b x)

def foldOnce (id : Nat) : List Value → β → Binding β
  | [], b => pure b
  | x :: r, b => do
    Binding.update fun w => { w with supplies := w.supplies.set! id r }
    proceed (foldOnce id r) (← f b x)

def foldArray (h : Handle) : List Nat → β → Binding β
  | [], b => pure b
  | i :: r, b => do
    let x ← h.item (.int i)
    proceed (foldArray h r) (← f b x)

/-- The chunks from an index on, so many at most; the size is asked for before each of them. -/
def foldChunks (c : Handle) : Nat → Nat → β → Binding β
  | 0, _, b => pure b
  | most + 1, i, b => do
    if (← c.size) ≤ i then pure b
    else
      let x ← c.itemAt i
      proceed (foldChunks c most (i + 1)) (← f b x)

def fold (s : Supply) (b : β) : Binding β := do
  match s with
  | .items xs => foldItems f xs b
  | .once id => foldOnce f id ((← World.now).supply id) b
  | .array h => foldArray f h (List.range (← h.size)) b
  | .chunks c => foldChunks f c (Nat.pow 2 32) 0 b

end Supply

namespace Value

def supply : Value → Binding Supply
  | .handle h =>
    match h.cls with
    | .codeCompleteResults => .items <$> CodeCompleteResults.results h
    | .tokens | .overriddenCursors | .compileCommands => pure (.array h)
    | .completionString => pure (.chunks h)
    | _ => throw Failure.typeError
  | .iterator id | .stream _ id => pure (.once id)
  | v =>
    match v.items? with
    | some xs => pure (.items xs)
    | Option.none => throw Failure.typeError

/-- Asks for the size where it costs a call, as a hint of the length. -/
def hintSize : Value → Binding Unit
  | .handle h => if h.cls.isSequence then discard h.size else pure ()
  | _ => pure ()

def elements (v : Value) : Binding (List Value) := do
  let s ← v.supply
  v.hintSize
  let xs ← s.fold (fun xs x => pure (.more (x :: xs))) []
  return xs.reverse

def bitCount (n : Nat) : Nat := (List.range (Nat.log2 n + 1)).countP n.testBit

def size : Value → Binding Nat
  | .handle h => h.size
  | .text s => pure s.length
  | .bytes b => pure b.length
  | .list xs => pure xs.length
  | .tuple xs => pure xs.length
  | .diagnostics xs _ => pure xs.length
  | .mapping es => pure es.length
  | .flags _ n => pure (bitCount n)
  | .filePosition .. => pure 4
  | .presumedPosition .. => pure 3
  | .fixIt .. => pure 2
  | .object (.unsavedFiles files) _ => pure files.length
  | _ => throw Failure.typeError

def holds : Value → Binding Bool
  | .handle h => if h.cls.isSequence then return (← h.size) != 0 else pure true
  | v => pure v.truthy

def nth (xs : List Value) (i : Int) : Except Failure Value :=
  let i := if i < 0 then i + xs.length else i
  if i < 0 then .error (.plain .index)
  else match xs[i.toNat]? with
    | some x => .ok x
    | Option.none => .error (.plain .index)

def isIndexed : Value → Bool
  | .list _ | .tuple _ | .diagnostics .. | .text _ | .bytes _ | .filePosition ..
  | .presumedPosition .. | .fixIt .. => true
  | _ => false

def item (v i : Value) : Binding Value :=
  match v with
  | .handle h => h.item i
  | .mapping es => do
    i.ensureHashable
    match i.key?.bind fun k => es.lookup k with
    | some x => pure x
    | Option.none => throw (.plain .key)
  | v =>
    match v.isIndexed, v.items?, i.number? with
    | true, some xs, some n => nth xs n
    | _, _, _ => throw Failure.typeError

end Value

end ClangIndex
