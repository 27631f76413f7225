import ClangIndex.Session.Step

namespace ClangIndex.Session

open Native (Call Side)

structure Deeds where
  calls : List Call
  records : List Log.Record

def observing (m : Binding α) : Binding (α × Deeds) := do
  let before ← World.now
  let a ← m
  let w ← World.now
  return (a, {
    calls := (w.calls.take (w.calls.length - before.calls.length)).reverse,
    records := (w.records.take (w.records.length - before.records.length)).reverse })

structure Entry where
  outcome : Json
  deeds : Deeds

def enter (s : Step) : Binding Entry := do
  let (j, deeds) ← observing s.run
  return ⟨j, deeds⟩

def entries : List Step → Binding (List Entry)
  | [] => pure []
  | s :: r => do
    let e ← enter s
    return e :: (← entries r)

def run (side : Side) (steps : List Step) : List Entry × World :=
  match (entries steps).exec side {} with
  | (.ok es, w) => (es, w)
  | (.error _, w) => ([], w)

end ClangIndex.Session
