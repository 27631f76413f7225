import ClangIndex.Failure
import ClangIndex.Log.Channel
import ClangIndex.Log.Message

namespace ClangIndex.Log

structure Journal where
  channel : Channel := {}
  told : List String := []
  deriving Inhabited

abbrev Logging := ExceptT Failure (StateM Journal)

namespace Logging

def exec (m : Logging α) (j : Journal) : Except Failure α × Journal := m.run.run j

def change (f : Channel → Channel) : Logging Unit :=
  modify fun j => { j with channel := f j.channel }

def tell (s : String) : Logging Unit := modify fun j => { j with told := j.told ++ [s] }

def tellRun : Logging Unit := do tell (← get).channel.context.runId

def inPhase (phase : String) (m : Logging Unit) : Logging Unit := do
  let before := (← get).channel.context.phase
  change (.withPhase phase)
  let r ← observing m
  change (.withPhase before)
  ofExcept r

end Logging

inductive Act
  | configure (level : Level)
  | log (level : Level) (logger pattern : String) (arguments : List Value)
  | setRun (given : Option String) (fresh : String)
  | getRun
  | phase (name : String) (body : List Act)
  | raise (cause : Failure)
  | attempt (body : List Act)

namespace Act

def record? (level : Level) (logger pattern : String) (arguments : List Value) : Option Record :=
  (message? pattern arguments).map fun message =>
    { level, logger := if logger = "" then "root" else logger, message }

mutual

def run : Act → Logging Unit
  | .configure level => .change (.configure level)
  | .log level logger pattern arguments =>
    match record? level logger pattern arguments with
    | some r => .change (.write r)
    | none => pure ()
  | .setRun given fresh => do
    .change (.setRun (Channel.runName given fresh))
    .tellRun
  | .getRun => .tellRun
  | .phase name body => .inPhase name (runAll body)
  | .raise cause => throw cause
  | .attempt body => tryCatch (runAll body) fun _ => .tell "caught"

def runAll : List Act → Logging Unit
  | [] => pure ()
  | a :: r => do
    run a
    runAll r

end

end Act

end ClangIndex.Log
