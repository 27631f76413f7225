import ClangIndex.Text.Blank

namespace ClangIndex.Log

inductive Level
  | unset
  | debug
  | info
  | warning
  | error
  | critical
  deriving DecidableEq, Repr

namespace Level

def name : Level → String
  | .unset => "NOTSET"
  | .debug => "DEBUG"
  | .info => "INFO"
  | .warning => "WARNING"
  | .error => "ERROR"
  | .critical => "CRITICAL"

def rank : Level → Nat
  | .unset => 0
  | .debug => 10
  | .info => 20
  | .warning => 30
  | .error => 40
  | .critical => 50

def all : List Level := [.unset, .debug, .info, .warning, .error, .critical]

def ofName? (s : String) : Option Level :=
  match s with
  | "WARN" => some .warning
  | "FATAL" => some .critical
  | s => all.find? fun l => l.name == s

/-- Whether records of a level are written where another is set; those without a level never are. -/
def admits (set l : Level) : Bool := l ≠ .unset && set.rank ≤ l.rank

end Level

/-- The run and the phase in which a record is written; a dash stands for none. -/
structure Context where
  runId : String := "-"
  phase : String := "-"
  deriving DecidableEq, Repr, Inhabited

structure Record where
  level : Level
  logger : String
  message : String
  context : Context := {}
  deriving DecidableEq, Repr

def linesOf (s : String) : List String := (Text.lines (s.toList ++ ['\n'])).map String.ofList

def Record.text (r : Record) : String :=
  r.level.name ++ " | run_id=" ++ r.context.runId ++ " | phase=" ++ r.context.phase ++ " | " ++
    r.logger ++ " | " ++ r.message

end ClangIndex.Log
