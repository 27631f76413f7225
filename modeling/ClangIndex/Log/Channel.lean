import ClangIndex.Log.Record

namespace ClangIndex.Log

/-- What a handler passes each record through. One filter gives records the run and the phase; any
other lets every record through as it is. -/
inductive Filter
  | context
  | other (name : String)
  deriving DecidableEq, Repr

structure Handler where
  level : Level := .unset
  contextual : Bool := false
  filters : List Filter := []
  lines : List String := []
  deriving DecidableEq, Repr, Inhabited

namespace Handler

def attach (h : Handler) : Handler :=
  if .context ∈ h.filters then h else { h with filters := h.filters ++ [.context] }

def configure (h : Handler) : Handler := attach { h with contextual := true }

def accepts (h : Handler) (r : Record) : Bool := h.level.rank ≤ r.level.rank

/-- Writes a record with what the filters gave it. A line with the run and the phase cannot be
written where no filter gave them. -/
def write (given : Option Context) (r : Record) (h : Handler) : Handler :=
  let written := match h.contextual, given with
    | false, _ => linesOf r.message
    | true, some c => linesOf { r with context := c }.text
    | true, none => []
  { h with lines := h.lines ++ written }

def passOn (c : Context) (given : Option Context) (r : Record) : List Handler → List Handler
  | [] => []
  | h :: hs =>
    if h.accepts r then
      let given := if .context ∈ h.filters then some c else given
      h.write given r :: passOn c given r hs
    else h :: passOn c given r hs

end Handler

structure Channel where
  level : Level := .warning
  handlers : List Handler := []
  unhandled : List String := []
  context : Context := {}
  deriving DecidableEq, Repr, Inhabited

namespace Channel

def withHandlers (n : Nat) : Channel := { handlers := List.replicate n {} }

def configure (level : Level) (c : Channel) : Channel :=
  let handlers := if c.handlers.isEmpty then [{}] else c.handlers
  { c with level, handlers := handlers.map Handler.configure }

/-- Writes a record, in the context of the moment, where its level allows. Without handlers only
warnings and worse are written. -/
def write (r : Record) (c : Channel) : Channel :=
  if !c.level.admits r.level then c
  else if c.handlers.isEmpty then
    if Level.warning.rank ≤ r.level.rank then
      { c with unhandled := c.unhandled ++ linesOf r.message }
    else c
  else { c with handlers := Handler.passOn c.context none r c.handlers }

def runName (given : Option String) (fresh : String) : String :=
  (given.filter (!·.isEmpty)).getD fresh

def setRun (name : String) (c : Channel) : Channel :=
  { c with context := { c.context with runId := name } }

def withPhase (phase : String) (c : Channel) : Channel :=
  { c with context := { c.context with phase := phase } }

end Channel

end ClangIndex.Log
