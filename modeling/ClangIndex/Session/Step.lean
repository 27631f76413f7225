import ClangIndex.Session.Observation
import ClangIndex.Session.Term

namespace ClangIndex.Session

inductive Rule
  | answer (v : Value)
  | raises (cause : Failure)

instance : Inhabited Rule := ⟨.answer .none⟩

mutual

inductive Step
  | mk (action : Action) (register : Option String)

inductive Action
  | value (t : Term)
  | make (name : String) (arguments : List Term) (named : List (String × Term))
  | read (name : String) (self : Term)
  | assign (name : String) (self value : Term)
  | call (name : String) (self : Term) (arguments : List Term) (named : List (String × Term))
  | equal (a b : Term)
  | different (a b : Term)
  | isIn (a b : Term)
  | item (a i : Term)
  | size (a : Term)
  | toList (a : Term)
  | str (a : Term)
  | repr (a : Term)
  | hash (a : Term)
  | sameHash (a b : Term)
  | block (a : Term) (body : List Step)
  | visit (a : Term) (visitor : VisitorTable)
  | findReferences (a file : Term) (visitor : VisitorTable)

inductive VisitorTable
  | mk (rules : List (String × Rule)) (steps : List (String × List Step))

end

instance : Inhabited Action := ⟨.value (.plain .none)⟩

instance : Inhabited Step := ⟨.mk default none⟩

instance : Inhabited VisitorTable := ⟨.mk [] []⟩

inductive Outcome
  | value (v : Json)
  | failed (cause : Failure) (trace : Option (List Json))

namespace Outcome

def entries : Outcome → List (String × Json)
  | .value v => [("value", v)]
  | .failed f trace =>
    ("error", .text f.kind) ::
      (f.message?.elim [] fun m => [("message", .text m)]) ++
      (trace.elim [] fun t => [("trace", .array t)])

def json (o : Outcome) : Json := .object o.entries

end Outcome

def pick (s : Symbol) (table : List (String × α)) : Option α := lookup s table <|> lookup "*" table

def Rule.follow : Option Rule → Binding Value
  | none => pure (.member ⟨.childVisitResult, 1⟩)
  | some (.answer v) => pure v
  | some (.raises cause) => throw cause

def setRegister (name : String) (v : Value) : Binding Unit :=
  .update fun w => { w with registers := assign name v w.registers }

def addTrace (j : Json) : Binding Unit := .update fun w => { w with trace := w.trace ++ [j] }

def hear (form : α → Value) (c : Cursor) (other : α) : Binding (List Json) := do
  let child ← (Value.cursor c).keep
  let other ← (form other).keep
  let w ← World.now
  setRegister "child" child
  setRegister "other" other
  return [w.observe child, w.observe other]

def visitor (form : α → Value) (rules : List (String × Rule))
    (steps : List (String × Binding (List Json))) : Visitor α := fun c other => do
  let seen ← hear form c other
  match pick c.symbol steps with
  | none => addTrace (.array seen)
  | some run => do
    let results ← run
    addTrace (.array (seen ++ [.array results]))
  Rule.follow (pick c.symbol rules)

def traced (m : Binding α) : Binding (Except Failure α × List Json) := do
  let before := (← World.now).trace
  Binding.update fun w => { w with trace := [] }
  let r ← Binding.attempt m
  let trace := (← World.now).trace
  Binding.update fun w => { w with trace := before }
  return (r, trace)

abbrev Ended := Except (Failure × Option (List Json)) Value

def ended (m : Binding Value) : Binding Ended := do
  match ← Binding.attempt m with
  | .ok v => return .ok v
  | .error e => return .error (e, none)

def endedVisit (name : String) (form : α → Value) (m : Binding α) : Binding Ended := do
  let (r, trace) ← traced m
  match r with
  | .error e => return .error (e, some trace)
  | .ok v =>
    let w ← World.now
    return .ok (.document (.object [(name, w.observe (form v)), ("trace", .array trace)]))

def Term.cursor (t : Term) : Binding Cursor := do
  match ← t.eval with
  | .object (.cursor c) _ => return c
  | _ => throw Failure.attributeError

/-- What a step ends in: an iterator or a stream is run to a list. -/
def collected : Value → Binding Value
  | v@(.iterator _) | v@(.stream ..) => do return .list (← v.elements)
  | v => v.keep

def conclude (register : Option String) : Ended → Binding Json
  | .error (e, trace) => return (Outcome.failed e trace).json
  | .ok v => do
    let v ← collected v
    match register with
    | some r => setRegister r v
    | none => pure ()
    return (Outcome.value ((← World.now).observe v)).json

mutual

def Step.run : Step → Binding Json
  | .mk action register => do conclude register (← action.run)

def Action.run : Action → Binding Ended
  | .value t => ended t.eval
  | .make name arguments named => ended do
    if !Interface.isMade name then throw Failure.attributeError
    let arguments ← Term.evalAll arguments
    let named ← Term.evalEntries named
    Interface.make name arguments named
  | .read name self => ended do
    let v ← self.eval
    let a ← v.named name
    a.get
  | .assign name self value => ended do
    let v ← self.eval
    v.assign name (← value.eval)
    return .none
  | .call name self arguments named => ended do
    let v ← self.eval
    let a ← v.named name
    let arguments ← Term.evalAll arguments
    let named ← Term.evalEntries named
    a.call arguments named
  | .equal a b => ended do
    let a ← a.eval
    return .bool (← a.equal (← b.eval))
  | .different a b => ended do
    let a ← a.eval
    return .bool !(← a.equal (← b.eval))
  | .isIn a b => ended do
    let a ← a.eval
    let b ← b.eval
    return .bool (← b.contains a)
  | .item a i => ended do
    let a ← a.eval
    a.item (← i.eval)
  | .size a => ended do return .int (← (← a.eval).size)
  | .toList a => ended do return .list (← (← a.eval).elements)
  | .str a => ended do return .text (← (← a.eval).str)
  | .repr a => ended do return .text (← (← a.eval).repr)
  | .hash a => ended do (← a.eval).hash
  | .sameHash a b => ended do
    let a ← a.eval
    return .bool (← a.sameHash (← b.eval))
  | .block a body => ended do
    let v ← a.eval
    if v.canEnter then
      let results ← Binding.andFinally (runAll body) v.leave
      return .list (results.map .document)
    else throw Failure.typeError
  | .visit a (.mk rules steps) => endedVisit "broken" .bool do
    let c ← a.cursor
    c.visit (visitor .cursor rules (runTable steps))
  | .findReferences a file (.mk rules steps) => endedVisit "result" .member do
    let c ← a.cursor
    c.findReferences (← file.eval) (visitor .range rules (runTable steps))

def runAll : List Step → Binding (List Json)
  | [] => pure []
  | s :: r => do
    let j ← s.run
    return j :: (← runAll r)

def runTable : List (String × List Step) → List (String × Binding (List Json))
  | [] => []
  | (k, steps) :: r => (k, runAll steps) :: runTable r

end

end ClangIndex.Session
