import ClangIndex.Interface.Objects
import ClangIndex.Text.Path

namespace ClangIndex.Session

inductive Form
  | file
  | module
  | unit (owned : Bool)
  | diagnostic
  | completionString
  | database

inductive Term
  | plain (v : Value)
  | register (name : String)
  | list (items : List Term)
  | iterator (items : List Term)
  | mapping (entries : List (String × Term))
  | stream (contents : Term)
  | handle (form : Form) (symbol : Option Symbol)
  | failing (cause : Failure)

instance : Inhabited Term := ⟨.plain .none⟩

def pathValue (s : String) : Value := .path (String.ofList (Text.Path.normalize s.toList))

def Form.make (s : Option Symbol) : Form → Binding Handle
  | .file => Handle.create .file (.handle s)
  | .module => Handle.create .module (.handle s)
  | .unit owned => Handle.create .translationUnit (.handle s) (.unit .none owned)
  | .diagnostic => Handle.create .diagnostic (.handle s) (.diagnostic none)
  | .completionString => Handle.create .completionString (.handle s)
  | .database => Handle.create .compilationDatabase (.handle s)

def register (name : String) : Binding Value := do
  match lookup name (← World.now).registers with
  | some v => return v
  | none => throw (.plain .key)

def streamOf : Value → Binding Value
  | .text s => newStream false (.text s)
  | .bytes b => newStream true (.bytes b)
  | v => (Value.fileLike v .passing).keep
where
  newStream (binary : Bool) (contents : Value) : Binding Value :=
    .keeping fun w => (.stream binary w.supplies.size,
      { w with supplies := w.supplies.push contents.lines })

namespace Term

mutual

/-- The value of a term. Every object in it is a new one. -/
def eval : Term → Binding Value
  | .plain v => v.keep
  | .register name => Session.register name
  | .list ts => Value.list <$> evalAll ts
  | .iterator ts => do Value.iteratorOver (← evalAll ts)
  | .mapping es => do return .mapping ((← evalEntries es).map fun e => (.text e.1, e.2))
  | .stream t => do streamOf (← eval t)
  | .handle form s => Value.handle <$> form.make s
  | .failing f => throw f

def evalAll : List Term → Binding (List Value)
  | [] => pure []
  | t :: r => do
    let v ← eval t
    return v :: (← evalAll r)

def evalEntries : List (String × Term) → Binding (List (String × Value))
  | [] => pure []
  | (k, t) :: r => do
    let v ← eval t
    return (k, v) :: (← evalEntries r)

end

end Term

end ClangIndex.Session
