import ClangIndex.Binding.Equality

namespace ClangIndex

open Native (Function)

structure Parameter where
  name : String
  default? : Option Value := none

def Routine : List Parameter → Type
  | [] => Binding Value
  | _ :: ps => Value → Routine ps

namespace Routine

def ofList : (ps : List Parameter) → (List Value → Binding Value) → Routine ps
  | [], f => f []
  | _ :: ps, f => fun v => ofList ps fun vs => f (v :: vs)

def isNamed (name : String) (named : List (String × Value)) : Bool := (lookup name named).isSome

def apply : (ps : List Parameter) → Routine ps → List Value → List (String × Value) → Binding Value
  | [], m, [], [] => m
  | [], _, _, _ => throw Failure.typeError
  | p :: ps, f, v :: vs, named =>
    if isNamed p.name named then throw Failure.typeError else apply ps (f v) vs named
  | p :: ps, f, [], named =>
    match lookup p.name named, p.default? with
    | some v, _ => apply ps (f v) [] (named.filter fun e => e.1 != p.name)
    | none, some v => apply ps (f v) [] named
    | none, none => throw Failure.typeError

end Routine

structure Method where
  parameters : List Parameter
  action : Routine parameters

inductive Attribute
  | property (read : Binding Value)
  | field (read : Binding Value) (write : Value → Binding Unit)
  | method (m : Method)
  | function (name : String) (m : Method)

namespace Attribute

def asks (f : Function) (self : Value) (reading : Reading := .plain)
    (keeps : f.releases = false := by exact Eq.refl false) : Attribute :=
  .property (f.ask [self] reading)

def asksWith (names : List String) (f : Function) (self : Value) (reading : Reading := .plain)
    (keeps : f.releases = false := by exact Eq.refl false) : Attribute :=
  let parameters := names.map fun n => ⟨n, none⟩
  .method ⟨parameters, Routine.ofList parameters fun vs => f.ask (self :: vs) reading⟩

def constant (v : Value) : Attribute := .property (pure v)

def method0 (m : Binding Value) : Attribute := .method ⟨[], m⟩

def method1 (p : Parameter) (f : Value → Binding Value) : Attribute := .method ⟨[p], f⟩

def method2 (p q : Parameter) (f : Value → Value → Binding Value) : Attribute := .method ⟨[p, q], f⟩

def reads (m : Binding α) (form : α → Value) : Attribute := .property (form <$> m)

/-- Properties and fields go before what was set on the value, methods after it. -/
def isProperty : Attribute → Bool
  | .property _ | .field .. => true
  | .method _ | .function .. => false

def get : Attribute → Binding Value
  | .property read | .field read _ => read
  | .method _ => pure (.object .method)
  | .function name _ => pure (.object (.function name))

def call (arguments : List Value) (named : List (String × Value)) : Attribute → Binding Value
  | .method m | .function _ m => Routine.apply m.parameters m.action arguments named
  | .property read | .field read _ => do
    let _ ← read
    throw Failure.typeError

end Attribute

def done (m : Binding Unit) : Binding Value := do
  m
  return .none

end ClangIndex
