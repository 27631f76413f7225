import ClangIndex.Failure
import ClangIndex.Log.Record

namespace ClangIndex.Library

structure Declaration (T C : Type) where
  name : String
  parameters : Option (List T) := none
  result : Option (Option T) := none
  check : Option C := none
  deriving Repr

structure Prototype (T C : Type) where
  parameters : Option (List T) := none
  result : Option (Option T) := none
  check : Option C := none
  deriving DecidableEq, Repr

namespace Prototype

def update (p : Prototype T C) (d : Declaration T C) : Prototype T C where
  parameters := d.parameters <|> p.parameters
  result := d.result <|> p.result
  check := d.check <|> p.check

end Prototype

abbrev Prototypes (T C : Type) := List (String × Prototype T C)

namespace Prototypes

def of (ps : Prototypes T C) (name : String) : Prototype T C := (lookup name ps).getD {}

def declare (d : Declaration T C) (ps : Prototypes T C) : Prototypes T C :=
  assign d.name ((ps.of d.name).update d) ps

end Prototypes

structure Registration (T C : Type) where
  prototypes : Prototypes T C := []
  count : Nat := 0
  skipped : List String := []
  missing : Option String := none

namespace Registration

/-- Applies one declaration. Nothing happens any more once a symbol was missing. -/
def step (has : String → Bool) (lenient : Bool) (r : Registration T C) (d : Declaration T C) :
    Registration T C :=
  match r.missing with
  | some _ => r
  | none =>
    if has d.name then { r with prototypes := r.prototypes.declare d, count := r.count + 1 }
    else if lenient then { r with skipped := r.skipped ++ [d.name] }
    else { r with missing := some d.name }

def ofTable (has : String → Bool) (lenient : Bool) (table : List (Declaration T C))
    (before : Prototypes T C := []) : Registration T C :=
  table.foldl (step has lenient) { prototypes := before }

def debug (message : String) : Log.Record := ⟨.debug, "clangbind.library", message, {}⟩

def records (r : Registration T C) (total : Nat) : List Log.Record :=
  r.skipped.map (fun s => debug ("Skipping missing libclang symbol " ++ s)) ++
    match r.missing with
    | some _ => []
    | none =>
      let tally := toString r.count ++ " of " ++ toString total
      [debug ("Registered " ++ tally ++ " libclang functions")]

def failure? (library : String) (r : Registration T C) : Option Failure :=
  r.missing.map fun s => .symbolMissing (library ++ ": undefined symbol: " ++ s)

def outcome (library : String) (r : Registration T C) : Except Failure Nat :=
  match r.failure? library with
  | some f => .error f
  | none => .ok r.count

end Registration

end ClangIndex.Library
