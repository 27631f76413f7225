import ClangIndex.Number.Integer
import ClangIndex.Text.Literal

namespace ClangIndex.Tool

inductive SwitchKind
  | help
  | flag
  | value
  deriving DecidableEq, Repr

structure Switch where
  names : List String
  kind : SwitchKind
  deriving DecidableEq, Repr

def Switch.label (s : Switch) : String := "/".intercalate s.names

inductive Positionals
  | one (name : String)
  | many
  deriving DecidableEq, Repr

structure Grammar where
  program : String
  switches : List Switch
  positionals : Positionals
  usage : List String
  help : List String

inductive Misuse
  | ambiguous (word : String) (names : List String)
  | valueMissing (label : String)
  | valueIgnored (label value : String)
  | required (name : String)
  | unrecognized (words : List String)
  deriving DecidableEq, Repr

namespace Misuse

def message : Misuse → String
  | .ambiguous word names =>
    "ambiguous option: " ++ word ++ " could match " ++ ", ".intercalate names
  | .valueMissing label => "argument " ++ label ++ ": expected one argument"
  | .valueIgnored label value =>
    "argument " ++ label ++ ": ignored explicit argument " ++ Text.Literal.ofText value
  | .required name => "the following arguments are required: " ++ name
  | .unrecognized words => "unrecognized arguments: " ++ " ".intercalate words

end Misuse

inductive Stop
  | help
  | misuse (m : Misuse)
  deriving DecidableEq, Repr

inductive Word
  | plain
  | divider
  | switch (s : Switch) (joined : Option String)
  | unknown
  deriving DecidableEq, Repr

def divider : String := "--"

/-- The value of a switch. A divider is dropped from what a switch takes, and then no word is
left. -/
inductive Argument
  | word (s : String)
  | empty
  deriving DecidableEq, Repr, Inhabited

namespace Argument

def ofWord (s : String) : Argument := if s = divider then .empty else .word s

def word? : Argument → Option String
  | .word s => if s.isEmpty then none else some s
  | .empty => none

def shown : Argument → String
  | .word s => s
  | .empty => "[]"

end Argument

structure Given where
  values : List (Switch × Argument) := []
  flags : List Switch := []
  positionals : Option (List String) := none
  extras : List String := []
  deriving DecidableEq, Repr, Inhabited

namespace Given

def value? (g : Given) (s : Switch) : Option Argument :=
  (g.values.find? fun e => e.1 == s).map (·.2)

def has (g : Given) (s : Switch) : Bool := g.flags.contains s

end Given

namespace Grammar

def named? (g : Grammar) (name : String) : Option Switch :=
  g.switches.find? fun s => s.names.contains name

def names (g : Grammar) : List (String × Switch) :=
  g.switches.flatMap fun s => s.names.map fun n => (n, s)

def splitValue (word : String) : String × Option String :=
  let s := word.toList
  let name := s.takeWhile (· ≠ '=')
  match s.drop name.length with
  | [] => (word, none)
  | _ :: v => (String.ofList name, some (String.ofList v))

def isDigit (c : Char) : Bool := (Number.decimalDigit? c).isSome

/-- A minus with digits after it, a point before the last of them or not. -/
def isNegativeNumber (s : List Char) : Bool :=
  let s := if s.getLast? = some '\n' then s.dropLast else s
  match s with
  | '-' :: r =>
    (!r.isEmpty && r.all isDigit) ||
      match r.dropWhile isDigit with
      | '.' :: f => !f.isEmpty && f.all isDigit
      | _ => false
  | _ => false

def readings (g : Grammar) (word : String) : List (String × Switch × Option String) :=
  match word.toList with
  | '-' :: '-' :: _ =>
    let (start, joined) := splitValue word
    (g.names.filter fun e => start.toList.isPrefixOf e.1.toList).map fun e => (e.1, e.2, joined)
  | '-' :: c :: r =>
    g.names.filterMap fun (n, s) =>
      if n = String.ofList ['-', c] then some (n, s, some (String.ofList r))
      else if word.toList.isPrefixOf n.toList then some (n, s, none)
      else none
  | _ => []

def guess (g : Grammar) (word : String) : Except Misuse Word :=
  match g.readings word with
  | [(_, s, joined)] => .ok (.switch s joined)
  | [] =>
    if isNegativeNumber word.toList || word.toList.contains ' ' then .ok .plain else .ok .unknown
  | readings => .error (.ambiguous word (readings.map (·.1)))

def classify (g : Grammar) (word : String) : Except Misuse Word :=
  match word.toList with
  | '-' :: _ :: _ =>
    let (name, joined) := splitValue word
    match g.named? word, g.named? name with
    | some s, _ => .ok (.switch s none)
    | none, some s => .ok (.switch s joined)
    | none, none => g.guess word
  | _ => .ok .plain

def classifyAll (g : Grammar) : List String → Except Misuse (List (String × Word))
  | [] => .ok []
  | w :: ws =>
    if w = divider then .ok ((w, .divider) :: ws.map fun w => (w, .plain))
    else do
      let k ← g.classify w
      return (w, k) :: (← classifyAll g ws)

def isPositional (e : String × Word) : Bool := e.2 = .plain || e.2 = .divider

def isDivider (e : String × Word) : Bool := e.2 = .divider

def wordsOf (ws : List (String × Word)) : List String := ws.map fun e => e.1

def positionalWords (p : Positionals) (ws : List (String × Word)) : Option (List (String × Word)) :=
  match p with
  | .many => some (ws.takeWhile isPositional)
  | .one _ =>
    let before := ws.takeWhile isDivider
    match ws.drop before.length with
    | (w, .plain) :: r => some (before ++ (w, .plain) :: r.takeWhile isDivider)
    | _ => none

/-- Takes positionals, without the first divider. Once they are taken, later ones are extra. -/
def takePositionals (g : Grammar) (acc : Given) (ws : List (String × Word)) :
    Given × List (String × Word) :=
  match acc.positionals, positionalWords g.positionals ws with
  | none, some taken =>
    ({ acc with positionals := some ((wordsOf taken).erase divider) }, ws.drop taken.length)
  | _, _ => (acc, ws)

def raise (acc : Given) : List Switch → Except Stop Given
  | [] => .ok acc
  | s :: r => if s.kind = .help then .error .help else raise { acc with flags := s :: acc.flags } r

def setValue (acc : Given) (s : Switch) (v : String) : Given :=
  { acc with values := (s, .ofWord v) :: acc.values }

/-- The switches of a word: a switch and what is joined to it, which is its value or the letters of
further switches. A letter that names no switch makes the whole rest a value that is not taken. -/
def takeJoined (g : Grammar) (s : Switch) : List Char → Except Misuse (List Switch × Option String)
  | [] => .error (.valueIgnored s.label "")
  | c :: r =>
    if s.kind = .value then .ok ([s], some (String.ofList (c :: r)))
    else match g.named? (String.ofList ['-', c]) with
      | none => .error (.valueIgnored s.label (String.ofList (c :: r)))
      | some t =>
        if r.isEmpty then .ok ([s, t], none)
        else (g.takeJoined t r).map fun (ss, v) => (s :: ss, v)

def takeSwitch (g : Grammar) (acc : Given) (word : String) (s : Switch) (joined : Option String)
    (ws : List (String × Word)) : Except Stop (Given × List (String × Word)) := do
  let (switches, value) ← match joined with
    | none => pure ([s], none)
    | some v =>
      if s.kind = .value then pure ([s], some v)
      else if "--".toList.isPrefixOf word.toList then throw (.misuse (.valueIgnored s.label v))
      else (g.takeJoined s v.toList).mapError .misuse
  let last := switches.getLastD s
  if last.kind ≠ .value then return (← raise acc switches, ws)
  else match value, ws with
    | some v, _ => return (setValue (← raise acc switches.dropLast) last v, ws)
    | none, (v, .plain) :: r => return (setValue (← raise acc switches.dropLast) last v, r)
    | none, _ => throw (.misuse (.valueMissing last.label))

def consume (g : Grammar) : Nat → Given → List (String × Word) → Except Stop Given
  | 0, acc, _ => .ok acc
  | n + 1, acc, ws =>
    match ws with
    | (w, .switch s joined) :: r => do
      let (acc, r) ← g.takeSwitch acc w s joined r
      consume g n acc r
    | (w, .unknown) :: r => consume g n { acc with extras := acc.extras ++ [w] } r
    | _ =>
      let (acc, rest) := g.takePositionals acc ws
      if ws.all isPositional then .ok { acc with extras := acc.extras ++ wordsOf rest }
      else if rest.length < ws.length then consume g n acc rest
      else
        let extra := ws.takeWhile isPositional
        consume g n { acc with extras := acc.extras ++ wordsOf extra } (ws.drop extra.length)

def read (g : Grammar) (words : List String) : Except Stop Given := do
  let ws ← (g.classifyAll words).mapError .misuse
  let given ← g.consume (words.length + 1) {} ws
  match g.positionals, given.positionals with
  | .one name, none => throw (.misuse (.required name))
  | _, _ =>
    if given.extras.isEmpty then pure given else throw (.misuse (.unrecognized given.extras))

def complaint (g : Grammar) (m : Misuse) : List String :=
  g.usage ++ [g.program ++ ": error: " ++ m.message]

end Grammar

end ClangIndex.Tool
