import ClangIndex.Yaml.Token

/-!
The nodes of a document. A node is a scalar, a sequence or a mapping; an alias is the node that has
its anchor, so that a node may stand in several places, and inside itself. A mapping key or value
that is left out is an empty scalar.
-/

namespace ClangIndex.Yaml

abbrev NodeId := Nat

inductive Node
  | plain (text : List Char)
  | text (codes : List Nat)
  | tagged (tag : List Char) (codes : List Nat)
  | sequence (tag : Option (List Char)) (items : List NodeId)
  | mapping (tag : Option (List Char)) (entries : List (NodeId × NodeId))
  deriving Inhabited

namespace Node

def empty : Node := .plain []

def openTag : List Char := ['!']

def ofPlain (tag : Option (List Char)) (text : List Char) : Node :=
  match tag with
  | none => .plain text
  | some t => if t = openTag then .plain text else .tagged t (codes text)

def ofQuoted (tag : Option (List Char)) (codes : List Nat) : Node :=
  match tag with
  | none => .text codes
  | some t =>
    if t ≠ openTag then .tagged t codes
    else if codes.all fun n => n.isValidChar then .plain (codes.map Char.ofNat)
    else .text codes

def said (tag : Option (List Char)) : Option (List Char) := tag.filter (· != openTag)

end Node

structure Reading where
  tokens : List Token
  fault : Option Fault := none
  handles : List (List Char × List Char) := []
  nodes : Array Node := #[]
  anchors : List (List Char × NodeId) := []

abbrev Read := StateT Reading (Except Fault)

namespace Read

/-- The next token. A fault that stands in its place counts when the token is asked for. -/
def peek : Read Token := do
  let r ← get
  match r.tokens, r.fault with
  | t :: _, _ => return t
  | [], none => return .streamEnd
  | [], some f => throw f

def next : Read Unit := modify fun r => { r with tokens := r.tokens.tail }

def add (v : Node) : Read NodeId := do
  let id := (← get).nodes.size
  modify fun r => { r with nodes := r.nodes.push v }
  return id

def set (id : NodeId) (v : Node) : Read Unit :=
  modify fun r => { r with nodes := r.nodes.setIfInBounds id v }

def expect (t : Token) (what : String) : Read Unit := do
  if (← peek) = t then next else throw (.unexpected what)

def accept (t : Token) : Read Bool := do
  if (← peek) = t then next; return true else return false

def absent (ends : List Token) : Read Bool := do return ends.contains (← peek)

def coreTags : List Char := "tag:yaml.org,2002:".toList

def defaultHandles : List (List Char × List Char) := [(['!'], ['!']), (['!', '!'], coreTags)]

structure Heading where
  versioned : Bool := false
  handles : List (List Char × List Char) := []

def Heading.add (h : Heading) : Directive → Except Fault Heading
  | .version major _ =>
    if h.versioned || major != 1 then .error (.badIndicator "a version")
    else .ok { h with versioned := true }
  | .tag handle start =>
    if h.handles.any fun e => e.1 == handle then .error (.badIndicator "a handle")
    else .ok { h with handles := (handle, start) :: h.handles }
  | .other => .ok h

def heading : Nat → Heading → Read Heading
  | 0, h => return h
  | n + 1, h => do
    match ← peek with
    | .directive d =>
      let h ← h.add d
      next
      heading n h
    | _ => return h

def anchored? (name : List Char) : Read (Option NodeId) := do
  return ((← get).anchors.find? fun e => e.1 == name).map (·.2)

def bind (anchor : Option (List Char)) (v : NodeId) : Read Unit :=
  match anchor with
  | none => pure ()
  | some name => modify fun r => { r with anchors := (name, v) :: r.anchors }

def checkNew (anchor : Option (List Char)) : Read Unit := do
  if let some name := anchor then
    if (← anchored? name).isSome then throw (.duplicateAnchor (String.ofList name))

def addNew (anchor : Option (List Char)) (v : Node) : Read NodeId := do
  checkNew anchor
  let id ← add v
  bind anchor id
  return id

def tagOf (handle : Option (List Char)) (suffix : List Char) : Read (List Char) := do
  match handle with
  | none => return suffix
  | some h =>
    match (← get).handles.find? fun e => e.1 == h with
    | some (_, start) => return start ++ suffix
    | none => throw (.undefinedHandle (String.ofList h))

def anchor? : Read (Option (List Char)) := do
  match ← peek with
  | .anchor name => next; return some name
  | _ => return none

def tag? : Read (Option (Option (List Char) × List Char)) := do
  match ← peek with
  | .tag handle suffix => next; return some (handle, suffix)
  | _ => return none

def properties : Read (Option (List Char) × Option (List Char)) := do
  let anchor ← anchor?
  let tag ← tag?
  let anchor ← match anchor with
    | some _ => pure anchor
    | none => if tag.isSome then anchor? else pure none
  match tag with
  | none => return (anchor, none)
  | some (handle, suffix) => return (anchor, some (← tagOf handle suffix))

def entryEnds : List Token := [.flowEntry, .flowSequenceEnd]

def pairEnds : List Token := [.flowEntry, .flowMappingEnd]

def blockEnds : List Token := [.key, .value, .blockEnd]

/-- Nodes are nested no deeper than this. -/
def greatestDepth : Nat := 486

mutual

/-- A node: `block` where blocks may start, `indentless` where a sequence may stand at the
indentation of its key. -/
def node : Nat → Nat → Bool → Bool → Read NodeId
  | 0, _, _, _ => throw (.unexpected "node content")
  | n + 1, depth, block, indentless => do
    if greatestDepth < depth then throw .deep
    match ← peek with
    | .alias name =>
      next
      match ← anchored? name with
      | some v => return v
      | none => throw (.undefinedAlias (String.ofList name))
    | _ => do
      let (anchor, tag) ← properties
      match ← peek with
      | .plain text => next; addNew anchor (.ofPlain tag text)
      | .quoted codes => next; addNew anchor (.ofQuoted tag codes)
      | .flowSequenceStart => sequence anchor tag (flowItems n depth true)
      | .flowMappingStart => mapping anchor tag (flowPairs n depth true)
      | t =>
        if t = .blockEntry && indentless then
          items anchor tag (indentlessItems n depth)
        else if t = .blockSequenceStart && block then sequence anchor tag (blockItems n depth)
        else if t = .blockMappingStart && block then mapping anchor tag (blockPairs n depth)
        else if anchor.isSome || tag.isSome then addNew anchor (.ofPlain tag [])
        else throw (.unexpected "node content")
where
  items (anchor tag : Option (List Char)) (read : Read (List NodeId)) : Read NodeId := do
    let tag := Node.said tag
    let id ← addNew anchor (.sequence tag [])
    set id (.sequence tag (← read))
    return id
  sequence (anchor tag : Option (List Char)) (read : Read (List NodeId)) : Read NodeId :=
    items anchor tag (do next; read)
  mapping (anchor tag : Option (List Char)) (pairs : Read (List (NodeId × NodeId))) :
      Read NodeId := do
    let tag := Node.said tag
    let id ← addNew anchor (.mapping tag [])
    next
    set id (.mapping tag (← pairs))
    return id

def nodeUnless : Nat → Nat → List Token → Bool → Bool → Read NodeId
  | 0, _, _, _, _ => throw (.unexpected "node content")
  | n + 1, depth, ends, block, indentless => do
    if ← absent ends then add .empty else node n (depth + 1) block indentless

def blockItems : Nat → Nat → Read (List NodeId)
  | 0, _ => throw (.unexpected "block end")
  | n + 1, depth => do
    if ← accept .blockEntry then
      let v ← nodeUnless n depth [.blockEntry, .blockEnd] true false
      return v :: (← blockItems n depth)
    else
      expect .blockEnd "block end"
      return []

def indentlessItems : Nat → Nat → Read (List NodeId)
  | 0, _ => throw (.unexpected "block end")
  | n + 1, depth => do
    if ← accept .blockEntry then
      let v ← nodeUnless n depth (.blockEntry :: blockEnds) true false
      return v :: (← indentlessItems n depth)
    else return []

def blockPairs : Nat → Nat → Read (List (NodeId × NodeId))
  | 0, _ => throw (.unexpected "block end")
  | n + 1, depth => do
    if ← accept .key then
      let k ← nodeUnless n depth blockEnds true true
      let v ← if ← accept .value then nodeUnless n depth blockEnds true true else add .empty
      return (k, v) :: (← blockPairs n depth)
    else
      expect .blockEnd "block end"
      return []

def flowItems : Nat → Nat → Bool → Read (List NodeId)
  | 0, _, _ => throw (.unexpected "sequence end")
  | n + 1, depth, first => do
    if ← accept .flowSequenceEnd then return []
    unless first do expect .flowEntry "comma or sequence end"
    if ← accept .flowSequenceEnd then return []
    if ← accept .key then
      let pair ← add (.mapping none [])
      let k ← nodeUnless n (depth + 1) (.value :: entryEnds) false false
      let v ← if ← accept .value then nodeUnless n (depth + 1) entryEnds false false else add .empty
      set pair (.mapping none [(k, v)])
      return pair :: (← flowItems n depth false)
    else
      let v ← node n (depth + 1) false false
      return v :: (← flowItems n depth false)

def flowPairs : Nat → Nat → Bool → Read (List (NodeId × NodeId))
  | 0, _, _ => throw (.unexpected "mapping end")
  | n + 1, depth, first => do
    if ← accept .flowMappingEnd then return []
    unless first do expect .flowEntry "comma or mapping end"
    if ← accept .flowMappingEnd then return []
    if ← accept .key then
      let k ← nodeUnless n depth (.value :: pairEnds) false false
      let v ← if ← accept .value then nodeUnless n depth pairEnds false false else add .empty
      return (k, v) :: (← flowPairs n depth false)
    else
      let k ← node n (depth + 1) false false
      return (k, ← add .empty) :: (← flowPairs n depth false)

end

def isDirective : Token → Bool
  | .directive _ => true
  | _ => false

def isBare (t : Token) : Bool := !(isDirective t || t = .documentStart || t = .streamEnd)

/-- Whether a marker follows another at once, so that the document between them is empty. -/
def endsDocument (t : Token) : Bool :=
  isDirective t || t = .documentStart || t = .documentEnd || t = .streamEnd

def passEnds : Nat → Read Unit
  | 0 => pure ()
  | n + 1 => do if ← accept .documentEnd then passEnds n

def documentStart (fuel : Nat) : Read Unit := do
  let h ← heading fuel {}
  modify fun r => { r with handles := h.handles ++ defaultHandles }
  expect .documentStart "document start"

def document (fuel : Nat) : Read (Option NodeId) := do
  let first ← peek
  if isBare first then
    modify fun r => { r with handles := defaultHandles }
    let content ← node fuel 0 true false
    finish content
  else if first = .streamEnd then return none
  else
    documentStart fuel
    let content ← if endsDocument (← peek) then add .empty else node fuel 0 true false
    finish content
where
  finish (content : NodeId) : Read (Option NodeId) := do
    passEnds fuel
    if (← peek) = .streamEnd then return some content
    else
      documentStart fuel
      throw .severalDocuments

end Read

structure Tree where
  nodes : Array Node
  root : NodeId

def Tree.ofSource? (source : Source) : Except Fault (Option Tree) := do
  let tokens := Tokens.ofSource source
  let (root, r) ← (Read.document (3 * tokens.list.length + 8)).run {
    tokens := tokens.list, fault := tokens.fault }
  pure (root.map fun root => ⟨r.nodes, root⟩)

end ClangIndex.Yaml
