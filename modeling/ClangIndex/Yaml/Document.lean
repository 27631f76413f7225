import ClangIndex.Yaml.Datum
import ClangIndex.Yaml.Node

/-!
The data of a whole document. The contents of a collection are read after the collection itself is
there, those of the outer ones first. A node that stands in several places is read once.
-/

namespace ClangIndex.Yaml

inductive Contents
  | items (xs : List Datum)
  | pairs (ps : List (Datum × Datum))
  | entries (es : List (Datum × Datum))
  deriving DecidableEq, Inhabited

inductive Collection
  | list
  | pairs
  | set
  | map
  deriving DecidableEq, Repr

namespace Collection

def ofName? (name : String) : Option Collection :=
  match name with
  | "seq" => some .list
  | "omap" | "pairs" => some .pairs
  | "set" => some .set
  | "map" => some .map
  | _ => none

def datum (id : NodeId) : Collection → Datum
  | .list | .pairs => .list id
  | .set => .set id
  | .map => .map id

end Collection

/-- A document under reading: its nodes, the data of those that were read, and the collections whose
contents are still to be read, the last one first. -/
structure Building where
  nodes : Array Node
  read : List (NodeId × Datum) := []
  contents : List (NodeId × Contents) := []
  waiting : List NodeId := []

abbrev Build := StateT Building (Except Refusal)

namespace Build

def node (id : NodeId) : Build Node := do return (← get).nodes.getD id .empty

def fault (f : Fault) : Build α := throw (.fault f)

def coreName? (tag : List Char) : Option String :=
  if Read.coreTags.isPrefixOf tag then some (String.ofList (tag.drop Read.coreTags.length))
  else none

def coreType? (tag : List Char) : Option ScalarType := (coreName? tag).bind Datum.typeOfTag?

def typeOf : Node → Option ScalarType
  | .plain s => some (ScalarType.ofPlain s)
  | .text _ => some .text
  | .tagged tag _ | .sequence (some tag) _ | .mapping (some tag) _ => coreType? tag
  | _ => none

def isMergeKey (v : Node) : Bool := typeOf v = some .merge

def isDefaultKey (v : Node) : Bool := typeOf v = some .default

def textTag : List Char := Read.coreTags ++ "str".toList

def asText : Node → Node
  | .plain s => .text (codes s)
  | .tagged _ s | .text s => .text s
  | .sequence _ ids => .sequence (some textTag) ids
  | .mapping _ es => .mapping (some textTag) es

def collection? : Node → Option Collection
  | .sequence none _ => some .list
  | .mapping none _ => some .map
  | .sequence (some tag) _ | .mapping (some tag) _ | .tagged tag _ =>
    (coreName? tag).bind Collection.ofName?
  | _ => none

/-- The text of a scalar. A mapping with a default key stands for the value under it. -/
def writtenText : Nat → NodeId → Build (List Nat)
  | 0, _ => fault .deep
  | n + 1, id => do
    match ← node id with
    | .plain s => return codes s
    | .text s | .tagged _ s => return s
    | .sequence .. => fault (.wrongKind "a scalar")
    | .mapping _ es => do
      let marked ← es.mapM fun e => return (isDefaultKey (← node e.1), e.2)
      match marked.find? (·.1) with
      | some (_, value) => writtenText n value
      | none => fault (.wrongKind "a scalar")

def scalar (t : ScalarType) (s : List Nat) : Except Refusal Datum :=
  if t = .text then .ok (.text s)
  else Datum.ofScalar t (s.map fun n =>
    if n.isValidChar then Char.ofNat n else Text.Utf8.replacement)

def entriesOf (id : NodeId) : Build (List (NodeId × NodeId)) := do
  match ← node id with
  | .mapping _ es => return es
  | _ => return []

def setEntries (id : NodeId) (es : List (NodeId × NodeId)) : Build Unit := do
  match ← node id with
  | .mapping tag _ =>
    modify fun b => { b with nodes := b.nodes.setIfInBounds id (.mapping tag es) }
  | _ => pure ()

def notMapping : Fault := .wrongKind "merge"

def isMapping : Node → Bool
  | .mapping .. => true
  | _ => false

mutual

/-- Replaces the merge keys of a mapping by the entries of the mappings under them, which come
before its own. A mapping inside itself adds nothing new. -/
def flatten : Nat → List NodeId → NodeId → Build Unit
  | 0, _, _ => fault notMapping
  | n + 1, around, id => do
    if around.contains id then return
    let es ← entriesOf id
    let marked ← es.mapM fun e => return (isMergeKey (← node e.1), e)
    let own := (marked.filter (!·.1)).map (·.2)
    for e in own do
      let k ← node e.1
      if isDefaultKey k then
        modify fun b => { b with nodes := b.nodes.setIfInBounds e.1 (asText k) }
    if marked.any (·.1) then
      setEntries id own
      let taken ← (marked.filter (·.1)).mapM fun (_, e) => merged n (id :: around) e.2
      setEntries id (taken.flatten ++ own)

/-- The entries under a merge key. Of several mappings the first one wins, so that its entries come
last. -/
def merged : Nat → List NodeId → NodeId → Build (List (NodeId × NodeId))
  | 0, _, _ => fault notMapping
  | n + 1, around, id => do
    match ← node id with
    | .mapping _ _ =>
      flatten n around id
      entriesOf id
    | .sequence _ ids => do
      let parts ← ids.mapM fun i => do
        if isMapping (← node i) then
          flatten n around i
          entriesOf i
        else fault notMapping
      return parts.reverse.flatten
    | _ => fault notMapping

end

def later (id : NodeId) (c : Collection) : Build Datum := do
  modify fun b => { b with waiting := id :: b.waiting }
  return c.datum id

def isScalar : Node → Bool
  | .sequence .. | .mapping .. => false
  | _ => true

def fresh (id : NodeId) : Build Datum := do
  let v ← node id
  match v with
  | .plain s => Datum.ofScalar (ScalarType.ofPlain s) s
  | .text s => return .text s
  | .sequence tag _ | .mapping tag _ => ofTag id v (tag.getD [])
  | .tagged tag _ => ofTag id v tag
where
  ofTag (id : NodeId) (v : Node) (tag : List Char) : Build Datum := do
    if let some c := collection? v then later id c
    else
      let text := do writtenText ((← get).nodes.size + 1) id
      match coreName? tag, coreType? tag with
      | some "binary", _ => Datum.ofBase64 (← text)
      | _, some .moment =>
        let s ← text
        if isScalar v then scalar .moment s else throw .notText
      | _, some t => scalar t (← text)
      | _, none => fault (.unknownTag (String.ofList tag))

def datum (id : NodeId) : Build Datum := do
  match (← get).read.find? fun e => e.1 == id with
  | some (_, d) => return d
  | none =>
    let d ← fresh id
    modify fun b => { b with read := (id, d) :: b.read }
    return d

def addEntry (es : List (Datum × Datum)) (e : NodeId × NodeId) : Build (List (Datum × Datum)) := do
  let k ← datum e.1
  if !k.isHashable then fault .unhashableKey
  else return Datum.put k (← datum e.2) es

def pair (id : NodeId) : Build (Datum × Datum) := do
  match ← node id with
  | .mapping _ [(k, v)] => return (← datum k, ← datum v)
  | _ => fault (.wrongKind "a pair")

def entriesData (id : NodeId) : Build (List (Datum × Datum)) := do
  flatten (2 * (← get).nodes.size + 2) [] id
  (← entriesOf id).foldlM addEntry []

def fill (id : NodeId) : Build Unit := do
  let v ← node id
  let contents : Contents ← match collection? v, v with
    | some .list, .sequence _ ids => .items <$> ids.mapM datum
    | some .pairs, .sequence _ ids => .pairs <$> ids.mapM pair
    | some .set, .mapping .. => (fun es => .items (es.map (·.1))) <$> entriesData id
    | some .map, .mapping .. => .entries <$> entriesData id
    | _, _ => fault (.wrongKind "a collection")
  modify fun b => { b with contents := (id, contents) :: b.contents }

def rounds : Nat → Build Unit
  | 0 => pure ()
  | n + 1 => do
    let waiting := (← get).waiting.reverse
    unless waiting.isEmpty do
      modify fun b => { b with waiting := [] }
      for id in waiting do fill id
      rounds n

end Build

structure Document where
  root : Datum := .null
  contents : List (Nat × Contents) := []
  deriving DecidableEq, Inhabited

namespace Document

def ofSource (source : Source) : Except Refusal Document := do
  match ← (Tree.ofSource? source).mapError .fault with
  | none => return {}
  | some t =>
    let m : Build Datum := do
      let d ← Build.datum t.root
      Build.rounds (t.nodes.size + 1)
      return d
    let (root, b) ← m.run { nodes := t.nodes }
    return { root, contents := b.contents }

def contentsOf (d : Document) (id : Nat) : Contents :=
  ((d.contents.find? fun c => c.1 == id).map (·.2)).getD (.items [])

def items (d : Document) (id : Nat) : List Datum :=
  match d.contentsOf id with
  | .items xs => xs
  | _ => []

def entries (d : Document) (id : Nat) : List (Datum × Datum) :=
  match d.contentsOf id with
  | .entries es => es
  | _ => []

def isEmpty (d : Document) (id : Nat) : Bool :=
  match d.contentsOf id with
  | .items xs => xs.isEmpty
  | .pairs ps => ps.isEmpty
  | .entries es => es.isEmpty

def truthy (d : Document) : Datum → Bool
  | .null => false
  | .bool b => b
  | .int n => n != 0
  | .float x => !x.isZero
  | .text s => !s.isEmpty
  | .bytes b => !b.isEmpty
  | .list id | .map id | .set id => !d.isEmpty id
  | _ => true

def members (d : Document) (id : Nat) : List Datum :=
  let xs := d.items id
  match xs.mapM fun x => x.wholeNumber?.map fun n => (n, x) with
  | some marked => (marked.mergeSort fun a b => a.1 ≤ b.1).map (·.2)
  | none => xs

inductive Unshown
  | manyDigits
  | deep
  deriving DecidableEq, Repr

def shownIn (d : Document) : Nat → List Nat → Datum → Except Unshown String
  | 0, _, _ => .error .deep
  | n + 1, around, v =>
    match v with
    | .null => .ok "None"
    | .bool b => .ok (Text.Literal.ofBool b)
    | .int k => (Number.writeInteger? k).elim (.error .manyDigits) .ok
    | .float x => .ok (String.ofList x.text)
    | .text s => .ok (Text.Literal.ofCodes s)
    | .bytes b => .ok (Text.Literal.ofBytes b)
    | .date y m k =>
      .ok ("datetime.date(" ++ ", ".intercalate ([y, m, k].map toString) ++ ")")
    | .moment m => .ok m.literal
    | .list id =>
      if around.contains id then .ok "[...]"
      else do
        let shown ← match d.contentsOf id with
          | .items xs => xs.mapM (d.shownIn n (id :: around))
          | .pairs es | .entries es => es.mapM fun (k, v) => do
            let k ← d.shownIn n (id :: around) k
            let v ← d.shownIn n (id :: around) v
            return "(" ++ k ++ ", " ++ v ++ ")"
        return Text.Literal.ofItems shown
    | .set id =>
      match d.members id with
      | [] => .ok "set()"
      | xs => return Text.Literal.ofEntries (← xs.mapM (d.shownIn n around))
    | .map id =>
      if around.contains id then .ok (Text.Literal.ofEntries ["..."])
      else do
        let shown ← (d.entries id).mapM fun (k, v) => do
          let k ← d.shownIn n around k
          let v ← d.shownIn n (id :: around) v
          return k ++ ": " ++ v
        return Text.Literal.ofEntries shown

/-- So deep may a datum be that is shown. Aliases make it deeper than its text is nested. -/
def deepest : Nat := 900

def shown (d : Document) (v : Datum) : Except Unshown String := d.shownIn deepest [] v

def literal (d : Document) (v : Datum) : Option String := (d.shown v).toOption

end Document

end ClangIndex.Yaml
