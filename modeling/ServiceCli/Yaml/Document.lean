import ServiceCli.Yaml.Atom
import ServiceCli.Yaml.Lexer
import ServiceCli.Yaml.Merge

/-!
Documents: the values that nodes stand for. A node stands for one thing however often it is named.
Containers are filled in the order in which they were met, so where several nodes stand for no
value, the one nearer to the top decides.
-/

set_option autoImplicit false
set_option relaxedAutoImplicit false

namespace ServiceCli.Yaml

open ServiceCli.Data

/-- A key of a container. Not-a-number equals no other one: `origin` is the node that it stands
for, or none where it is written as such, which is always the same one. -/
structure DistinctKey where
  atom : Scalar
  origin : Option NodeId

def DistinctKey.same (a b : DistinctKey) : Bool :=
  a.atom.same b.atom
    || (a.atom = .float .nan && b.atom = .float .nan && a.origin = b.origin)

/-- What a node stands for. -/
inductive Meaning where
  | atom (key : DistinctKey)
  | list (items : List NodeId)
  | pairs (items : NodeEntries)
  | map (entries : List (DistinctKey × NodeId))
  | set (members : List DistinctKey)

def Meaning.key? : Meaning → Option DistinctKey
  | .atom key => some key
  | _ => none

/-- The container that a node with a tag stands for before it is filled. -/
def emptyContainer? : Tag → Option Meaning
  | .sequence => some (.list [])
  | .orderedMapping => some (.pairs [])
  | .pairs => some (.pairs [])
  | .mapping => some (.map [])
  | .set => some (.set [])
  | _ => none

/-- Entries with a value put under a key: an entry of an equal key keeps its place and its key. -/
def putEntry (entries : List (DistinctKey × NodeId)) (key : DistinctKey) (value : NodeId) :
    List (DistinctKey × NodeId) :=
  match entries with
  | [] => [(key, value)]
  | (k, v) :: rest => if k.same key then (k, value) :: rest else (k, v) :: putEntry rest key value

/-- The text that a node gives for an atom: its own, or the one under its default key. -/
def Graph.text (graph : Graph) : Nat → NodeId → Reading String
  | 0, _ => faulted .endlessNesting
  | levels + 1, id =>
    match (graph.node id).content with
    | .scalar text => .ok text
    | .sequence _ => malformed
    | .mapping entries =>
      match entries.find? fun entry => graph.tag entry.1 = .default with
      | some (_, value) => graph.text levels value
      | none => malformed

/-- The atom that a node stands for when its tag makes one of its text. -/
def Graph.atom (graph : Graph) (id : NodeId) (make : String → Reading Scalar) :
    Reading DistinctKey := do
  let text ← graph.text (graph.size + 1) id
  if graph.tag id = .timestamp && graph.isMapping id then faulted .wrongKind
  let atom ← make text
  return ⟨atom, if isNotANumber text then none else some id⟩

/-- The work on a document: its nodes, with less than `bound` merge entries; what they stand for,
as far as that is known; and the containers that wait to be filled, the last one first. -/
structure Work where
  graph : Graph
  bound : Nat
  meanings : Array (Option Meaning)
  waiting : List NodeId

abbrev Working (α : Type) := StateT Work Reading α

namespace Working

def tell (id : NodeId) (meaning : Meaning) : Working Unit :=
  modify fun w => { w with meanings := w.meanings.setIfInBounds id (some meaning) }

/-- What a node stands for; a container is empty at first and waits to be filled. -/
def meet (id : NodeId) : Working Meaning := do
  let w ← get
  match w.meanings.getD id none with
  | some meaning => return meaning
  | none =>
    let tag := w.graph.tag id
    match atomOf? tag, emptyContainer? tag with
    | some make, _ =>
      let key ← w.graph.atom id make
      tell id (.atom key)
      return .atom key
    | none, some empty =>
      tell id empty
      modify fun w => { w with waiting := id :: w.waiting }
      return empty
    | none, none => malformed

/-- The entries of a mapping, merges being carried out. -/
def mergedEntries (id : NodeId) : Working NodeEntries := do
  let w ← get
  let (entries, graph) ← (Merging.allEntries w.bound id).run w.graph
  set { w with graph := graph }
  return entries

/-- The entries of a container with keys; the last value of equal keys stays. -/
def keyedEntries (id : NodeId) : Working (List (DistinctKey × NodeId)) := do
  (← mergedEntries id).foldlM (fun done (key, value) => do
    match (← meet key).key? with
    | none => malformed
    | some key =>
      let _ ← meet value
      return putEntry done key value) []

def itemsOf (id : NodeId) : Working (List NodeId) := do
  match ((← get).graph.node id).content with
  | .sequence items => return items
  | _ => malformed

/-- The pair that an item of a list of pairs is: a mapping with one entry. -/
def pairOf (id : NodeId) : Working (NodeId × NodeId) := do
  match (← get).graph.entries id with
  | [(key, value)] =>
    let _ ← meet key
    let _ ← meet value
    return (key, value)
  | _ => malformed

def fill (id : NodeId) : Working Unit := do
  match ← meet id with
  | .atom _ => return ()
  | .list _ =>
    let items ← itemsOf id
    items.forM fun item => discard (meet item)
    tell id (.list items)
  | .pairs _ => tell id (.pairs (← (← itemsOf id).mapM pairOf))
  | .map _ => tell id (.map (← keyedEntries id))
  | .set _ => tell id (.set ((← keyedEntries id).map (·.1)))

/-- Fills the containers that wait, and then those that were met meanwhile. Each node waits at most
once, so there are no more rounds than nodes. -/
def fillAll : Nat → Working Unit
  | 0 => return ()
  | rounds + 1 => do
    match (← get).waiting.reverse with
    | [] => return ()
    | ids =>
      modify fun w => { w with waiting := [] }
      ids.forM fill
      fillAll rounds

end Working

def valueOf (meanings : Array (Option Meaning)) : Nat → NodeId → Option Value
  | 0, _ => none
  | levels + 1, id => do
    let value := valueOf meanings levels
    match ← meanings.getD id none with
    | .atom key => return .atom key.atom
    | .list items => return .list (← items.mapM value)
    | .pairs items =>
      return .list (← items.mapM fun (key, item) => do return .tuple [← value key, ← value item])
    | .map entries =>
      return .map (← entries.mapM fun (key, item) => do return (.atom key.atom, ← value item))
    | .set members => return .set (members.map fun key => .atom key.atom)

/-- A container of the kind of a meaning, without what is in it. -/
def Meaning.outline : Meaning → Value
  | .atom key => .atom key.atom
  | .list _ => .list []
  | .pairs _ => .list []
  | .map _ => .map []
  | .set _ => .set []

/-- What a text holds: nothing, a value, or data without end, of which only the outermost container
can be told. -/
inductive Document where
  | empty
  | finite (value : Value)
  | endless (outline : Value)

def Document.ofGraph (graph : Graph) : Reading Document := do
  let root : NodeId := 0
  let work : Work := ⟨graph, graph.mergeCount + 1, Array.replicate graph.size none, []⟩
  let all : Working Meaning := do
    let meaning ← Working.meet root
    Working.fillAll graph.size
    return meaning
  let (outermost, done) ← all.run work
  match valueOf done.meanings (graph.size + 1) root with
  | some value => return .finite value
  | none => return .endless outermost.outline

def Document.read (text : String) : Reading Document := do
  require (text.toList.all isAdmitted)
  match ← Graph.ofTokens? (tokensOf text.toList) with
  | none => return .empty
  | some graph => Document.ofGraph graph

end ServiceCli.Yaml
