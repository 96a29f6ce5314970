import ServiceCli.Yaml.Node

set_option autoImplicit false
set_option relaxedAutoImplicit false

namespace ServiceCli.Yaml

namespace Graph

def tag (graph : Graph) (id : NodeId) : Tag := (graph.node id).tag

/-- The entries of a mapping; a node of another kind has none. -/
def entries (graph : Graph) (id : NodeId) : NodeEntries :=
  match (graph.node id).content with
  | .mapping entries => entries
  | _ => []

def isMapping (graph : Graph) (id : NodeId) : Bool :=
  match (graph.node id).content with
  | .mapping _ => true
  | _ => false

/-- The graph with other entries in a mapping. -/
def withEntries (graph : Graph) (id : NodeId) (entries : NodeEntries) : Graph :=
  graph.modify id fun node => { node with content := .mapping entries }

/-- The graph in which a default key is a text like others. -/
def withPlainKey (graph : Graph) (key : NodeId) : Graph :=
  graph.modify key fun node => if node.tag = .default then { node with tag := .text } else node

/-- Whether an entry takes over the entries of another mapping. -/
def isMerge (graph : Graph) (entry : NodeId × NodeId) : Bool := graph.tag entry.1 = .merge

/-- The number of merge entries, which bounds how often mappings are taken over. -/
def mergeCount (graph : Graph) : Nat :=
  (graph.toList.map fun node => match node.content with
    | .mapping entries => entries.countP graph.isMerge
    | _ => 0).foldl (· + ·) 0

end Graph

/-- A step that carries out merges. -/
abbrev Merging (α : Type) := StateT Graph Reading α

namespace Merging

/-- Takes the first merge entry out of a mapping; gives the node that it names. -/
def takeMerge (id : NodeId) : Merging (Option NodeId) := do
  let graph ← get
  let entries := graph.entries id
  match entries.find? graph.isMerge with
  | none => return none
  | some merge =>
    let before := entries.takeWhile fun entry => !graph.isMerge entry
    set (graph.withEntries id (before ++ entries.drop (before.length + 1)))
    return some merge.2

/-- Puts what a mapping takes over before what is written in it; gives all its entries. -/
def settle (id : NodeId) (taken : NodeEntries) : Merging NodeEntries := do
  let graph ← get
  let entries := taken ++ graph.entries id
  set (entries.foldl (fun graph entry => graph.withPlainKey entry.1) (graph.withEntries id entries))
  return entries

/-- The entries that a mapping takes over. -/
def takenBy : Nat → NodeId → Merging NodeEntries
  | 0, _ => return []
  | fuel + 1, id => do
    -- the merge entry is taken out first, so that a mapping which takes over itself comes to an end
    match ← takeMerge id with
    | none => return []
    | some source =>
      let merged (mapping : NodeId) : Merging NodeEntries := do
        require ((← get).isMapping mapping)
        settle mapping (← takenBy fuel mapping)
      -- of several mappings the last one comes first, so that the first one wins
      let here ← match ((← get).node source).content with
        | .sequence items => pure (← items.mapM merged).reverse.flatten
        | _ => merged source
      return here ++ (← takenBy fuel id)

/-- The entries of a mapping after everything that it takes over was put into it; there are less
than `bound` merge entries. -/
def allEntries (bound : Nat) (id : NodeId) : Merging NodeEntries := do
  require ((← get).isMapping id)
  settle id (← takenBy bound id)

end Merging

end ServiceCli.Yaml
