import ServiceCli.Yaml.Tag
import ServiceCli.Yaml.Token

/-!
Nodes: what the tokens of a document describe. Nodes are told apart by number, and an alias is the
number of the node that it names, so a node may lie inside itself. Nodes may be nested as deep as a
text goes, as in JSON.
-/

set_option autoImplicit false
set_option relaxedAutoImplicit false

namespace ServiceCli.Yaml

/-- The number of a node: how many nodes of the document begin before it. -/
abbrev NodeId := Nat

/-- The keys and the values of a mapping. -/
abbrev NodeEntries := List (NodeId × NodeId)

/-- What is written in a node. -/
inductive Content where
  | scalar (text : String)
  | sequence (items : List NodeId)
  | mapping (entries : NodeEntries)
  deriving DecidableEq, Repr

/-- A node: its kind and what is written in it. -/
structure Node where
  tag : Tag
  content : Content
  deriving DecidableEq, Repr

def Node.absent : Node := ⟨.null, .scalar ""⟩

/-- The nodes of a document by number; the first one holds the others. -/
abbrev Graph := Array Node

def Graph.node (graph : Graph) (id : NodeId) : Node := graph.getD id .absent

/-- What is left of the tokens, the anchors so far with the nodes that they name, and the nodes so
far. -/
structure Progress where
  tokens : List Token
  anchors : List (String × NodeId)
  nodes : Graph

/-- A step that reads tokens. -/
abbrev Grammar (α : Type) := StateT Progress Reading α

namespace Grammar

def refuse {α : Type} : Grammar α := fun _ => malformed

/-- The next token. Where the text could not be divided further, that is refused. -/
def peek : Grammar Token := fun s =>
  match s.tokens with
  | [] => .ok (.streamEnd, s)
  | .halt cause :: _ => .error cause
  | t :: _ => .ok (t, s)

def drop : Grammar Unit := fun s => .ok ((), { s with tokens := s.tokens.drop 1 })

def isNext (tokens : List Token) : Grammar Bool := do return tokens.contains (← peek)

def expect (t : Token) : Grammar Unit := do
  if (← peek) = t then drop else refuse

/-- The number of a node that begins here; what is written in it is told later. -/
def begin : Grammar NodeId :=
  modifyGet fun s => (s.nodes.size, { s with nodes := s.nodes.push .absent })

def write (id : NodeId) (node : Node) : Grammar Unit :=
  modify fun s => { s with nodes := s.nodes.setIfInBounds id node }

def add (node : Node) : Grammar NodeId := do
  let id ← begin
  write id node
  return id

/-- Names a node by an anchor, which may occur once. -/
def nameNode (anchor : Option String) (id : NodeId) : Grammar Unit := do
  match anchor with
  | none => return ()
  | some name =>
    let s ← get
    if (s.anchors.lookup name).isSome then refuse
    else set { s with anchors := (name, id) :: s.anchors }

def aliased (name : String) : Grammar NodeId := do
  match (← get).anchors.lookup name with
  | some id => return id
  | none => refuse

end Grammar

/-- What is written before the content of a node. -/
structure Properties where
  anchor : Option String
  tag : Option (Option String × String)

namespace Grammar

def takeAnchor : Grammar (Option String) := do
  match ← peek with
  | .anchor name => do
    drop
    return some name
  | _ => return none

/-- A tag, where one is written. -/
def takeTag : Grammar (Option (Option String × String)) := do
  match ← peek with
  | .tag handle suffix => do
    drop
    return some (handle, suffix)
  | _ => return none

/-- The anchor and the tag of a node, in either order. -/
def properties : Grammar Properties := do
  match ← takeAnchor with
  | some name => return ⟨some name, ← takeTag⟩
  | none => do
    let tag ← takeTag
    let anchor ← if tag.isSome then takeAnchor else pure none
    return ⟨anchor, tag⟩

end Grammar

/-- What the handles of tags stand for. -/
abbrev Handles := List (String × String)

def commonHandles : Handles := [("!", "!"), ("!!", knownTags)]

/-- The tag that says nothing about the kind of a node. -/
def openTag : String := "!"

def tagName (handles : Handles) : Option String × String → Grammar String
  | (none, suffix) => pure suffix
  | (some handle, suffix) => match handles.lookup handle with
    | some expansion => pure (expansion ++ suffix)
    | none => Grammar.refuse

def tagNameOf (handles : Handles) : Option (Option String × String) → Grammar (Option String)
  | none => pure none
  | some tag => do return some (← tagName handles tag)

def scalarTag (name : Option String) (text : String) (plain : Bool) : Tag :=
  match name with
  | none => if plain then .ofPlain text else .text
  | some name => if name = openTag then .ofPlain text else .ofName name

/-- The tag of a node that has parts; `usual` is the one that needs not be written. -/
def partedTag (name : Option String) (usual : Tag) : Tag :=
  match name with
  | none => usual
  | some name => if name = openTag then usual else .ofName name

/-- Where a node may stand: inside brackets; in a block; or as key or value of a block mapping,
where a sequence needs no indentation of its own. -/
inductive Position where
  | flow
  | block
  | part
  deriving DecidableEq, Repr

namespace Grammar

def comma (first : Bool) : Grammar Unit := if first then pure () else expect .flowEntry

mutual
def node (handles : Handles) (position : Position) : Nat → Grammar NodeId
  | 0 => refuse
  | fuel + 1 => do
    match ← peek with
    | .alias name => do
      drop
      aliased name
    | _ => do
      let given ← properties
      let name ← tagNameOf handles given.tag
      let _ ← peek
      let id ← begin
      nameNode given.anchor id
      write id (← content handles position given name fuel)
      return id
def content (handles : Handles) (position : Position) (given : Properties)
    (name : Option String) : Nat → Grammar Node
  | 0 => refuse
  | fuel + 1 => do
    match ← peek, position with
    | .blockEntry, .part =>
      return ⟨partedTag name .sequence, .sequence (← looseItems handles fuel)⟩
    | .scalar text plain, _ => do
      drop
      return ⟨scalarTag name text plain, .scalar text⟩
    | .flowSequenceStart, _ => do
      drop
      return ⟨partedTag name .sequence, .sequence (← flowItems handles true fuel)⟩
    | .flowMappingStart, _ => do
      drop
      return ⟨partedTag name .mapping, .mapping (← flowEntries handles true fuel)⟩
    | next, position =>
      if position != .flow && next = .blockSequenceStart then do
        drop
        return ⟨partedTag name .sequence, .sequence (← blockItems handles fuel)⟩
      else if position != .flow && next = .blockMappingStart then do
        drop
        return ⟨partedTag name .mapping, .mapping (← blockEntries handles fuel)⟩
      else if given.anchor.isSome || given.tag.isSome then
        return ⟨scalarTag name "" true, .scalar ""⟩
      else refuse
/-- A node, or none where one of some tokens comes next. -/
def optionalNode (handles : Handles) (position : Position) (ends : List Token) :
    Nat → Grammar NodeId
  | 0 => refuse
  | fuel + 1 => do
    if ← isNext ends then add .absent else node handles position fuel
/-- The items of a block sequence up to the end of the block. -/
def blockItems (handles : Handles) : Nat → Grammar (List NodeId)
  | 0 => refuse
  | fuel + 1 => do
    if ← isNext [.blockEntry] then
      drop
      let item ← optionalNode handles .block [.blockEntry, .blockEnd] fuel
      return item :: (← blockItems handles fuel)
    else
      expect .blockEnd
      return []
/-- The items of a sequence that has no block of its own. -/
def looseItems (handles : Handles) : Nat → Grammar (List NodeId)
  | 0 => refuse
  | fuel + 1 => do
    if ← isNext [.blockEntry] then
      drop
      let item ← optionalNode handles .block [.blockEntry, .key, .value, .blockEnd] fuel
      return item :: (← looseItems handles fuel)
    else return []
/-- The entries of a block mapping up to the end of the block. -/
def blockEntries (handles : Handles) : Nat → Grammar NodeEntries
  | 0 => refuse
  | fuel + 1 => do
    if ← isNext [.key] then
      drop
      let key ← optionalNode handles .part [.key, .value, .blockEnd] fuel
      let value ← valueOf handles .part [.key, .value, .blockEnd] fuel
      return (key, value) :: (← blockEntries handles fuel)
    else
      expect .blockEnd
      return []
def valueOf (handles : Handles) (position : Position) (ends : List Token) : Nat → Grammar NodeId
  | 0 => refuse
  | fuel + 1 => do
    if ← isNext [.value] then
      drop
      optionalNode handles position ends fuel
    else add .absent
/-- The items of a bracketed sequence; one with a key is a mapping of one entry. -/
def flowItems (handles : Handles) (first : Bool) : Nat → Grammar (List NodeId)
  | 0 => refuse
  | fuel + 1 => do
    if ← isNext [.flowSequenceEnd] then
      drop
      return []
    comma first
    if ← isNext [.key] then
      drop
      let id ← begin
      let key ← optionalNode handles .flow [.value, .flowEntry, .flowSequenceEnd] fuel
      let value ← valueOf handles .flow [.flowEntry, .flowSequenceEnd] fuel
      write id ⟨.mapping, .mapping [(key, value)]⟩
      return id :: (← flowItems handles false fuel)
    else if ← isNext [.flowSequenceEnd] then
      drop
      return []
    else
      let item ← node handles .flow fuel
      return item :: (← flowItems handles false fuel)
/-- The entries of a bracketed mapping; a node that is not marked as key has no value. -/
def flowEntries (handles : Handles) (first : Bool) : Nat → Grammar NodeEntries
  | 0 => refuse
  | fuel + 1 => do
    if ← isNext [.flowMappingEnd] then
      drop
      return []
    comma first
    if ← isNext [.key] then
      drop
      let key ← optionalNode handles .flow [.value, .flowEntry, .flowMappingEnd] fuel
      let value ← valueOf handles .flow [.flowEntry, .flowMappingEnd] fuel
      return (key, value) :: (← flowEntries handles false fuel)
    else if ← isNext [.flowMappingEnd] then
      drop
      return []
    else
      let key ← node handles .flow fuel
      return (key, ← add .absent) :: (← flowEntries handles false fuel)
end

/-- The directives before a document: at most one version, which must be the first major one, and
handles, each defined once. -/
def directives (versioned : Bool) (handles : Handles) : Nat → Grammar Handles
  | 0 => refuse
  | fuel + 1 => do
    match ← peek with
    | .directive (.version major) => do
      drop
      if versioned || major != 1 then refuse else directives true handles fuel
    | .directive (.handle name expansion) => do
      drop
      if (handles.lookup name).isSome then refuse
      else directives versioned ((name, expansion) :: handles) fuel
    | .directive .unknown => do
      drop
      directives versioned handles fuel
    | _ => return handles

/-- The content of a document; it may be empty after the mark of its start. -/
def documentContent (handles : Handles) (fuel : Nat) : Grammar NodeId := do
  match ← peek with
  | .directive _ => add .absent
  | .documentStart => add .absent
  | .documentEnd => add .absent
  | .streamEnd => add .absent
  | _ => node handles .block fuel

def documentStart (fuel : Nat) : Grammar Handles := do
  let handles ← directives false [] fuel
  expect .documentStart
  return handles ++ commonHandles

def dropEnds : Nat → Grammar Unit
  | 0 => pure ()
  | fuel + 1 => do
    if ← isNext [.documentEnd] then
      drop
      dropEnds fuel

/-- Nothing may follow a document but marks of its end. -/
def noFurther (fuel : Nat) : Grammar Unit := do
  dropEnds fuel
  if (← peek) != .streamEnd then
    let _ ← documentStart fuel
    refuse

def document (fuel : Nat) : Grammar (Option NodeId) := do
  match ← peek with
  | .streamEnd => return none
  | next => do
    let root ← match next with
      | .directive _ => documentContent (← documentStart fuel) fuel
      | .documentStart => documentContent (← documentStart fuel) fuel
      | _ => node commonHandles .block fuel
    noFurther fuel
    return some root

end Grammar

/-- The nodes of the document that tokens describe, if there is one. Each token needs a bounded
number of steps. -/
def Graph.ofTokens? (tokens : List Token) : Reading (Option Graph) := do
  let (root, end') ← (Grammar.document (6 * tokens.length + 6)).run ⟨tokens, [], #[]⟩
  return root.map fun _ => end'.nodes

end ServiceCli.Yaml
