import Catalog.Yaml.Tag
import Catalog.Yaml.Lexer

/-!
# Documents as graphs of nodes

A document is a graph: each node has a number, and a collection names its members by theirs. An
alias is the number of the node with its anchor, so that a collection may even contain itself.

`Graph.ofTokens` reads the one document of a text. The productions are those of block and flow
collections; a missing node is an empty plain scalar. The nodes are put together by a recursion over
the collections, and the interpreter has room for so many of them only.
-/

namespace Catalog.Yaml

/-- A node, with its tag. -/
inductive Node where
  | scalar (tag text : String)
  | sequence (tag : String) (items : List Nat)
  | mapping (tag : String) (pairs : List (Nat × Nat))
  deriving DecidableEq, Repr, Inhabited

/-- The nodes of a document. -/
structure Graph where
  nodes : Array Node := #[]
  deriving Repr

namespace Graph

/-- The state of reading a document. -/
structure Reader where
  tokens : List Token
  /-- The fault that is met when the tokens run out. -/
  fault : Error
  nodes : Array Node := #[]
  anchors : List (String × Nat) := []
  handles : List (String × String) := []

/-- A step of reading a document. -/
abbrev Read := StateT Reader (Except Error)

/-- The handles that every document knows. -/
def standardHandles : List (String × String) := [("!", "!"), ("!!", "tag:yaml.org,2002:")]

def fail {α : Type} : Read α := throw .malformed

/-- The next token. -/
def peek : Read Token := do
  let s ← get
  match s.tokens with
  | token :: _ => return token
  | [] => throw s.fault

/-- Passes over the next token. -/
def skip : Read Unit :=
  modify fun s => { s with tokens := s.tokens.drop 1 }

/-- Adds a node to the graph. -/
def add (node : Node) : Read Nat := do
  let s ← get
  set { s with nodes := s.nodes.push node }
  return s.nodes.size

/-- Fills in a node that was added before its members were known. -/
def fill (index : Nat) (node : Node) : Read Unit :=
  modify fun s => { s with nodes := s.nodes.setIfInBounds index node }

/-- An empty plain scalar, in the place of a node that is not there. -/
def addEmpty : Read Nat := add (.scalar (Tag.ofPlain "") "")

/-- What is written before a node: an anchor and a tag, in either order. -/
structure Properties where
  anchor : Option String := none
  tag : Option String := none

/-- The full tag of a handle and the text after it. -/
def fullTag (handle : Option String) (rest : String) : Read String := do
  match handle with
  | none => return rest
  | some handle =>
    match (← get).handles.lookup handle with
    | some start => return start ++ rest
    | none => fail

/-- An anchor at the next token. -/
def anchor? : Read (Option String) := do
  match ← peek with
  | .anchor name => skip; return some name
  | _ => return none

/-- A tag at the next token, as it is written. -/
def tag? : Read (Option (Option String × String)) := do
  match ← peek with
  | .tag handle rest => skip; return some (handle, rest)
  | _ => return none

/-- The properties before a node. -/
def properties : Read Properties := do
  let first ← anchor?
  let tag ← tag?
  let second ← if first.isNone && tag.isSome then anchor? else pure none
  let tag ← match tag with
    | some (handle, rest) => some <$> fullTag handle rest
    | none => pure none
  return { anchor := first <|> second, tag }

/-- Gives a node its anchor. An anchor is given only once. -/
def mark (anchor : Option String) (index : Nat) : Read Unit :=
  modify fun s => match anchor with
    | some name => { s with anchors := (name, index) :: s.anchors }
    | none => s

/-- The anchor of a node is not yet given. -/
def requireNew (anchor : Option String) : Read Unit := do
  match anchor with
  | some name => if ((← get).anchors.lookup name).isSome then fail else pure ()
  | none => pure ()

/-- The tag of a scalar: the one written before it, or the one that its spelling shows. Without a
tag a scalar that is not plain is text. -/
def scalarTag (tag : Option String) (text : String) (plain : Bool) : String :=
  match tag with
  | none => if plain then Tag.ofPlain text else Tag.str
  | some tag => if tag == "!" then Tag.ofPlain text else tag

/-- The tag of a collection. -/
def collectionTag (tag : Option String) (default : String) : String :=
  match tag with
  | none => default
  | some tag => if tag == "!" then default else tag

/-- Where a node stands. -/
inductive Place where
  /-- A document, or an entry of a block sequence. -/
  | block
  /-- A key or a value of a block mapping, where a sequence need not be indented. -/
  | blockMapping
  /-- Inside a flow collection. -/
  | flow
  deriving DecidableEq

/-- A token before which a node is missing, after the hyphen of a sequence that is not indented,
or after the mark of a key or a value. -/
def endsMember : Token → Bool
  | .key | .value | .blockEnd => true
  | _ => false

/-- Collections may be nested this deep. -/
def maxDepth : Nat := 486

/-- There is room for one more collection inside of `depth` others. -/
def requireRoom (depth : Nat) : Read Unit :=
  if depth < maxDepth then pure () else throw .tooDeep

mutual

/-- A node inside of `depth` collections. -/
def node : Nat → Nat → Place → Read Nat
  | 0, _, _ => fail
  | fuel + 1, depth, place => do
    match ← peek with
    | .reference name =>
      skip
      match (← get).anchors.lookup name with
      | some index => return index
      | none => fail
    | _ =>
      let p ← properties
      let token ← peek
      requireNew p.anchor
      match token with
      | .scalar text plain =>
        skip
        let index ← add (.scalar (scalarTag p.tag text plain) text)
        mark p.anchor index
        return index
      | .flowSequenceStart =>
        skip
        requireRoom depth
        let index ← add (.sequence (collectionTag p.tag Tag.seq) [])
        mark p.anchor index
        let items ← flowItems fuel (depth + 1) true []
        fill index (.sequence (collectionTag p.tag Tag.seq) items)
        return index
      | .flowMappingStart =>
        skip
        requireRoom depth
        let index ← add (.mapping (collectionTag p.tag Tag.map) [])
        mark p.anchor index
        let pairs ← flowPairs fuel (depth + 1) true []
        fill index (.mapping (collectionTag p.tag Tag.map) pairs)
        return index
      | _ =>
        if token == .blockEntry && place == .blockMapping then
          requireRoom depth
          let index ← add (.sequence (collectionTag p.tag Tag.seq) [])
          mark p.anchor index
          let items ← looseItems fuel (depth + 1) []
          fill index (.sequence (collectionTag p.tag Tag.seq) items)
          return index
        else if token == .blockSequenceStart && place != .flow then
          skip
          requireRoom depth
          let index ← add (.sequence (collectionTag p.tag Tag.seq) [])
          mark p.anchor index
          let items ← blockItems fuel (depth + 1) []
          fill index (.sequence (collectionTag p.tag Tag.seq) items)
          return index
        else if token == .blockMappingStart && place != .flow then
          skip
          requireRoom depth
          let index ← add (.mapping (collectionTag p.tag Tag.map) [])
          mark p.anchor index
          let pairs ← blockPairs fuel (depth + 1) []
          fill index (.mapping (collectionTag p.tag Tag.map) pairs)
          return index
        else if p.anchor.isSome || p.tag.isSome then
          let index ← add (.scalar (scalarTag p.tag "" true) "")
          mark p.anchor index
          return index
        else fail
termination_by structural fuel => fuel

/-- The items of an indented block sequence, which is the last of `depth` collections. -/
def blockItems : Nat → Nat → List Nat → Read (List Nat)
  | 0, _, _ => fail
  | fuel + 1, depth, acc => do
    match ← peek with
    | .blockEntry =>
      skip
      match ← peek with
      | .blockEntry | .blockEnd => blockItems fuel depth ((← addEmpty) :: acc)
      | _ => blockItems fuel depth ((← node fuel depth .block) :: acc)
    | .blockEnd => skip; return acc.reverse
    | _ => fail
termination_by structural fuel => fuel

/-- The items of a block sequence that is not indented below its key. -/
def looseItems : Nat → Nat → List Nat → Read (List Nat)
  | 0, _, _ => fail
  | fuel + 1, depth, acc => do
    match ← peek with
    | .blockEntry =>
      skip
      let token ← peek
      if token == .blockEntry || endsMember token then looseItems fuel depth ((← addEmpty) :: acc)
      else looseItems fuel depth ((← node fuel depth .block) :: acc)
    | _ => return acc.reverse
termination_by structural fuel => fuel

/-- The pairs of a block mapping. -/
def blockPairs : Nat → Nat → List (Nat × Nat) → Read (List (Nat × Nat))
  | 0, _, _ => fail
  | fuel + 1, depth, acc => do
    match ← peek with
    | .key =>
      skip
      let key ← if endsMember (← peek) then addEmpty else node fuel depth .blockMapping
      match ← peek with
      | .value =>
        skip
        let value ← if endsMember (← peek) then addEmpty else node fuel depth .blockMapping
        blockPairs fuel depth ((key, value) :: acc)
      | _ => blockPairs fuel depth ((key, ← addEmpty) :: acc)
    | .blockEnd => skip; return acc.reverse
    | .value =>
      -- a value without a key: the key is missing
      fail
    | _ => fail
termination_by structural fuel => fuel

/-- The items of a flow sequence. A key among them makes a mapping of one pair. -/
def flowItems : Nat → Nat → Bool → List Nat → Read (List Nat)
  | 0, _, _, _ => fail
  | fuel + 1, depth, first, acc => do
    if (← peek) == .flowSequenceEnd then
      skip
      return acc.reverse
    else
      if !first then
        if (← peek) == .flowEntry then skip else fail
      match ← peek with
      | .flowSequenceEnd => skip; return acc.reverse
      | .key =>
        requireRoom depth
        let index ← add (.mapping Tag.map [])
        skip
        let missing (token : Token) : Bool := token == .flowEntry || token == .flowSequenceEnd
        let next ← peek
        let key ← if next == .value || missing next then addEmpty else node fuel (depth + 1) .flow
        let value ← do
          if (← peek) == .value then
            skip
            if missing (← peek) then addEmpty else node fuel (depth + 1) .flow
          else addEmpty
        fill index (.mapping Tag.map [(key, value)])
        flowItems fuel depth false (index :: acc)
      | _ => flowItems fuel depth false ((← node fuel depth .flow) :: acc)
termination_by structural fuel => fuel

/-- The pairs of a flow mapping. -/
def flowPairs : Nat → Nat → Bool → List (Nat × Nat) → Read (List (Nat × Nat))
  | 0, _, _, _ => fail
  | fuel + 1, depth, first, acc => do
    if (← peek) == .flowMappingEnd then
      skip
      return acc.reverse
    else
      if !first then
        if (← peek) == .flowEntry then skip else fail
      let missing (token : Token) : Bool := token == .flowEntry || token == .flowMappingEnd
      match ← peek with
      | .flowMappingEnd => skip; return acc.reverse
      | .key =>
        skip
        let next ← peek
        let key ← if next == .value || missing next then addEmpty else node fuel depth .flow
        let value ← do
          if (← peek) == .value then
            skip
            if missing (← peek) then addEmpty else node fuel depth .flow
          else addEmpty
        flowPairs fuel depth false ((key, value) :: acc)
      | _ =>
        let key ← node fuel depth .flow
        flowPairs fuel depth false ((key, ← addEmpty) :: acc)
termination_by structural fuel => fuel

end

/-- What the directives before a document say. -/
def directives : Nat → Bool → List (String × String) → Read (List (String × String))
  | 0, _, handles => return handles
  | fuel + 1, versioned, handles => do
    match ← peek with
    | .directive (.version major _) =>
      if versioned || major != 1 then fail
      skip
      directives fuel true handles
    | .directive (.tagHandle handle start) =>
      if (handles.lookup handle).isSome then fail
      skip
      directives fuel versioned (handles ++ [(handle, start)])
    | .directive (.unknown _) =>
      skip
      directives fuel versioned handles
    | _ => return handles

/-- Passes over the marks for the end of a document. -/
def skipDocumentEnds : Nat → Read Unit
  | 0 => return ()
  | fuel + 1 => do
    match ← peek with
    | .documentEnd => skip; skipDocumentEnds fuel
    | _ => return ()

/-- The node of a document that begins with its mark. -/
def explicitDocument (fuel : Nat) : Read Nat := do
  let handles ← directives fuel false []
  match ← peek with
  | .documentStart =>
    skip
    modify fun s => { s with handles := handles ++ standardHandles }
    match ← peek with
    | .directive _ | .documentStart | .documentEnd | .streamEnd => addEmpty
    | _ => node fuel 0 .block
  | _ => fail

/-- The root of the only document, or none if there is no document. -/
def document (fuel : Nat) : Read (Option Nat) := do
  match ← peek with
  | .streamEnd => return none
  | token =>
    let root ← match token with
      | .directive _ | .documentStart => explicitDocument fuel
      | _ =>
        modify fun s => { s with handles := standardHandles }
        node fuel 0 .block
    skipDocumentEnds fuel
    match ← peek with
    | .streamEnd => return some root
    | _ => fail

/-- The graph of the only document of a text, with its root. -/
def ofTokens (stream : TokenStream) : Except Error (Graph × Option Nat) := do
  let fuel := 2 * stream.tokens.length + 2
  let start : Reader := { tokens := stream.tokens, fault := stream.fault.getD .malformed }
  let (root, final) ← (document fuel).run start
  return ({ nodes := final.nodes }, root)

end Graph

end Catalog.Yaml
