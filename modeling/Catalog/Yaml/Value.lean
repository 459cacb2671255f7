import Catalog.Text.Case
import Catalog.Yaml.Node

/-!
# Values of a document

Every node stands for a value that its tag names. Collections are built level by level: first the
collection itself, then, after everything of the level above, its members. So of two faults the
one nearer to the root is met first.

A mapping may take over the pairs of others under the key `<<`; its own pairs count more than
those it takes over, and of a sequence of mappings the earlier ones count more.
-/

namespace Catalog.Yaml

/-- A value. Below a given depth a collection is shown without its members. -/
inductive Value where
  | null
  | bool (b : Bool)
  | int (n : Int)
  | float (x : Binary64)
  | str (s : String)
  | bytes
  | date
  | datetime
  | list (items : List Value)
  | dict (entries : List (Value × Value))
  | set
  /-- A pair of an ordered mapping. -/
  | pair
  deriving Repr, Inhabited

/-- What a node stands for before its members are known. -/
inductive Shell where
  | atom (value : Value)
  | list
  | dict
  | set
  deriving Repr, Inhabited

/-- A value of this kind can be the key of a mapping. -/
def Shell.isKey : Shell → Bool
  | atom _ => true
  | _ => false

namespace Graph

/-- The node of a number. -/
def node? (g : Graph) (i : Nat) : Option Node := g.nodes[i]?

/-- The tag of a node. -/
def tagOf (g : Graph) (i : Nat) : String :=
  match g.node? i with
  | some (.scalar tag _) | some (.sequence tag _) | some (.mapping tag _) => tag
  | none => ""

/-- The pairs of a mapping. -/
def pairsOf (g : Graph) (i : Nat) : List (Nat × Nat) :=
  match g.node? i with
  | some (.mapping _ pairs) => pairs
  | _ => []

/-- The most mappings with the key `=` between a scalar and its characters. -/
def maxScalars : Nat := 976

/-- The characters of a scalar. A mapping with the key `=` is a scalar too, with the characters of
the scalar there. The first argument bounds how many of these lead on to each other. -/
def scalarText (g : Graph) : Nat → Nat → Except Error String
  | 0, _ => .error .tooDeep
  | left + 1, i =>
    match g.node? i with
    | some (.scalar _ text) => .ok text
    | some (.mapping _ pairs) =>
      match pairs.find? fun (key, _) => g.tagOf key == Tag.value with
      | some (_, value) => g.scalarText left value
      | none => .error .malformed
    | _ => .error .malformed

/-- The truth value of a word. -/
def truthValue (text : String) : Except Error Value :=
  let word := Text.lower text
  if ["yes", "true", "on"].contains word then .ok (.bool true)
  else if ["no", "false", "off"].contains word then .ok (.bool false)
  else .error .badTruthValue

def numeral {α : Type} : Option α → Except Error α
  | some x => .ok x
  | none => .error .badNumeral

/-- The text of a numeral without gaps, cut into its sign and the rest. -/
def signAndRest (cs : List Char) : Except Error (Bool × List Char) :=
  match cs with
  | [] => .error .emptyNumeral
  | '-' :: rest => .ok (true, rest)
  | '+' :: rest => .ok (false, rest)
  | _ => .ok (false, cs)

/-- The whole number that the parts of a numeral in base sixty spell, most significant first. -/
def sixtiesInt (parts : List (List Char)) : Except Error Int :=
  parts.foldlM
    (fun (total : Int) part => do
      let digit ← numeral (Numeral.integer? 10 (String.ofList part))
      return total * 60 + digit)
    0

/-- The value of a scalar tagged as a whole number. -/
def intValue (text : String) : Except Error Value := do
  let (negative, rest) ← signAndRest (text.toList.filter (· != '_'))
  let signed (n : Int) : Value := .int (if negative then -n else n)
  match rest with
  | ['0'] => return .int 0
  | '0' :: 'b' :: digits => signed <$> numeral (Numeral.markedInteger? 2 (String.ofList digits))
  | '0' :: 'x' :: digits => signed <$> numeral (Numeral.markedInteger? 16 (String.ofList digits))
  | '0' :: _ => signed <$> numeral (Numeral.markedInteger? 8 (String.ofList rest))
  | [] => throw .emptyNumeral
  | _ =>
    if rest.contains ':' then signed <$> sixtiesInt (Text.splitChars ':' rest)
    else signed <$> numeral (Numeral.integer? 10 (String.ofList rest))

/-- The number that the parts of a numeral in base sixty spell. The parts are added from the
least significant one on, and each sum is rounded. -/
def sixtiesFloat (parts : List (List Char)) : Except Error Binary64 := do
  let digits ← parts.reverse.mapM fun part => numeral (Numeral.float? (String.ofList part))
  let (total, _) := digits.foldl
    (fun (total, base) digit => (total.add (digit.mul (Binary64.ofNat base)), base * 60))
    (Binary64.ofNat 0, 1)
  return total

/-- The value of a scalar tagged as a floating point number. -/
def floatValue (text : String) : Except Error Value := do
  let (negative, rest) ← signAndRest ((Text.lower text).toList.filter (· != '_'))
  let signed (x : Binary64) : Value := .float (if negative then x.neg else x)
  let word := String.ofList rest
  if word == ".inf" then return .float (.infinite negative)
  else if word == ".nan" then return .float .notANumber
  else if rest.contains ':' then signed <$> sixtiesFloat (Text.splitChars ':' rest)
  else signed <$> numeral (Numeral.float? word)

def isLeapYear (year : Nat) : Bool :=
  year % 4 == 0 && (year % 100 != 0 || year % 400 == 0)

/-- The number of days of a month. -/
def daysIn (year month : Nat) : Nat :=
  if month == 2 then if isLeapYear year then 29 else 28
  else if [4, 6, 9, 11].contains month then 30
  else 31

/-- The value of a scalar tagged as a timestamp. Years begin at one, and a zone is less than a day
away from universal time. -/
def timestampValue (text : String) : Except Error Value :=
  match Tag.timestamp? (Tag.withoutLastBreak text.toList) with
  | none => .error .badTimestamp
  | some t =>
    let dayExists := 1 ≤ t.year && 1 ≤ t.month && t.month ≤ 12 && 1 ≤ t.day &&
      t.day ≤ daysIn t.year t.month
    match t.time with
    | none => if dayExists then .ok .date else .error .noSuchTime
    | some (hour, minute, second) =>
      let zoneExists := match t.zone with
        | some minutes => minutes.natAbs < 24 * 60
        | none => true
      if dayExists && hour < 24 && minute < 60 && second < 60 && zoneExists then .ok .datetime
      else .error .noSuchTime

def isBase64Char (c : Char) : Bool :=
  c.isAlphanum || c == '+' || c == '/'

/-- The characters form whole groups of four, as far as a group that padding ends. Characters
outside of the alphabet are passed over. In `base64From group pads`, `group` characters of the
current group were read, and then `pads` padding characters. -/
def base64From : Nat → Nat → List Char → Bool
  | group, _, [] => group == 0
  | group, pads, c :: rest =>
    if c == '=' then
      if 2 ≤ group then
        if 4 ≤ group + pads + 1 then true else base64From group (pads + 1) rest
      else base64From group pads rest
    else if isBase64Char c then base64From ((group + 1) % 4) 0 rest
    else base64From group pads rest

/-- The value of a scalar tagged as bytes. -/
def bytesValue (text : String) : Except Error Value :=
  let cs := text.toList
  if cs.all (fun c => c.toNat < 0x80) && base64From 0 0 cs then .ok .bytes else .error .malformed

/-- What a node stands for, before its members are looked at. -/
def shell (g : Graph) (i : Nat) : Except Error Shell := do
  let tag := g.tagOf i
  let atom (read : String → Except Error Value) : Except Error Shell := do
    return .atom (← read (← g.scalarText (maxScalars + 1) i))
  if tag == Tag.null then atom fun _ => .ok .null
  else if tag == Tag.bool then atom truthValue
  else if tag == Tag.int then atom intValue
  else if tag == Tag.float then atom floatValue
  else if tag == Tag.binary then atom bytesValue
  else if tag == Tag.timestamp then
    match g.node? i with
    | some (.mapping _ _) => atom fun _ => .error .timestampOfMapping
    | _ => atom timestampValue
  else if tag == Tag.str then atom fun text => .ok (.str text)
  else if tag == Tag.seq || tag == Tag.omap || tag == Tag.pairs then return .list
  else if tag == Tag.map then return .dict
  else if tag == Tag.set then return .set
  else throw .malformed

end Graph

/-- The state of building the values of a document. -/
structure Builder where
  graph : Graph
  /-- What the nodes met so far stand for. -/
  shells : List (Nat × Shell) := []
  /-- Collections whose members were not looked at yet. -/
  waiting : List Nat := []

namespace Builder

/-- A step of building values. -/
abbrev Build := StateT Builder (Except Error)

/-- Builds the value of a node, without its members. -/
def visit (i : Nat) : Build Shell := do
  let s ← get
  match s.shells.lookup i with
  | some known => return known
  | none =>
    let found ← liftM (s.graph.shell i)
    set { s with
      shells := (i, found) :: s.shells
      waiting := if found.isKey then s.waiting else s.waiting ++ [i] }
    return found

def setNode (i : Nat) (node : Node) : Build Unit :=
  modify fun s => { s with graph := { nodes := s.graph.nodes.setIfInBounds i node } }

def pairsOf (i : Nat) : Build (List (Nat × Nat)) :=
  return (← get).graph.pairsOf i

/-- Sets the pairs of a mapping. -/
def setPairs (i : Nat) (pairs : List (Nat × Nat)) : Build Unit := do
  setNode i (.mapping ((← get).graph.tagOf i) pairs)

/-- The longest chain of mappings each of which takes over the pairs of the next one. -/
def maxMerges : Nat := 980

/-- There is room for one more mapping behind a chain of `depth` others. -/
def requireRoom (depth : Nat) : Build Unit :=
  if depth < maxMerges then pure () else throw .tooDeep

mutual

/-- Replaces the keys `<<` of a mapping by the pairs that they take over. The key `=` becomes
ordinary text. In `flattenFrom fuel depth i index merged`, the first `index` pairs are done, and
`depth` mappings in a chain wait for the pairs of this one. -/
def flattenFrom : Nat → Nat → Nat → Nat → List (Nat × Nat) → Build Unit
  | 0, _, _, _, _ => throw .malformed
  | fuel + 1, depth, i, index, merged => do
    let pairs ← pairsOf i
    match pairs[index]? with
    | none => if merged.isEmpty then return () else setPairs i (merged ++ pairs)
    | some (key, value) =>
      let graph := (← get).graph
      if graph.tagOf key == Tag.merge then
        setPairs i (pairs.eraseIdx index)
        match graph.node? value with
        | some (.mapping _ _) =>
          requireRoom (depth + 1)
          flattenFrom fuel (depth + 1) value 0 []
          flattenFrom fuel depth i index (merged ++ (← pairsOf value))
        | some (.sequence _ items) =>
          let taken ← flattenItems fuel (depth + 1) items
          flattenFrom fuel depth i index (merged ++ taken)
        | _ => throw .malformed
      else if graph.tagOf key == Tag.value then
        match graph.node? key with
        | some (.scalar _ text) => setNode key (.scalar Tag.str text)
        | some (.sequence _ items) => setNode key (.sequence Tag.str items)
        | some (.mapping _ ps) => setNode key (.mapping Tag.str ps)
        | none => pure ()
        flattenFrom fuel depth i (index + 1) merged
      else flattenFrom fuel depth i (index + 1) merged

/-- The pairs of a sequence of mappings, those of the last mapping first. -/
def flattenItems : Nat → Nat → List Nat → Build (List (Nat × Nat))
  | _, _, [] => return []
  | 0, _, _ => throw .malformed
  | fuel + 1, depth, item :: rest => do
    match (← get).graph.node? item with
    | some (.mapping _ _) =>
      requireRoom depth
      flattenFrom fuel depth item 0 []
      let own ← pairsOf item
      let later ← flattenItems fuel depth rest
      return later ++ own
    | _ => throw .malformed

end

/-- Enough steps for every pair of the document. -/
def flattenFuel (g : Graph) : Nat :=
  2 * g.nodes.foldl
    (fun total node => total + match node with
      | .mapping _ pairs => pairs.length + 2
      | .sequence _ items => items.length + 2
      | .scalar _ _ => 1) 2

/-- Looks at the pairs of a mapping: each key, whether it can be one, and its value. -/
def visitPairs : List (Nat × Nat) → Build Unit
  | [] => return ()
  | (key, value) :: rest => do
    let found ← visit key
    if !found.isKey then throw .malformed
    let _ ← visit value
    visitPairs rest

/-- Looks at the items of an ordered mapping, each of which is a mapping of one pair. -/
def visitOrdered : List Nat → Build Unit
  | [] => return ()
  | item :: rest => do
    match (← get).graph.node? item with
    | some (.mapping _ [(key, value)]) =>
      let _ ← visit key
      let _ ← visit value
      visitOrdered rest
    | _ => throw .malformed

/-- Looks at the members of a collection. -/
def members (i : Nat) : Build Unit := do
  let g := (← get).graph
  let tag := g.tagOf i
  if tag == Tag.map || tag == Tag.set then
    match g.node? i with
    | some (.mapping _ _) =>
      flattenFrom (flattenFuel g) 0 i 0 []
      visitPairs (← pairsOf i)
    | _ => throw .malformed
  else
    match g.node? i with
    | some (.sequence _ items) =>
      if tag == Tag.seq then items.forM fun item => do let _ ← visit item
      else visitOrdered items
    | _ => throw .malformed

/-- Looks at the members of all collections, in the order in which these were met. -/
def run : Nat → Build Unit
  | 0 => throw .malformed
  | fuel + 1 => do
    match (← get).waiting with
    | [] => return ()
    | i :: rest =>
      modify fun s => { s with waiting := rest }
      members i
      run fuel

/-- The value of a node, with its members down to a depth. -/
def view (s : Builder) : Nat → Nat → Value
  | depth, i =>
    match s.shells.lookup i with
    | some (.atom value) => value
    | some .set => .set
    | some .dict =>
      match depth with
      | 0 => .dict []
      | depth + 1 =>
        .dict ((s.graph.pairsOf i).map fun (key, value) => (s.view depth key, s.view depth value))
    | some .list =>
      match depth with
      | 0 => .list []
      | depth + 1 =>
        match s.graph.node? i with
        | some (.sequence tag items) =>
          if tag == Tag.seq then .list (items.map fun item => s.view depth item)
          else .list (items.map fun _ => .pair)
        | _ => .list []
    | none => .null

end Builder

/-- The value of the only document of a text, with its members down to a depth. A text without a
document has no value. -/
def load (depth : Nat) (text : String) : Except Error Value := do
  let (graph, root) ← Graph.ofTokens (TokenStream.ofText text)
  match root with
  | none => return .null
  | some root =>
    let build : Builder.Build Unit := do
      let _ ← Builder.visit root
      Builder.run (graph.nodes.size + 1)
    let ((), final) ← build.run { graph }
    return final.view depth root

end Catalog.Yaml
