import Catalog.Command.Config

/-!
# Command lines

A command line names a command and gives options, each with a value, except for a few that stand
alone. An option may be shortened as long as only one option begins that way, and its value may
follow after an equals sign. A word that begins with a dash is an option, unless it is a negative
number, a single dash, or contains a blank.
-/

namespace Catalog

/-- The options that a command line gives for a comparison. -/
structure DiffFlags where
  old : String := ""
  new : String := ""
  output : String := "changes.json"
  deriving DecidableEq, Repr

/-- What a command line asks for. -/
inductive Invocation where
  | scan (flags : ScanFlags)
  | diff (flags : DiffFlags)
  /-- No command is named. -/
  | nothing
  deriving DecidableEq, Repr

/-- Why a command line is not carried out. -/
inductive Refusal where
  /-- Help was asked for. -/
  | help
  /-- The command line is wrong. -/
  | usage
  deriving DecidableEq, Repr

/-- The exit status of a command line that is not carried out. -/
def Refusal.exitCode : Refusal → Nat
  | help => 0
  | usage => 2

namespace Arguments

/-- How an option changes what is known of a command line. -/
inductive Effect (σ : Type) where
  | help
  | flag (set : σ → σ)
  | value (set : σ → String → Option σ)

/-- An option: how it is written, and what it does. -/
structure Opt (σ : Type) where
  name : String
  effect : Effect σ

/-- What a word is. -/
inductive Word (σ : Type) where
  | plain
  /-- An option, with the value that is part of the word. -/
  | option (opt : Opt σ) (value : Option String)
  | unknown
  | ambiguous

variable {σ : Type}

/-- The parts before and after the first equals sign. -/
def atEquals (word : String) : Option (String × String) :=
  let cs := word.toList
  if cs.contains '=' then
    some (String.ofList (cs.takeWhile (· != '=')),
      String.ofList ((cs.dropWhile (· != '=')).drop 1))
  else none

/-- A negative number: a dash and digits, or a dash and digits with a point among them. -/
def isNegativeNumber (word : String) : Bool :=
  let isDigit (c : Char) : Bool := (Numeral.decimalDigit? c).isSome
  match word.toList with
  | '-' :: cs =>
    (!cs.isEmpty && cs.all isDigit) ||
      (match cs.dropWhile isDigit with
        | '.' :: rest => !rest.isEmpty && rest.all isDigit
        | _ => false)
  | _ => false

/-- The options that a word may be short for, with the value that is part of the word. -/
def candidates (opts : List (Opt σ)) (word : String) : List (Opt σ × Option String) :=
  if Text.beginsWith word "--" then
    let (start, value) := match atEquals word with
      | some (start, value) => (start, some value)
      | none => (word, none)
    (opts.filter fun opt => Text.beginsWith opt.name start).map (·, value)
  else
    opts.filterMap fun opt =>
      if opt.name == Text.take 2 word then some (opt, some (Text.drop 2 word))
      else if Text.beginsWith opt.name word then some (opt, none)
      else none

/-- The option that is written in full. -/
def full? (opts : List (Opt σ)) (name : String) : Option (Opt σ) :=
  opts.find? fun opt => opt.name == name

/-- The option that is written in full before an equals sign, with the value after it. -/
def fullWithValue? (opts : List (Opt σ)) (word : String) : Option (Opt σ × String) :=
  (atEquals word).bind fun (name, value) => (full? opts name).map (·, value)

/-- What a word is, given the options. -/
def classify (opts : List (Opt σ)) (word : String) : Word σ :=
  if !Text.beginsWith word "-" then .plain
  else
    match full? opts word with
    | some opt => .option opt none
    | none =>
      if word == "-" then .plain
      else
        match fullWithValue? opts word with
        | some (opt, value) => .option opt (some value)
        | none =>
          match candidates opts word with
          | [(opt, value)] => .option opt value
          | _ :: _ :: _ => .ambiguous
          | [] =>
            if isNegativeNumber word || word.toList.contains ' ' then .plain else .unknown

/-- What the words of a command line are. After two dashes every word is plain. -/
def classifyAll (opts : List (Opt σ)) : List String → List (String × Word σ)
  | [] => []
  | word :: rest =>
    if word == "--" then (word, .unknown) :: rest.map (·, .plain)
    else (word, classify opts word) :: classifyAll opts rest

/-- Letters after a short option are short options themselves. Only help has a short form. -/
def isHelpCluster (opt : Opt σ) (value : String) : Bool :=
  opt.name == "-h" && !value.isEmpty && value.toList.all (· == 'h')

/-- Carries out options in their order. The flag tells whether any word was left over. -/
def apply (state : σ) (leftOver : Bool) : List (String × Word σ) → Except Refusal (σ × Bool)
  | [] => .ok (state, leftOver)
  | (_, .option opt value) :: rest =>
    match opt.effect, value with
    | .help, none => .error .help
    | .help, some value => .error (if isHelpCluster opt value then .help else .usage)
    | .flag set, none => apply (set state) leftOver rest
    | .flag _, some _ => .error .usage
    | .value set, some value =>
      match set state value with
      | some state => apply state leftOver rest
      | none => .error .usage
    | .value set, none =>
      match rest with
      | (value, .plain) :: rest =>
        match set state value with
        | some state => apply state leftOver rest
        | none => .error .usage
      | _ => .error .usage
  | _ :: rest => apply state true rest

/-- Reads the words after a command. -/
def read (opts : List (Opt σ)) (start : σ) (words : List String) : Except Refusal (σ × Bool) :=
  let classified := classifyAll opts words
  if classified.any fun item => item.2 matches .ambiguous then .error .usage
  else apply start false classified

/-- The two forms of the option for help. -/
def helpOpts : List (Opt σ) :=
  [{ name := "-h", effect := .help }, { name := "--help", effect := .help }]

/-- An option with a text as its value. -/
def text (name : String) (set : σ → String → σ) : Opt σ :=
  { name, effect := .value fun state value => some (set state value) }

/-- The options of a scan. -/
def scanOpts : List (Opt ScanFlags) :=
  helpOpts ++
  [text "--repo" fun f v => { f with repo := v },
   text "--output" fun f v => { f with output := some v },
   text "--registry-module" fun f v => { f with registryModule := some v },
   text "--register-function" fun f v => { f with registerFunction := some v },
   text "--metadata-type" fun f v => { f with metadataType := some v },
   text "--init-function" fun f v => { f with initFunction := f.initFunction ++ [v] },
   text "--source-root" fun f v => { f with sourceRoot := f.sourceRoot ++ [v] },
   text "--search-path" fun f v => { f with searchPath := f.searchPath ++ [v] },
   text "--exclude" fun f v => { f with exclude := f.exclude ++ [v] },
   { name := "--include-tests", effect := .flag fun f => { f with includeTests := true } },
   { name := "--existing-id-policy"
     effect := .value fun f v =>
       if Failure.policies.contains v then some { f with existingIdPolicy := some v } else none },
   { name := "--max-sample"
     effect := .value fun f v =>
       (Numeral.integer? 10 v).map fun n => { f with maxSample := n } }]

/-- The options of a comparison. -/
def diffOpts : List (Opt DiffFlags) :=
  helpOpts ++
  [text "--old" fun f v => { f with old := v },
   text "--new" fun f v => { f with new := v },
   text "--output" fun f v => { f with output := v }]

/-- The words after a command, read with its options. Words that are left over are an error. -/
def invoke (opts : List (Opt σ)) (start : σ) (make : σ → Invocation) (leftOver : Bool)
    (words : List String) : Except Refusal Invocation :=
  match read opts start words with
  | .error refusal => .error refusal
  | .ok (flags, more) => if leftOver || more then .error .usage else .ok (make flags)

/-- A command and the words after it. -/
def command (leftOver : Bool) (name : String) (words : List String) :
    Except Refusal Invocation :=
  if name == "scan" then invoke scanOpts {} .scan leftOver words
  else if name == "diff" then invoke diffOpts {} .diff leftOver words
  else .error .usage

/-- Reads a command line up to its command. -/
def parseFrom (leftOver : Bool) : List String → Except Refusal Invocation
  | [] => if leftOver then .error .usage else .ok .nothing
  | word :: rest =>
    if word == "--" then .error .usage
    else
      match classify (helpOpts : List (Opt Unit)) word with
      | .plain => command leftOver word rest
      | .option _ none => .error .help
      | .option opt (some value) => .error (if isHelpCluster opt value then .help else .usage)
      | _ => parseFrom true rest

/-- What a command line asks for. -/
def parse (words : List String) : Except Refusal Invocation :=
  parseFrom false words

end Arguments

end Catalog
