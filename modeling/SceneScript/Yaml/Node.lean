import SceneScript.Entries
import SceneScript.Yaml.Token

/- The nodes of a YAML document, out of its tokens. -/
namespace SceneScript.Yaml

structure Scalar where
  text : String
  style : Style
  tag : Option Tag
  deriving Inhabited

inductive Node where
  | scalar (s : Scalar)
  | sequence (tag : Option Tag) (items : List Node)
  | mapping (tag : Option Tag) (entries : List (Node × Node))
  | alias (number : Nat)
  deriving Inhabited

namespace Node

def empty (tag : Option Tag) : Node :=
  .scalar ⟨"", .plain, tag⟩

mutual

/-- How many nodes there are, a list or map counting for its beginning and its end. -/
def size : Node → Nat
  | .scalar _ => 1
  | .alias _ => 1
  | .sequence _ items => 2 + sizeItems items
  | .mapping _ entries => 2 + sizeEntries entries

def sizeItems : List Node → Nat
  | [] => 0
  | n :: rest => n.size + sizeItems rest

def sizeEntries : List (Node × Node) → Nat
  | [] => 0
  | (key, value) :: rest => key.size + value.size + sizeEntries rest

end

end Node

structure Document where
  root : Node
  anchored : Array (Nat × Node)
  deriving Inhabited

/-- The node of a number, the last of them if there are several. -/
def Document.node? (d : Document) (number : Nat) : Option Node :=
  (d.anchored.toList.reverse.find? fun a => a.1 == number).map Prod.snd

structure Composer where
  tokens : List Token
  handles : List (String × Tag)
  numbers : List (String × Nat)
  anchored : Array (Nat × Node)

abbrev Compose := StateT Composer Option

namespace Composer

def peek : Compose Token := do
  match (← get).tokens with
  | t :: _ => pure t
  | [] => failure

def skip : Compose Unit :=
  modify fun s => { s with tokens := s.tokens.drop 1 }

/-- The number of a new anchor is how many names there are; a name may be given anew. The place of
    its node is kept until the node is known. -/
def anchor (name : String) : Compose Nat := do
  let s ← get
  let number := s.numbers.length
  set { s with
    numbers := Entries.insert name number s.numbers
    anchored := s.anchored.push (number, .empty none) }
  pure s.anchored.size

def fill (place : Nat) (n : Node) : Compose Unit :=
  modify fun s => { s with anchored := s.anchored.modify place fun a => (a.1, n) }

def aliased (name : String) : Compose Node := do
  match Entries.get? name (← get).numbers with
  | some number => pure (.alias number)
  | none => failure

def resolve (handle : String) (rest : Tag) : Compose Tag := do
  if handle = "" then pure rest
  else match Entries.get? handle (← get).handles with
    | some meaning => pure (meaning.append rest)
    | none => failure

def properties : Compose (Option Nat × Option Tag) := do
  match ← peek with
  | .anchor name =>
    skip
    let place ← anchor name
    match ← peek with
    | .tag handle rest =>
      skip
      return (some place, some (← resolve handle rest))
    | _ => return (some place, none)
  | .tag handle rest =>
    skip
    let tag ← resolve handle rest
    match ← peek with
    | .anchor name =>
      skip
      return (some (← anchor name), some tag)
    | _ => return (none, some tag)
  | _ => return (none, none)

mutual

/-- A node; `block` lets it be a block, and `indentless` a sequence that is not indented. Every call
    takes a token, or is one of few before the next that does. -/
def node (block indentless : Bool) : Nat → Compose Node
  | 0 => failure
  | fuel + 1 => do
    match ← peek with
    | .alias name =>
      skip
      aliased name
    | _ =>
      let (place, tag) ← properties
      let n ← content block indentless place.isSome tag fuel
      match place with
      | some place => fill place n
      | none => pure ()
      pure n

def content (block indentless named : Bool) (tag : Option Tag) : Nat → Compose Node
  | 0 => failure
  | fuel + 1 => do
    match ← peek with
    | .scalar text style =>
      skip
      return .scalar ⟨text, style, tag⟩
    | .flowSequence =>
      skip
      return .sequence tag (← flowItems true fuel)
    | .flowMapping =>
      skip
      return .mapping tag (← flowEntries true fuel)
    | t =>
      if indentless && t matches .blockEntry then return .sequence tag (← looseItems fuel)
      else if block && t matches .blockSequence then
        skip
        return .sequence tag (← blockItems fuel)
      else if block && t matches .blockMapping then
        skip
        return .mapping tag (← blockEntries fuel)
      else if named || tag.isSome then return .empty tag
      else failure

def blockItems : Nat → Compose (List Node)
  | 0 => failure
  | fuel + 1 => do
    match ← peek with
    | .blockEnd =>
      skip
      return []
    | .blockEntry =>
      skip
      let item ← match ← peek with
        | .blockEntry | .blockEnd => pure (Node.empty none)
        | _ => node true false fuel
      return item :: (← blockItems fuel)
    | _ => failure

/-- The items of a sequence without a block of its own. -/
def looseItems : Nat → Compose (List Node)
  | 0 => failure
  | fuel + 1 => do
    match ← peek with
    | .blockEntry =>
      skip
      let item ← match ← peek with
        | .blockEntry | .key | .value | .blockEnd => pure (Node.empty none)
        | _ => node true false fuel
      return item :: (← looseItems fuel)
    | _ => return []

def blockPart : Nat → Compose Node
  | 0 => failure
  | fuel + 1 => do
    match ← peek with
    | .key | .value | .blockEnd => return .empty none
    | _ => node true true fuel

def blockEntries : Nat → Compose (List (Node × Node))
  | 0 => failure
  | fuel + 1 => do
    match ← peek with
    | .blockEnd =>
      skip
      return []
    | .key =>
      skip
      let key ← blockPart fuel
      let value ← match ← peek with
        | .value =>
          skip
          blockPart fuel
        | _ => pure (Node.empty none)
      return (key, value) :: (← blockEntries fuel)
    | _ => failure

/-- The items of a flow sequence. A single pair among them is a mapping of its own. -/
def flowItems (first : Bool) : Nat → Compose (List Node)
  | 0 => failure
  | fuel + 1 => do
    if (← peek) matches .flowSequenceEnd then
      skip
      return []
    else
      if !first then
        if (← peek) matches .flowEntry then skip else failure
      match ← peek with
      | .flowSequenceEnd =>
        skip
        return []
      | .key =>
        skip
        let pair ← flowPair fuel
        return .mapping none [pair] :: (← flowItems false fuel)
      | _ =>
        let item ← node false false fuel
        return item :: (← flowItems false fuel)

/-- The pair behind a key mark; where its key is missing, the token in its place is passed over. -/
def flowPair : Nat → Compose (Node × Node)
  | 0 => failure
  | fuel + 1 => do
    let key ← match ← peek with
      | .value | .flowEntry | .flowSequenceEnd => do
        skip
        pure (Node.empty none)
      | _ => node false false fuel
    match ← peek with
    | .value =>
      skip
      match ← peek with
      | .flowEntry | .flowSequenceEnd => return (key, .empty none)
      | _ => return (key, ← node false false fuel)
    | _ => return (key, .empty none)

def flowEntries (first : Bool) : Nat → Compose (List (Node × Node))
  | 0 => failure
  | fuel + 1 => do
    if (← peek) matches .flowMappingEnd then
      skip
      return []
    else
      if !first then
        if (← peek) matches .flowEntry then skip else failure
      match ← peek with
      | .flowMappingEnd =>
        skip
        return []
      | .key =>
        skip
        let key ← match ← peek with
          | .value | .flowEntry | .flowMappingEnd => pure (Node.empty none)
          | _ => node false false fuel
        let value ← flowValue fuel
        return (key, value) :: (← flowEntries false fuel)
      | _ =>
        let key ← node false false fuel
        return (key, .empty none) :: (← flowEntries false fuel)

def flowValue : Nat → Compose Node
  | 0 => failure
  | fuel + 1 => do
    match ← peek with
    | .value =>
      skip
      match ← peek with
      | .flowEntry | .flowMappingEnd => return .empty none
      | _ => node false false fuel
    | _ => return .empty none

end

/-- Directives, each handle once and at most one version, and the mark that must follow them. -/
def directives : Nat → Bool → List String → Compose Unit
  | 0, _, _ => failure
  | fuel + 1, versioned, seen => do
    match ← peek with
    | .version major minor =>
      if versioned ∨ major ≠ 1 ∨ (minor ≠ 1 ∧ minor ≠ 2) then failure
      else
        skip
        directives fuel true seen
    | .shorthand handle meaning =>
      if seen.contains handle then failure
      else
        skip
        modify fun s => { s with handles := Entries.insert handle meaning s.handles }
        directives fuel versioned (handle :: seen)
    | .documentStart => skip
    | _ => failure

def ending : List Token → Bool
  | .documentEnd :: rest => ending rest
  | .streamEnd :: _ => true
  | _ => false

/-- The one document of a text; neither none nor a second one is accepted. -/
def document (fuel : Nat) : Compose Document := do
  let explicit ← match ← peek with
    | .streamEnd => failure
    | .version _ _ | .shorthand _ _ | .documentStart => do
      directives fuel false []
      pure true
    | _ => pure false
  let root ← match ← peek with
    | .version _ _ | .shorthand _ _ | .documentStart | .documentEnd | .streamEnd =>
      if explicit then pure (Node.empty none) else failure
    | _ => node true false fuel
  let s ← get
  if ending s.tokens then return ⟨root, s.anchored⟩ else failure

end Composer

def commonHandles : List (String × Tag) :=
  [("!", .ofText "!"), ("!!", .ofText "tag:yaml.org,2002:")]

def Document.ofTokens? (tokens : List Token) : Option Document :=
  (Composer.document (4 * tokens.length + 8)).run' ⟨tokens, commonHandles, [], #[]⟩

end SceneScript.Yaml
