import GraphTemplate.NameTable
import GraphTemplate.Yaml.TokenList

/-!
The nodes of a document: scalars, sequences and mappings, each with the place where it begins and
its tag. An alias is the node of its anchor; inside that very node it is a node without end.
-/

namespace GraphTemplate.Yaml

inductive Node where
  /-- The kind of an untagged plain scalar is found from its text. -/
  | scalar (start : Mark) (tag : Option String) (isPlain : Bool) (text : String)
  | sequence (start : Mark) (tag : Option String) (items : List Node)
  | mapping (start : Mark) (tag : Option String) (entries : List (Node × Node))
  | endless (start : Mark) (isMapping : Bool)

namespace Node

def start : Node → Mark
  | scalar m .. => m
  | sequence m .. => m
  | mapping m .. => m
  | endless m _ => m

def absent (place : Mark) : Node := scalar place none true ""

structure Progress where
  rest : List Token
  /-- What comes of asking for more tokens, if there is trouble. -/
  failure : Option Error
  handles : NameTable String
  anchors : NameTable Node

abbrev Composing := StateT Progress (Except Error)

def malformed {α : Type} : Composing α := throw .malformed

/-- The next token; after the end of the stream there is none. -/
def next? : Composing (Option Token) := do
  let p ← get
  match p.rest, p.failure with
  | t :: _, _ => return some t
  | [], some e => throw e
  | [], none => return none

def peek : Composing Lexeme := do
  return match ← next? with
    | some t => t.lexeme
    | none => .streamEnd

def here : Composing Mark := do
  return match ← next? with
    | some t => t.start
    | none => ⟨0, 0⟩

def take : Composing Mark := do
  match ← next? with
  | some t => do
    modify fun p => { p with rest := p.rest.tail }
    return t.stop
  | none => malformed

def takeIf (lexeme : Lexeme) : Composing Bool := do
  if (← peek) = lexeme then
    let _ ← take
    return true
  else return false

def expect (lexeme : Lexeme) : Composing Unit := do
  unless ← takeIf lexeme do malformed

structure Properties where
  start : Option Mark
  anchor : Option String
  tag : Option TagName

def takeAnchor : Composing (Option String) := do
  match ← peek with
  | .anchor name => do
    let _ ← take
    return some name
  | _ => return none

def takeTag : Composing (Option TagName) := do
  match ← peek with
  | .tag name => do
    let _ ← take
    return some name
  | _ => return none

def takeProperties : Composing Properties := do
  let start ← here
  match ← takeAnchor with
  | some anchor => return ⟨some start, some anchor, ← takeTag⟩
  | none =>
    match ← takeTag with
    | some tag => do
      let anchor ← takeAnchor
      return ⟨some start, anchor, some tag⟩
    | none => return ⟨none, none, none⟩

def fullTag : Option TagName → Composing (Option String)
  | none => pure none
  | some ⟨none, suffix⟩ => pure (some suffix)
  | some ⟨some handle, suffix⟩ => do
    match (← get).handles.get? handle with
    | some beginning => return some (beginning ++ suffix)
    | none => malformed

/-- Tags that leave the kind of a node to its form. -/
def explicitTag (tag : Option String) : Option String := if tag = some "!" then none else tag

/-- Enters the node of an anchor; every anchor is used once. -/
def remember (anchor : Option String) (node : Node) : Composing Unit := do
  if let some name := anchor then
    modify fun p => { p with anchors := p.anchors.insert name node }

def endsBlockItem : Lexeme → Bool
  | .blockEntry | .blockEnd => true
  | _ => false

def endsPlainItem : Lexeme → Bool
  | .blockEntry | .key | .value | .blockEnd => true
  | _ => false

def endsBlockPart : Lexeme → Bool
  | .key | .value | .blockEnd => true
  | _ => false

def endsFlowPair : Lexeme → Bool
  | .value | .flowEntry | .flowSequenceEnd => true
  | _ => false

def endsFlowPairValue : Lexeme → Bool
  | .flowEntry | .flowSequenceEnd => true
  | _ => false

def endsFlowKey : Lexeme → Bool
  | .value | .flowEntry | .flowMappingEnd => true
  | _ => false

def endsFlowValue : Lexeme → Bool
  | .flowEntry | .flowMappingEnd => true
  | _ => false

/-- Where a node stands decides which collections may begin there. -/
inductive Position where
  | block
  /-- After a key or a colon a sequence need not be indented. -/
  | blockPart
  | flow
  deriving DecidableEq

mutual

def node : Nat → Position → Composing Node
  | 0, _ => malformed
  | fuel + 1, position => do
    match ← peek with
    | .alias name => do
      let _ ← take
      match (← get).anchors.get? name with
      | some target => return target
      | none => malformed
    | _ => do
      let properties ← takeProperties
      let tag ← fullTag properties.tag
      let start ← match properties.start with
        | some m => pure m
        | none => here
      let _ ← next?
      if let some name := properties.anchor then
        if (← get).anchors.contains name then malformed
      let result ← content fuel position start properties.anchor tag
      remember properties.anchor result
      return result

/-- A node after its properties. A collection can hold its own anchor. -/
def content : Nat → Position → Mark → Option String → Option String → Composing Node
  | 0, _, _, _, _ => malformed
  | fuel + 1, position, start, anchor, tag => do
    let lexeme ← peek
    match lexeme, position with
    | .blockEntry, .blockPart => do
      remember anchor (.endless start false)
      return .sequence start (explicitTag tag) (← plainItems fuel)
    | .scalar text isPlain, _ => do
      let _ ← take
      return .scalar start (explicitTag tag)
        ((isPlain && tag.isNone) || tag == some "!") text
    | .flowSequenceStart, _ => do
      remember anchor (.endless start false)
      let _ ← take
      return .sequence start (explicitTag tag) (← flowItems fuel true)
    | .flowMappingStart, _ => do
      remember anchor (.endless start true)
      let _ ← take
      return .mapping start (explicitTag tag) (← flowEntries fuel true)
    | .blockSequenceStart, .block | .blockSequenceStart, .blockPart => do
      remember anchor (.endless start false)
      let _ ← take
      return .sequence start (explicitTag tag) (← blockItems fuel)
    | .blockMappingStart, .block | .blockMappingStart, .blockPart => do
      remember anchor (.endless start true)
      let _ ← take
      return .mapping start (explicitTag tag) (← blockEntries fuel)
    | _, _ => do
      if anchor.isNone && tag.isNone then malformed
      return .scalar start (explicitTag tag) (explicitTag tag).isNone ""

def nodeUnless : Nat → Position → (Lexeme → Bool) → Mark → Composing Node
  | 0, _, _, _ => malformed
  | fuel + 1, position, ends, mark => do
    if ends (← peek) then return absent mark else node fuel position

def blockItems : Nat → Composing (List Node)
  | 0 => malformed
  | fuel + 1 => do
    if (← peek) = .blockEntry then
      let stop ← take
      let item ← nodeUnless fuel .block endsBlockItem stop
      return item :: (← blockItems fuel)
    else
      expect .blockEnd
      return []

/-- The items of a sequence that is not indented; nothing marks its end. -/
def plainItems : Nat → Composing (List Node)
  | 0 => malformed
  | fuel + 1 => do
    if (← peek) = .blockEntry then
      let stop ← take
      let item ← nodeUnless fuel .block endsPlainItem stop
      return item :: (← plainItems fuel)
    else return []

def blockEntries : Nat → Composing (List (Node × Node))
  | 0 => malformed
  | fuel + 1 => do
    match ← peek with
    | .key => do
      let stop ← take
      let key ← nodeUnless fuel .blockPart endsBlockPart stop
      let value ← valueUnless fuel .blockPart endsBlockPart
      return (key, value) :: (← blockEntries fuel)
    | _ => do
      expect .blockEnd
      return []

def valueUnless : Nat → Position → (Lexeme → Bool) → Composing Node
  | 0, _, _ => malformed
  | fuel + 1, position, ends => do
    let place ← here
    match ← peek with
    | .value => do
      let stop ← take
      nodeUnless fuel position ends stop
    | _ => return absent place

def flowItems : Nat → Bool → Composing (List Node)
  | 0, _ => malformed
  | fuel + 1, isFirst => do
    if ← takeIf .flowSequenceEnd then return []
    unless isFirst do expect .flowEntry
    match ← peek with
    | .key => do
      let start ← here
      let stop ← take
      let key ← nodeUnless fuel .flow endsFlowPair stop
      let value ← valueUnless fuel .flow endsFlowPairValue
      return .mapping start none [(key, value)] :: (← flowItems fuel false)
    | .flowSequenceEnd => do
      let _ ← take
      return []
    | _ => do
      let item ← node fuel .flow
      return item :: (← flowItems fuel false)

def flowEntries : Nat → Bool → Composing (List (Node × Node))
  | 0, _ => malformed
  | fuel + 1, isFirst => do
    if ← takeIf .flowMappingEnd then return []
    unless isFirst do expect .flowEntry
    match ← peek with
    | .key => do
      let stop ← take
      let key ← nodeUnless fuel .flow endsFlowKey stop
      let value ← valueUnless fuel .flow endsFlowValue
      return (key, value) :: (← flowEntries fuel false)
    | .flowMappingEnd => do
      let _ ← take
      return []
    | _ => do
      let key ← node fuel .flow
      let place ← here
      return (key, absent place) :: (← flowEntries fuel false)

end

def defaultHandles : NameTable String := .ofList [("!", "!"), ("!!", "tag:yaml.org,2002:")]

/-- Reads the directives of a document: one version at most, and every handle once. -/
def directives : Nat → Bool → NameTable String → Composing (NameTable String)
  | 0, _, _ => malformed
  | fuel + 1, hasVersion, handles => do
    match ← peek with
    | .directive (.version major _) => do
      if hasVersion || major != 1 then malformed
      let _ ← take
      directives fuel true handles
    | .directive (.tagHandle handle beginning) => do
      if handles.contains handle then malformed
      let _ ← take
      directives fuel hasVersion (handles.insert handle beginning)
    | .directive .unknown => do
      let _ ← take
      directives fuel hasVersion handles
    | _ => return handles

/-- Handles of directives go before the common ones. -/
def withDefaults (handles : NameTable String) : NameTable String :=
  defaultHandles.entries.foldl
    (fun t e => if t.contains e.1 then t else t.insert e.1 e.2) handles

def skipDocumentEnds : Nat → Composing Unit
  | 0 => malformed
  | fuel + 1 => do
    if ← takeIf .documentEnd then skipDocumentEnds fuel

def explicitDocument (fuel : Nat) : Composing Node := do
  let handles ← directives fuel false .empty
  modify fun p => { p with handles := withDefaults handles }
  expect .documentStart
  let place ← here
  match ← peek with
  | .directive _ | .documentStart | .documentEnd | .streamEnd => return absent place
  | _ => node fuel .block

/-- Another document is refused, once its directives have been read. -/
def expectEnd (fuel : Nat) : Composing Unit := do
  unless ← takeIf .streamEnd do
    let _ ← directives fuel false .empty
    malformed

def onlyDocument (fuel : Nat) : Composing (Option Node) := do
  let root ← match ← peek with
    | .streamEnd => pure none
    | .directive _ | .documentStart => some <$> explicitDocument fuel
    | _ => some <$> node fuel .block
  let _ ← takeIf .documentEnd
  skipDocumentEnds fuel
  expectEnd fuel
  return root

def ofScan? (scan : Scan) : Except Error (Option Node) := do
  let fuel := 4 * scan.tokens.length + 8
  let (root, _) ← (onlyDocument fuel).run ⟨scan.tokens, scan.failure, defaultHandles, .empty⟩
  return root

def ofSource? (source : Source) : Except Error (Option Node) :=
  match source.chars? with
  | some cs => ofScan? (Scan.ofChars cs)
  | none => .error .malformed

end Node

end GraphTemplate.Yaml
