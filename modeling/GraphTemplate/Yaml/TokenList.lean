import GraphTemplate.Yaml.Token

/-! The tokens of a whole document. Indentation opens and closes block collections. A token that
may turn out to be a key is remembered until the colon after it is met or cannot come any more.
Tokens are fetched as they are asked for, so that those before a failure count. -/

namespace GraphTemplate.Yaml

structure PossibleKey where
  /-- The number of tokens before it. -/
  position : Nat
  /-- Nothing but a key can stand there. -/
  isRequired : Bool
  index : Nat
  mark : Mark

structure Lexer where
  cursor : Cursor
  tokens : Array Token
  /-- The number of flow collections that are open. -/
  flow : Nat
  /-- The column of the innermost block collection, -1 outside of all. -/
  indent : Int
  /-- The columns of the block collections around it. -/
  outer : List Int
  allowsKey : Bool
  /-- At most one possible key for every depth of flow collections. -/
  keys : List (Nat × PossibleKey)
  isDone : Bool

namespace Lexer

abbrev Lexing := StateT Lexer (Except Error)

def start (cs : List Char) : Lexer :=
  ⟨Cursor.start cs, #[], 0, -1, [], true, [], false⟩

def malformed {α : Type} : Lexing α := throw .malformed

def read {α : Type} (reading : Reading α) : Lexing α := do
  let l ← get
  let (a, cursor) ← reading.run l.cursor
  set { l with cursor := cursor }
  return a

def mark : Lexing Mark := return (← get).cursor.mark

def column : Lexing Int := return (← get).cursor.mark.column

def inFlow : Lexing Bool := return (← get).flow != 0

def push (t : Token) : Lexing Unit := modify fun l => { l with tokens := l.tokens.push t }

def pushHere (lexeme : Lexeme) : Lexing Unit := do
  let m ← mark
  push ⟨lexeme, m, m⟩

def pushChars (n : Nat) (lexeme : Lexeme) : Lexing Unit := do
  let start ← mark
  read (Reading.advance n)
  push ⟨lexeme, start, ← mark⟩

def pushRead (reading : Reading Lexeme) : Lexing Unit := do
  let start ← mark
  let lexeme ← read reading
  push ⟨lexeme, start, ← mark⟩

def allowKey (b : Bool) : Lexing Unit := modify fun l => { l with allowsKey := b }

/-- A key stands on one line and is not longer than 1024 characters. -/
def isStale (c : Cursor) (k : PossibleKey) : Bool :=
  k.mark.line != c.mark.line || k.index + 1024 < c.index

def dropStaleKeys : Lexing Unit := do
  let l ← get
  if l.keys.any fun k => isStale l.cursor k.2 && k.2.isRequired then malformed
  set { l with keys := l.keys.filter fun k => !isStale l.cursor k.2 }

def dropKey : Lexing Unit := do
  let l ← get
  match l.keys.lookup l.flow with
  | some k =>
    if k.isRequired then malformed
    set { l with keys := l.keys.filter (·.1 != l.flow) }
  | none => pure ()

def saveKey : Lexing Unit := do
  if (← get).allowsKey then
    dropKey
    let l ← get
    let isRequired := l.flow == 0 && l.indent == (l.cursor.mark.column : Int)
    let k : PossibleKey := ⟨l.tokens.size, isRequired, l.cursor.index, l.cursor.mark⟩
    set { l with keys := (l.flow, k) :: l.keys }

def closeBlocks (column : Int) : List Int → Lexing Unit
  | [] => pure ()
  | outer :: rest => do
    if (← get).indent > column then
      pushHere .blockEnd
      modify fun l => { l with indent := outer, outer := rest }
      closeBlocks column rest

def unwind (column : Int) : Lexing Unit := do
  unless ← inFlow do closeBlocks column (← get).outer

def openBlock (column : Int) : Lexing Bool := do
  let l ← get
  if l.indent < column then
    set { l with indent := column, outer := l.indent :: l.outer }
    return true
  else return false

/-- Opens a block collection where a key may stand; in flow collections nothing is opened. -/
def openBlockHere (lexeme : Lexeme) : Lexing Unit := do
  unless ← inFlow do
    unless (← get).allowsKey do malformed
    if ← openBlock (← column) then pushHere lexeme

def fetchStreamEnd : Lexing Unit := do
  unwind (-1)
  dropKey
  modify fun l => { l with allowsKey := false, keys := [], isDone := true }
  pushHere .streamEnd

def fetchDirective : Lexing Unit := do
  unwind (-1)
  dropKey
  allowKey false
  pushRead (Lexeme.directive <$> Token.directive)

def fetchDocumentMarker (lexeme : Lexeme) : Lexing Unit := do
  unwind (-1)
  dropKey
  allowKey false
  pushChars 3 lexeme

def fetchFlowStart (lexeme : Lexeme) : Lexing Unit := do
  saveKey
  modify fun l => { l with flow := l.flow + 1, allowsKey := true }
  pushChars 1 lexeme

def fetchFlowEnd (lexeme : Lexeme) : Lexing Unit := do
  dropKey
  unless ← inFlow do malformed
  modify fun l => { l with flow := l.flow - 1, allowsKey := false }
  pushChars 1 lexeme

def fetchFlowEntry : Lexing Unit := do
  allowKey true
  dropKey
  pushChars 1 .flowEntry

def fetchBlockEntry : Lexing Unit := do
  openBlockHere .blockSequenceStart
  allowKey true
  dropKey
  pushChars 1 .blockEntry

def fetchKey : Lexing Unit := do
  openBlockHere .blockMappingStart
  allowKey !(← inFlow)
  dropKey
  pushChars 1 .key

def insertAt (position : Nat) (t : Token) : Lexing Unit :=
  modify fun l => { l with tokens := l.tokens.insertIdxIfInBounds position t }

/-- A colon after a possible key makes it one. -/
def fetchValue : Lexing Unit := do
  let l ← get
  match l.keys.lookup l.flow with
  | some k => do
    set { l with keys := l.keys.filter (·.1 != l.flow) }
    insertAt k.position ⟨.key, k.mark, k.mark⟩
    unless ← inFlow do
      if ← openBlock k.mark.column then
        insertAt k.position ⟨.blockMappingStart, k.mark, k.mark⟩
    allowKey false
  | none => do
    openBlockHere .blockMappingStart
    allowKey !(← inFlow)
    dropKey
  pushChars 1 .value

def fetchNode (reading : Reading Lexeme) : Lexing Unit := do
  saveKey
  allowKey false
  pushRead reading

def fetchBlockScalar (isFolded : Bool) : Lexing Unit := do
  allowKey true
  dropKey
  let parent := (← get).indent
  pushRead ((Lexeme.scalar · false) <$> Scalar.block isFolded parent)

def fetchPlain : Lexing Unit := do
  saveKey
  allowKey false
  let l ← get
  let start ← mark
  let (text, atLineStart) ← read (Scalar.plain (l.flow != 0) (l.indent + 1))
  if atLineStart then allowKey true
  push ⟨.scalar text true, start, ← mark⟩

/-- Skips blanks, comments and line breaks. After a line break a key may stand, save in flow
collections. -/
def skipToToken : Nat → Lexing Unit
  | 0 => malformed
  | fuel + 1 => do
    read (Reading.skipWhile (· == ' '))
    if (← get).cursor.peek == '#' then read (Reading.skipWhile fun c => !isBreakOrEnd c)
    match ← read Reading.lineBreak? with
    | some _ => do
      unless ← inFlow do allowKey true
      skipToToken fuel
    | none => pure ()

def skipByteOrderMark : Lexing Unit := do
  let c := (← get).cursor
  if c.index == 0 && c.peek == '\uFEFF' then read (Reading.advance 1)

def isIndicator (c : Char) : Bool :=
  "-?:,[]\x7b\x7d#&*!|>'\"%@\x60".toList.contains c

def startsPlain (inFlow : Bool) (c next : Char) : Bool :=
  !(isSeparator c || isIndicator c) ||
    (!isSeparator next && (c == '-' || (!inFlow && (c == '?' || c == ':'))))

def fetch : Lexing Unit := do
  skipByteOrderMark
  skipToToken ((← get).cursor.rest.length + 1)
  dropStaleKeys
  unwind (← column)
  let flow ← inFlow
  let cursor := (← get).cursor
  let atLineStart := cursor.mark.column == 0
  let c := cursor.peek
  let next := cursor.peekAt 1
  if isEnd c then fetchStreamEnd
  else if c == '%' && atLineStart then fetchDirective
  else if atLineStart && cursor.hasMarker '-' then fetchDocumentMarker .documentStart
  else if atLineStart && cursor.hasMarker '.' then fetchDocumentMarker .documentEnd
  else if c == '[' then fetchFlowStart .flowSequenceStart
  else if c == '\x7b' then fetchFlowStart .flowMappingStart
  else if c == ']' then fetchFlowEnd .flowSequenceEnd
  else if c == '\x7d' then fetchFlowEnd .flowMappingEnd
  else if c == ',' then fetchFlowEntry
  else if c == '-' && isSeparator next then fetchBlockEntry
  else if c == '?' && (flow || isSeparator next) then fetchKey
  else if c == ':' && (flow || isSeparator next) then fetchValue
  else if c == '*' then fetchNode (Lexeme.alias <$> Token.anchorName)
  else if c == '&' then fetchNode (Lexeme.anchor <$> Token.anchorName)
  else if c == '!' then fetchNode (Lexeme.tag <$> Token.tagName)
  else if c == '|' && !flow then fetchBlockScalar false
  else if c == '>' && !flow then fetchBlockScalar true
  else if c == '\'' || c == '"' then fetchNode ((Lexeme.scalar · false) <$> Scalar.quoted c)
  else if startsPlain flow c next then fetchPlain
  else malformed

end Lexer

/-- Tokens to the end of the stream, or those that can be had before fetching one fails. -/
structure Scan where
  tokens : List Token
  failure : Option Error

namespace Lexer

/-- The tokens that can be told without fetching another one: those before the first that may still
turn out to be a key. -/
def settled (l : Lexer) : List Token :=
  let waiting := l.keys.filter fun k => !isStale l.cursor k.2
  l.tokens.toList.take (waiting.foldl (fun n k => min n k.2.position) l.tokens.size)

/-- Every step but the last takes a character at least. -/
def fetchAll : Nat → Lexer → Scan
  | 0, l => ⟨l.settled, some .malformed⟩
  | fuel + 1, l =>
    match fetch.run l with
    | .error e => ⟨l.settled, some e⟩
    | .ok (_, l) => if l.isDone then ⟨l.tokens.toList, none⟩ else fetchAll fuel l

end Lexer

def Scan.ofChars (cs : List Char) : Scan := Lexer.fetchAll (cs.length + 1) (Lexer.start cs)

end GraphTemplate.Yaml
