import GraphTemplate.Numeral
import GraphTemplate.Pattern
import GraphTemplate.Text.Alphanumeric

/-!
Patterns read from text. Reading goes item by item over the characters and escapes of the text; the
fuel that it counts down is more than there are items and groups to be read.
-/

namespace GraphTemplate

namespace Pattern

inductive ReadError where
  | malformed
  | tooManyRepeats
  | conflictingScripts
  deriving DecidableEq

/-- A character, or the character after a backslash; a backslash may also stand alone at the end. -/
inductive Token where
  | char (c : Char)
  | escape (c : Char)
  | dangling
  deriving DecidableEq

def Token.ofChars : List Char → List Token
  | [] => []
  | ['\\'] => [.dangling]
  | '\\' :: c :: cs => .escape c :: ofChars cs
  | c :: cs => .char c :: ofChars cs

def Token.chars : Token → List Char
  | .char c => [c]
  | .escape c => ['\\', c]
  | .dangling => ['\\']

structure Progress where
  rest : List Token
  /-- The number of groups opened so far. -/
  opened : Nat
  /-- The groups that are closed, with their widths. -/
  closed : List (Nat × Width)
  names : List (String × Nat)
  /-- Inside a look behind, the number of groups opened before it. -/
  behind : Option Nat
  options : Options
  /-- The groups that choices depend on. -/
  conditions : List Nat

abbrev Reader := StateT Progress (Except ReadError)

/-- One more repetition than can be asked for. -/
def repeatLimit : Nat := 4294967295

def groupLimit : Nat := 1073741823

def malformed {α : Type} : Reader α := throw .malformed

def peek : Reader (Option Token) := return (← get).rest.head?

def peekChar (c : Char) : Reader Bool := return (← peek) == some (.char c)

def moveTo (rest : List Token) : Reader Unit := do
  if rest.head? == some .dangling then malformed
  modify fun s => { s with rest := rest }

def take : Reader (Option Token) := do
  let rest := (← get).rest
  moveTo rest.tail
  return rest.head?

def takeChar (c : Char) : Reader Bool := do
  if ← peekChar c then
    moveTo (← get).rest.tail
    return true
  else return false

def expectChar (c : Char) : Reader Unit := do unless ← takeChar c do malformed

def takeWhile (most : Nat) (test : Char → Bool) : Reader (List Char) := do
  let rest := (← get).rest
  let run := (rest.take most).takeWhile fun t =>
    match t with
    | .char c => test c
    | _ => false
  moveTo (rest.drop run.length)
  return run.flatMap Token.chars

def takeName (closing : Char) : Reader String := do
  let rest := (← get).rest
  let run := rest.takeWhile (· != .char closing)
  if run.isEmpty || run.length == rest.length then malformed
  moveTo (rest.drop (run.length + 1))
  return String.ofList (run.flatMap Token.chars)

def hexValue? (c : Char) : Option Nat :=
  if '0' ≤ c && c ≤ '9' then some (c.toNat - 48)
  else if 'a' ≤ c && c ≤ 'f' then some (c.toNat - 87)
  else if 'A' ≤ c && c ≤ 'F' then some (c.toNat - 55)
  else none

def isHex (c : Char) : Bool := (hexValue? c).isSome
def isOctal (c : Char) : Bool := '0' ≤ c && c ≤ '7'

def baseValue (base : Nat) (ds : List Char) : Nat :=
  ds.foldl (fun n c => base * n + (hexValue? c).getD 0) 0

def hexCode (digits : Nat) : Reader Nat := do
  let ds ← takeWhile digits isHex
  if ds.length != digits || 0x110000 ≤ baseValue 16 ds then malformed
  return baseValue 16 ds

def controlCode? : Char → Option Nat
  | 'a' => some 7
  | 'f' => some 12
  | 'n' => some 10
  | 'r' => some 13
  | 't' => some 9
  | 'v' => some 11
  | '\\' => some 92
  | _ => none

def category? : Char → Option ClassItem
  | 'd' => some (.digit true)
  | 'D' => some (.digit false)
  | 's' => some (.space true)
  | 'S' => some (.space false)
  | 'w' => some (.word true)
  | 'W' => some (.word false)
  | _ => none

def anchor? : Char → Option Anchor
  | 'A' => some .textStart
  | 'Z' => some .textEnd
  | 'b' => some .boundary
  | 'B' => some .noBoundary
  | _ => none

/-- The code point of an escape that means the same everywhere; letters without a meaning are no
escapes. -/
def commonEscape (c : Char) : Reader Nat := do
  if let some n := controlCode? c then return n
  else if c == 'x' then hexCode 2
  else if c == 'u' then hexCode 4
  else if c == 'U' then hexCode 8
  else if c.isAlphanum then malformed
  else return c.toNat

def octalCode (ds : List Char) : Reader Nat := do
  if 255 < baseValue 8 ds then malformed
  return baseValue 8 ds

def classEscape (c : Char) : Reader ClassItem := do
  if let some item := category? c then return item
  else if c == 'b' then return .char 8
  else if isOctal c then
    let ds ← takeWhile 2 isOctal
    return .char (← octalCode (c :: ds))
  else return .char (← commonEscape c)

/-- A group that may be referred to: it is closed, and inside a look behind it is outside of it. -/
def checkGroup (group : Nat) : Reader Unit := do
  let s ← get
  if (s.closed.lookup group).isNone then malformed
  if let some before := s.behind then
    if before ≤ group then malformed

def backReference (group : Nat) : Reader Node := do
  checkGroup group
  return .again group (((← get).closed.lookup group).getD .zero)

/-- An octal code point of three digits, or the number of a group. -/
def digitEscape (c : Char) : Reader Node := do
  let rest := (← get).rest
  match rest with
  | .char d :: .char e :: _ =>
    if isOctal c && isOctal d && isOctal e then
      moveTo (rest.drop 2)
      return .char (← octalCode [c, d, e])
  | _ => pure ()
  let ds ← takeWhile 1 isAsciiDigit
  let group := digitsValue (c :: ds)
  if (← get).opened < group then malformed
  backReference group

def escapeNode (c : Char) : Reader Node := do
  if let some item := category? c then return .set false [item]
  else if let some a := anchor? c then return .anchor a
  else if c == '0' then
    let ds ← takeWhile 2 isOctal
    return .char (baseValue 8 ds)
  else if isAsciiDigit c then digitEscape c
  else return .char (← commonEscape c)

def classToken : Token → Reader ClassItem
  | .char c => return .char c.toNat
  | .escape c => classEscape c
  | .dangling => malformed

/-- The items of a character class up to its closing bracket, which is an item if it comes first. -/
def classItems : Nat → List ClassItem → Reader (List ClassItem)
  | 0, _ => malformed
  | fuel + 1, items => do
    let some token ← take | malformed
    if token == .char ']' && !items.isEmpty then return items.reverse
    let item ← classToken token
    if ← takeChar '-' then
      let some other ← take | malformed
      if other == .char ']' then return (.char 45 :: item :: items).reverse
      match item, ← classToken other with
      | .char low, .char high =>
        if high < low then malformed
        classItems fuel (.range low high :: items)
      | _, _ => malformed
    else classItems fuel (item :: items)

def isNameStart (c : Char) : Bool := c == '_' || (isAlphanumeric c && !isDecimalDigit c)

def isName (s : String) : Bool :=
  match s.toList with
  | c :: cs => isNameStart c && cs.all isWordChar
  | [] => false

def optionOf? : Char → Option Options
  | 'i' => some { ignoreCase := true }
  | 'm' => some { multiline := true }
  | 's' => some { dotAll := true }
  | 'x' => some { verbose := true }
  | 'a' => some { ascii := true }
  | 'u' => some { unicode := true }
  | 't' => some { template := true }
  | _ => none

def isOption (c : Char) : Bool := (optionOf? c).isSome

def optionsOf (cs : List Char) : Options :=
  cs.foldl (fun o c => o.union ((optionOf? c).getD {})) {}

def Options.meets (a b : Options) : Bool := a.without b != a

def readOptions (c : Char) : Reader (Option (Options × Options)) := do
  let first := if c == '-' then [] else [c]
  let more ← if c == '-' then pure [] else takeWhile (← get).rest.length isOption
  let on := optionsOf (first ++ more)
  if on.ascii && on.unicode then malformed
  if c != '-' then
    if ← takeChar ')' then
      modify fun s => { s with options := s.options.union on }
      return none
    if on.template then malformed
    if ← takeChar ':' then return some (on, {})
    expectChar '-'
  let letters ← takeWhile (← get).rest.length isOption
  let off := optionsOf letters
  if letters.isEmpty || off.ascii || off.unicode || off.template || on.meets off then malformed
  expectChar ':'
  return some (on, off)

def openGroup (name : Option String) : Reader Nat := do
  let s ← get
  let index := s.opened + 1
  match name with
  | none => set { s with opened := index }
  | some n =>
    if (s.names.lookup n).isSome then malformed
    set { s with opened := index, names := (n, index) :: s.names }
  return index

def namedGroup (name : String) : Reader Nat := do
  unless isName name do malformed
  let some index := (← get).names.lookup name | malformed
  return index

def conditionGroup (name : String) : Reader Nat := do
  if isName name then namedGroup name
  else
    match readInteger name.toList with
    | .ok n =>
      if n ≤ 0 || (groupLimit : Int) ≤ n then malformed
      modify fun s => { s with conditions := n.toNat :: s.conditions }
      return n.toNat
    | .error _ => malformed

/-- The least and most repetitions between braces, if that is what the braces hold. -/
def readBounds? : Reader (Option (Nat × Option Nat)) := do
  let start := (← get).rest
  if ← peekChar '}' then return none
  let low ← takeWhile start.length isAsciiDigit
  let high ← if ← takeChar ',' then takeWhile start.length isAsciiDigit else pure low
  unless ← takeChar '}' do
    moveTo start
    return none
  let least := digitsValue low
  if repeatLimit ≤ least then throw .tooManyRepeats
  if high.isEmpty then return some (least, none)
  let most := digitsValue high
  if repeatLimit ≤ most then throw .tooManyRepeats
  if most < least then malformed
  return some (least, some most)

def quantifier? (c : Char) : Reader (Option (Nat × Option Nat)) := do
  match c with
  | '*' => return some (0, none)
  | '+' => return some (1, none)
  | '?' => return some (0, some 1)
  | '{' => readBounds?
  | _ => return none

def Node.isRepeatable : Node → Bool
  | .anchor _ | .repeated .. => false
  | _ => true

/-- The items, latest first, with the latest repeated. -/
def repeatLast (bounds : Nat × Option Nat) : List Node → Reader (List Node)
  | item :: items => do
    unless item.isRepeatable do malformed
    let repeated (mode : Repetition) := Node.repeated mode bounds.1 bounds.2 [item] :: items
    if ← takeChar '?' then return repeated .lazy
    if ← takeChar '+' then return repeated .possessive
    return repeated .greedy
  | [] => malformed

def skipPast (c : Char) : Reader Bool := do
  let rest := (← get).rest
  let run := rest.takeWhile (· != .char c)
  moveTo (rest.drop (run.length + 1))
  return run.length < rest.length

def isVerboseBlank (c : Char) : Bool :=
  c == ' ' || c == '\t' || c == '\n' || c == '\r' || c == '\x0b' || c == '\x0c'

mutual

/-- Branches separated by bars. Only at the top may the pattern set options for all of itself. -/
def branches : Nat → Bool → Bool → List (List Node) → Reader (List (List Node))
  | 0, _, _, _ => malformed
  | fuel + 1, verbose, top, done => do
    let branch ← items fuel verbose (top && done.isEmpty) []
    if ← takeChar '|' then
      let global := (← get).options.verbose
      branches fuel (if top then global else verbose) top (branch :: done)
    else return (branch :: done).reverse

def items : Nat → Bool → Bool → List Node → Reader (List Node)
  | 0, _, _, _ => malformed
  | fuel + 1, verbose, first, done => do
    match ← peek with
    | none => return done.reverse
    | some (.char '|') => return done.reverse
    | some (.char ')') => return done.reverse
    | some .dangling => malformed
    | some (.escape c) =>
      let _ ← take
      items fuel verbose first ((← escapeNode c) :: done)
    | some (.char c) =>
      let _ ← take
      if verbose && isVerboseBlank c then items fuel verbose first done
      else if verbose && c == '#' then
        let _ ← skipPast '\n'
        items fuel verbose first done
      else if c == '[' then
        let negated ← takeChar '^'
        let members ← classItems ((← get).rest.length + 1) []
        items fuel verbose first (.set negated members :: done)
      else if c == '.' then items fuel verbose first (.any :: done)
      else if c == '^' then items fuel verbose first (.anchor .start :: done)
      else if c == '$' then items fuel verbose first (.anchor .finish :: done)
      else if c == '(' then
        match ← group fuel verbose (first && done.isEmpty) with
        | some node => items fuel verbose first (node :: done)
        | none =>
          let global := (← get).options.verbose
          items fuel (verbose || (first && done.isEmpty && global)) first done
      else
        match ← quantifier? c with
        | some bounds => items fuel verbose first (← repeatLast bounds done)
        | none => items fuel verbose first (.char c.toNat :: done)

/-- What follows an opening parenthesis, up to the closing one; comments and options for the whole
pattern are no item. -/
def group : Nat → Bool → Bool → Reader (Option Node)
  | 0, _, _ => malformed
  | fuel + 1, verbose, first => do
    unless ← takeChar '?' do return some (← capture fuel verbose none)
    let some (.char c) ← take | malformed
    if c == 'P' then
      let some (.char d) ← take | malformed
      if d == '<' then
        let name ← takeName '>'
        unless isName name do malformed
        return some (← capture fuel verbose (some name))
      else if d == '=' then
        let index ← namedGroup (← takeName ')')
        return some (← backReference index)
      else malformed
    else if c == ':' then return some (.group none {} {} (← insides fuel verbose))
    else if c == '#' then
      unless ← skipPast ')' do malformed
      return none
    else if c == '=' || c == '!' then
      return some (.look true (c == '=') (← insides fuel verbose))
    else if c == '<' then
      let some (.char d) ← take | malformed
      unless d == '=' || d == '!' do malformed
      let before := (← get).behind
      modify fun s => { s with behind := some (before.getD (s.opened + 1)) }
      let found ← insides fuel verbose
      modify fun s => { s with behind := before }
      return some (.look false (d == '=') found)
    else if c == '(' then
      let index ← conditionGroup (← takeName ')')
      if (← get).behind.isSome then checkGroup index
      let yes ← items fuel verbose false []
      let no ← if ← takeChar '|' then items fuel verbose false [] else pure []
      expectChar ')'
      return some (.whether index yes no)
    else if c == '>' then return some (.atomic (← insides fuel verbose))
    else if isOption c || c == '-' then
      match ← readOptions c with
      | none =>
        unless first do malformed
        return none
      | some (on, off) =>
        let inner := (verbose || on.verbose) && !off.verbose
        return some (.group none on off (← insides fuel inner))
    else malformed

def insides : Nat → Bool → Reader (List Node)
  | 0, _ => malformed
  | fuel + 1, verbose => do
    let found ← branches fuel verbose false []
    expectChar ')'
    return match found with
      | [one] => one
      | many => [.choice many]

def capture : Nat → Bool → Option String → Reader Node
  | 0, _, _ => malformed
  | fuel + 1, verbose, name => do
    let index ← openGroup name
    let found ← insides fuel verbose
    modify fun s => { s with closed := (index, sequenceWidth found) :: s.closed }
    return .group (some index) {} {} found

end

def wholePattern (fuel : Nat) : Reader Pattern := do
  moveTo (← get).rest
  let found ← branches fuel false true []
  let s ← get
  if s.options.ascii && s.options.unicode then throw .conflictingScripts
  unless s.rest.isEmpty do malformed
  if s.conditions.any (s.opened < ·) then malformed
  let nodes := match found with
    | [one] => one
    | many => [.choice many]
  unless allSound s.options.template nodes do malformed
  return ⟨s.options, nodes⟩

end Pattern

def Pattern.read (text : String) : Except Pattern.ReadError Pattern :=
  let tokens := Pattern.Token.ofChars text.toList
  ((Pattern.wholePattern (6 * tokens.length + 6)).run ⟨tokens, 0, [], [], none, {}, []⟩).map
    Prod.fst

end GraphTemplate
