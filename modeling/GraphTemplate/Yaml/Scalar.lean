import GraphTemplate.Yaml.Cursor

/-!
The texts of scalars in their five styles: plain, single and double quoted, literal and folded.
Line breaks inside are folded as the style asks.
-/

namespace GraphTemplate.Yaml

abbrev Reading := StateT Cursor (Except Error)

namespace Reading

def malformed {α : Type} : Reading α := throw .malformed

def peek : Reading Char := return (← get).peek

def peekAt (n : Nat) : Reading Char := return (← get).peekAt n

def advance (n : Nat) : Reading Unit := modify (·.advance n)

def takeWhile (test : Char → Bool) : Reading (List Char) := modifyGet fun c => c.span test

def skipWhile (test : Char → Bool) : Reading Unit := modify (·.skip test)

def lineBreak? : Reading (Option Char) := modifyGet fun c =>
  match c.lineBreak? with
  | some (ch, d) => (some ch, d)
  | none => (none, c)

/-- More steps than can be taken before the input ends. -/
def fuel : Reading Nat := return (← get).rest.length + 1

def require (test : Char → Bool) : Reading Unit := do
  unless test (← peek) do malformed

end Reading

open Reading

namespace Scalar

/-- A single line break becomes a space; of several the first is dropped. -/
def folded (first : Char) (others : List Char) : List Char :=
  (if first != '\n' then [first] else if others.isEmpty then [' '] else []) ++ others

def hexDigitValue? (c : Char) : Option Nat :=
  if '0' ≤ c && c ≤ '9' then some (c.toNat - 48)
  else if 'a' ≤ c && c ≤ 'f' then some (c.toNat - 87)
  else if 'A' ≤ c && c ≤ 'F' then some (c.toNat - 55)
  else none

def hexCode : Nat → Nat → Reading Nat
  | 0, n => pure n
  | digits + 1, n => do
    let some d := hexDigitValue? (← peek) | malformed
    advance 1
    hexCode digits (n * 16 + d)

def replacement? : Char → Option Char
  | '0' => some '\x00'
  | 'a' => some '\x07'
  | 'b' => some '\x08'
  | 't' => some '\t'
  | '\t' => some '\t'
  | 'n' => some '\n'
  | 'v' => some '\x0b'
  | 'f' => some '\x0c'
  | 'r' => some '\r'
  | 'e' => some '\x1b'
  | ' ' => some ' '
  | '"' => some '"'
  | '\\' => some '\\'
  | '/' => some '/'
  | 'N' => some '\x85'
  | '_' => some '\xa0'
  | 'L' => some '\u2028'
  | 'P' => some '\u2029'
  | _ => none

def codeLength? : Char → Option Nat
  | 'x' => some 2
  | 'u' => some 4
  | 'U' => some 8
  | _ => none

/-- The character of a code; half a surrogate pair has none and becomes a replacement mark. -/
def charOfCode (n : Nat) : Except Error Char :=
  if n < 1114112 then .ok (if n.isValidChar then Char.ofNat n else '\uFFFD')
  else if n < 2147483648 then .error (.fault (.badValue "chr() arg not in range(0x110000)"))
  else .error (.fault (.outOfRange "Python int too large to convert to C int"))

/-- Line breaks with the gaps before the text goes on. No document may start or end in between. -/
def quotedBreaks : Nat → Reading (List Char)
  | 0 => malformed
  | fuel + 1 => do
    if (← get).atDocumentMarker then malformed
    skipWhile isGap
    match ← lineBreak? with
    | some ch => return ch :: (← quotedBreaks fuel)
    | none => return []

def quotedGap : Reading (List Char) := do
  let gap ← takeWhile isGap
  if isEnd (← peek) then malformed
  match ← lineBreak? with
  | some first => return folded first (← quotedBreaks (← fuel))
  | none => return gap

def escape : Reading (List Char) := do
  let c ← peek
  match replacement? c, codeLength? c with
  | some r, _ => do
    advance 1
    return [r]
  | none, some digits => do
    advance 1
    return [← charOfCode (← hexCode digits 0)]
  | none, none => do
    let some _ ← lineBreak? | malformed
    quotedBreaks (← fuel)

def isQuotedChar (c : Char) : Bool :=
  !(c == '\'' || c == '"' || c == '\\' || isSeparator c)

def quotedRest (quote : Char) : Nat → Reading (List Char)
  | 0 => malformed
  | fuel + 1 => do
    let text ← takeWhile isQuotedChar
    let c ← peek
    if c == quote then
      advance 1
      if quote == '\'' && (← peek) == '\'' then
        advance 1
        return text ++ '\'' :: (← quotedRest quote fuel)
      else return text
    else if c == '\\' && quote == '"' then
      advance 1
      let escaped ← escape
      return text ++ escaped ++ (← quotedRest quote fuel)
    else if c == '\'' || c == '"' || c == '\\' then
      advance 1
      return text ++ c :: (← quotedRest quote fuel)
    else
      let gap ← quotedGap
      return text ++ gap ++ (← quotedRest quote fuel)

def quoted (quote : Char) : Reading String := do
  advance 1
  return String.ofList (← quotedRest quote (← fuel))

def isFlowEnd (c : Char) : Bool := c == ',' || c == '[' || c == ']' || c == '\x7b' || c == '\x7d'

def plainLength (inFlow : Bool) : List Char → Nat
  | [] => 0
  | c :: cs =>
    let next := cs.headD '\x00'
    if isSeparator c || (c == ':' && (isSeparator next || (inFlow && isFlowEnd next))) ||
      (inFlow && (c == '?' || isFlowEnd c)) then 0
    else plainLength inFlow cs + 1

/-- Line breaks before the text goes on, or nothing if a document starts or ends there. -/
def plainBreaks : Nat → Reading (Option (List Char))
  | 0 => malformed
  | fuel + 1 => do
    skipWhile (· == ' ')
    match ← lineBreak? with
    | none => return some []
    | some ch =>
      if (← get).atDocumentMarker then return none
      return (← plainBreaks fuel).map (ch :: ·)

def plainGap : Reading (List Char × Bool) := do
  let gap ← takeWhile (· == ' ')
  match ← lineBreak? with
  | none => return (gap, false)
  | some first =>
    if (← get).atDocumentMarker then return ([], true)
    match ← plainBreaks (← fuel) with
    | some others => return (folded first others, true)
    | none => return ([], true)

/-- The pieces of text with the gaps between them; `indent` is the least column of a line. -/
def plainRest (inFlow : Bool) (indent : Int) : Nat → List Char → Bool → Reading (List Char × Bool)
  | 0, _, _ => malformed
  | fuel + 1, gap, atLineStart => do
    let c ← get
    let length := if c.peek == '#' then 0 else plainLength inFlow c.rest
    if length == 0 then return ([], atLineStart)
    let piece := c.rest.take length
    advance length
    let (next, isLineStart) ← plainGap
    let c ← get
    if next.isEmpty || c.peek == '#' || (!inFlow && (c.mark.column : Int) < indent) then
      return (gap ++ piece, isLineStart)
    let (text, atEnd) ← plainRest inFlow indent fuel next isLineStart
    return (gap ++ piece ++ text, atEnd)

/-- A plain scalar, and whether a new line has begun after it. -/
def plain (inFlow : Bool) (indent : Int) : Reading (String × Bool) := do
  let (text, atLineStart) ← plainRest inFlow indent (← fuel) [] false
  return (String.ofList text, atLineStart)

inductive Chomping where
  | clip
  | strip
  | keep
  deriving DecidableEq

def chomping? : Reading (Option Chomping) := do
  let c ← peek
  if c == '+' || c == '-' then
    advance 1
    return some (if c == '+' then .keep else .strip)
  else return none

def increment? : Reading (Option Nat) := do
  let c ← peek
  if '0' ≤ c && c ≤ '9' then
    if c == '0' then malformed
    advance 1
    return some (c.toNat - 48)
  else return none

def blockIndicators : Reading (Chomping × Option Nat) := do
  match ← chomping? with
  | some chomping => do
    let increment ← increment?
    require isSpaceOrEnd
    return (chomping, increment)
  | none => do
    let increment ← increment?
    let chomping ← if increment.isSome then chomping? else pure none
    require isSpaceOrEnd
    return (chomping.getD .clip, increment)

def ignoredLine : Reading Unit := do
  skipWhile (· == ' ')
  if (← peek) == '#' then skipWhile fun c => !isBreakOrEnd c
  require isBreakOrEnd
  let _ ← lineBreak?

/-- Empty lines at the beginning, and the widest column that they or the first line reach. -/
def blockIndentation : Nat → Nat → Reading (List Char × Nat)
  | 0, _ => malformed
  | fuel + 1, widest => do
    skipWhile (· == ' ')
    let widest := max widest (← get).mark.column
    match ← lineBreak? with
    | some ch => do
      let (breaks, widest) ← blockIndentation fuel widest
      return (ch :: breaks, widest)
    | none => return ([], widest)

def skipIndent (indent : Nat) : Reading Unit := do
  let c ← get
  let spaces := (c.rest.takeWhile (· == ' ')).length
  advance (min spaces (indent - c.mark.column))

def blockBreaks (indent : Nat) : Nat → Reading (List Char)
  | 0 => malformed
  | fuel + 1 => do
    skipIndent indent
    match ← lineBreak? with
    | some ch => return ch :: (← blockBreaks indent fuel)
    | none => return []

/-- A block scalar's text, the line break that ends it and the empty lines after it. -/
structure BlockText where
  text : List Char
  lastBreak : List Char
  trailing : List Char

def blockLines (isFolded : Bool) (indent : Nat) : Nat → List Char → Reading BlockText
  | 0, _ => malformed
  | fuel + 1, breaks => do
    let c ← get
    if c.mark.column != indent || isEnd c.peek then return ⟨[], [], breaks⟩
    let line ← takeWhile fun ch => !isBreakOrEnd ch
    let lastBreak ← lineBreak?
    let next ← blockBreaks indent (fuel + 1)
    let d ← get
    if d.mark.column == indent && !isEnd d.peek then
      let glue :=
        if isFolded && lastBreak == some '\n' && !isGap c.peek && !isGap d.peek then
          if next.isEmpty then [' '] else []
        else lastBreak.toList
      let rest ← blockLines isFolded indent fuel next
      return { rest with text := breaks ++ line ++ glue ++ rest.text }
    else return ⟨breaks ++ line, lastBreak.toList, next⟩

def block (isFolded : Bool) (parent : Int) : Reading String := do
  advance 1
  let (chomping, increment) ← blockIndicators
  ignoredLine
  let least := (max 1 (parent + 1)).toNat
  let (breaks, indent) ← match increment with
    | some n => do
      let indent := least + n - 1
      pure (← blockBreaks indent (← fuel), indent)
    | none => do
      let (breaks, widest) ← blockIndentation (← fuel) 0
      pure (breaks, max least widest)
  let b ← blockLines isFolded indent (← fuel) breaks
  let ending := match chomping with
    | .strip => []
    | .clip => b.lastBreak
    | .keep => b.lastBreak ++ b.trailing
  return String.ofList (b.text ++ ending)

end Scalar

end GraphTemplate.Yaml
