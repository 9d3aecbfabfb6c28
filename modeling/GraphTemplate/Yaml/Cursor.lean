import GraphTemplate.Fault

/-!
A place in a document and what follows it, and why a document cannot be loaded. Lines and columns
are counted from zero. The null character, which no document holds, stands for the end of the input.
-/

namespace GraphTemplate.Yaml

structure Mark where
  line : Nat
  column : Nat
  deriving DecidableEq

inductive Problem where
  | duplicateKey (key : String)
  | unhashableKey
  | recursiveNode
  /-- A node that its tag has no values for. -/
  | unsuitable
  deriving DecidableEq

def Problem.message : Problem → String
  | duplicateKey key => "found duplicate key \"" ++ key ++ "\""
  | unhashableKey => "found unhashable key"
  | recursiveNode => "found unconstructable recursive node"
  | unsuitable => "could not determine a constructor"

inductive Error where
  /-- The characters or their arrangement are not those of a document. -/
  | malformed
  | misplaced (problem : Problem) (place : Mark)
  | fault (f : Fault)
  deriving DecidableEq

structure Cursor where
  rest : List Char
  index : Nat
  mark : Mark

def isBreak (c : Char) : Bool :=
  c == '\n' || c == '\r' || c == '\x85' || c == '\u2028' || c == '\u2029'

def isEnd (c : Char) : Bool := c == '\x00'

def isBreakOrEnd (c : Char) : Bool := isBreak c || isEnd c

def isSpaceOrEnd (c : Char) : Bool := c == ' ' || isBreakOrEnd c

def isSeparator (c : Char) : Bool := c == '\t' || isSpaceOrEnd c

def isGap (c : Char) : Bool := c == ' ' || c == '\t'

def isNameChar (c : Char) : Bool :=
  ('0' ≤ c && c ≤ '9') || ('A' ≤ c && c ≤ 'Z') || ('a' ≤ c && c ≤ 'z') || c == '-' || c == '_'

namespace Cursor

def start (cs : List Char) : Cursor := ⟨cs, 0, ⟨0, 0⟩⟩

def peekAt (c : Cursor) (n : Nat) : Char := c.rest.getD n '\x00'

def peek (c : Cursor) : Char := c.peekAt 0

/-- The mark after a character that is followed by others. A carriage return before a line feed
ends no line, and a byte order mark takes no column. -/
def markAfter (m : Mark) (ch : Char) (after : List Char) : Mark :=
  if ch == '\r' && after.head? == some '\n' then ⟨m.line, m.column + 1⟩
  else if isBreak ch then ⟨m.line + 1, 0⟩
  else if ch == '\uFEFF' then m
  else ⟨m.line, m.column + 1⟩

def step (c : Cursor) : Cursor :=
  match c.rest with
  | [] => c
  | ch :: cs => ⟨cs, c.index + 1, markAfter c.mark ch cs⟩

def advance : Nat → Cursor → Cursor
  | 0, c => c
  | n + 1, c => advance n c.step

def span (c : Cursor) (test : Char → Bool) : List Char × Cursor :=
  let taken := c.rest.takeWhile test
  (taken, c.advance taken.length)

def skip (c : Cursor) (test : Char → Bool) : Cursor := (c.span test).2

/-- The line break at a place; all but two kinds are read as a line feed. -/
def lineBreak? (c : Cursor) : Option (Char × Cursor) :=
  match c.rest with
  | '\r' :: '\n' :: _ => some ('\n', c.advance 2)
  | ch :: _ =>
    if ch == '\u2028' || ch == '\u2029' then some (ch, c.step)
    else if isBreak ch then some ('\n', c.step)
    else none
  | [] => none

def hasMarker (c : Cursor) (ch : Char) : Bool :=
  c.rest.take 3 == [ch, ch, ch] && isSeparator (c.peekAt 3)

/-- Whether a document starts or ends here; only asked at the beginning of a line. -/
def atDocumentMarker (c : Cursor) : Bool := c.hasMarker '-' || c.hasMarker '.'

end Cursor

end GraphTemplate.Yaml
