import GraphTemplate.Numeral
import GraphTemplate.Yaml.Scalar
import GraphTemplate.Yaml.Source

/-!
Tokens of a document, and the forms of those that carry names: anchors, aliases, tags and
directives.
-/

namespace GraphTemplate.Yaml

/-- A tag as written: a handle that stands for a beginning, and the rest. -/
structure TagName where
  handle : Option String
  suffix : String
  deriving DecidableEq

inductive Directive where
  | version (major minor : Nat)
  | tagHandle (handle beginning : String)
  | unknown
  deriving DecidableEq

inductive Lexeme where
  | directive (d : Directive)
  | documentStart
  | documentEnd
  | streamEnd
  | blockSequenceStart
  | blockMappingStart
  | blockEnd
  | flowSequenceStart
  | flowSequenceEnd
  | flowMappingStart
  | flowMappingEnd
  | blockEntry
  | flowEntry
  | key
  | value
  | alias (name : String)
  | anchor (name : String)
  | tag (name : TagName)
  | scalar (text : String) (isPlain : Bool)
  deriving DecidableEq

structure Token where
  lexeme : Lexeme
  start : Mark
  stop : Mark
  deriving DecidableEq

namespace Token

open Reading

def endsAnchor (c : Char) : Bool :=
  isSeparator c || c == '?' || c == ':' || c == ',' || c == ']' || c == '\x7d' || c == '%' ||
    c == '@' || c == '\x60'

def anchorName : Reading String := do
  advance 1
  let name ← takeWhile isNameChar
  if name.isEmpty then malformed
  require endsAnchor
  return String.ofList name

def isUriChar (c : Char) : Bool :=
  isNameChar c || c == ';' || c == '/' || c == '?' || c == ':' || c == '@' || c == '&' ||
    c == '=' || c == '+' || c == '$' || c == ',' || c == '.' || c == '!' || c == '~' ||
    c == '*' || c == '\'' || c == '(' || c == ')' || c == '[' || c == ']'

def uriOctets : Nat → Reading (List Nat)
  | 0 => malformed
  | fuel + 1 => do
    if (← peek) == '%' then
      advance 1
      let n ← Scalar.hexCode 2 0
      return n :: (← uriOctets fuel)
    else return []

def uriRest : Nat → Reading (List Char)
  | 0 => malformed
  | fuel + 1 => do
    let text ← takeWhile isUriChar
    if (← peek) == '%' then
      match Source.fromUtf8? (← uriOctets (fuel + 1)) with
      | some escaped => return text ++ escaped ++ (← uriRest fuel)
      | none => malformed
    else return text

def uri : Reading String := do
  let c ← peek
  unless isUriChar c || c == '%' do malformed
  return String.ofList (← uriRest (← fuel))

def tagHandle : Reading String := do
  require (· == '!')
  advance 1
  if (← peek) == ' ' then return "!"
  let name ← takeWhile isNameChar
  require (· == '!')
  advance 1
  return String.ofList ('!' :: name ++ ['!'])

/-- Whether another exclamation mark comes before the next space. -/
def hasHandle (cs : List Char) : Bool :=
  (cs.takeWhile fun c => !isSpaceOrEnd c).contains '!'

def tagName : Reading TagName := do
  let c ← get
  let next := c.peekAt 1
  let name : TagName ←
    if next == '<' then do
      advance 2
      let suffix ← uri
      require (· == '>')
      advance 1
      pure ⟨none, suffix⟩
    else if isSeparator next then do
      advance 1
      pure ⟨none, "!"⟩
    else if hasHandle (c.rest.drop 1) then do
      let handle ← tagHandle
      pure ⟨some handle, ← uri⟩
    else do
      advance 1
      pure ⟨some "!", ← uri⟩
  require isSpaceOrEnd
  return name

def versionNumber : Reading Nat := do
  let ds ← takeWhile fun c => '0' ≤ c && c ≤ '9'
  if ds.isEmpty then malformed
  if digitLimit < ds.length then throw (.fault (.integerTooLong (some ds.length)))
  return ds.foldl (fun n c => n * 10 + (c.toNat - 48)) 0

def versionDirective : Reading Directive := do
  skipWhile (· == ' ')
  let major ← versionNumber
  require (· == '.')
  advance 1
  let minor ← versionNumber
  require isSpaceOrEnd
  return .version major minor

def handleDirective : Reading Directive := do
  skipWhile (· == ' ')
  let handle ← tagHandle
  require (· == ' ')
  skipWhile (· == ' ')
  let beginning ← uri
  require isSpaceOrEnd
  return .tagHandle handle beginning

def directive : Reading Directive := do
  advance 1
  let name ← takeWhile isNameChar
  if name.isEmpty then malformed
  require isSpaceOrEnd
  let d ← match String.ofList name with
    | "YAML" => versionDirective
    | "TAG" => handleDirective
    | _ => do
      skipWhile fun c => !isBreakOrEnd c
      pure .unknown
  Scalar.ignoredLine
  return d

end Token

end GraphTemplate.Yaml
