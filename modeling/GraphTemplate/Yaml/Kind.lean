import GraphTemplate.Moment.Reading
import GraphTemplate.Yaml.Node

/-!
Kinds of nodes. A tag names a kind; without one, a collection has the kind of its form, and a plain
scalar the kind that its text looks like.
-/

namespace GraphTemplate.Yaml

inductive Kind where
  | null
  | bool
  | int
  | float
  | binary
  | timestamp
  | text
  | list
  | mapping
  | set
  /-- Pairs in order, as a sequence of mappings with one entry each. -/
  | pairs
  /-- A key whose value is merged into the mapping. -/
  | merge
  /-- A key for the text that a mapping stands for. -/
  | value
  | unknown
  deriving DecidableEq

namespace Kind

def tags : List (String × Kind) :=
  [("null", null), ("bool", bool), ("int", int), ("float", float), ("binary", binary),
    ("timestamp", timestamp), ("str", text), ("seq", list), ("map", mapping), ("set", set),
    ("omap", pairs), ("pairs", pairs), ("merge", merge), ("value", value)]

def ofTag (tag : String) : Kind :=
  ((tags.find? fun t => "tag:yaml.org,2002:" ++ t.1 == tag).map Prod.snd).getD unknown

def nullWords : List String := ["", "~", "null", "Null", "NULL"]

def trueWords : List String := ["yes", "Yes", "YES", "true", "True", "TRUE", "on", "On", "ON"]

def falseWords : List String := ["no", "No", "NO", "false", "False", "FALSE", "off", "Off", "OFF"]

def isDigitOrLine (c : Char) : Bool := isAsciiDigit c || c == '_'

def withoutSign : List Char → List Char
  | '-' :: cs => cs
  | '+' :: cs => cs
  | cs => cs

/-- What follows parts of sixty: each a colon and one or two digits. -/
def afterSixties : List Char → List Char
  | ':' :: a :: b :: cs =>
    if '0' ≤ a && a ≤ '5' && isAsciiDigit b then afterSixties cs
    else if isAsciiDigit a then
      if b == ':' then afterSixties (b :: cs) else b :: cs
    else ':' :: a :: b :: cs
  | [':', a] => if isAsciiDigit a then [] else [':', a]
  | cs => cs
  termination_by cs => cs.length

def nonEmptyAll (test : Char → Bool) (cs : List Char) : Bool := !cs.isEmpty && cs.all test

def isHexOrLine (c : Char) : Bool :=
  isDigitOrLine c || ('a' ≤ c && c ≤ 'f') || ('A' ≤ c && c ≤ 'F')

def isInt (cs : List Char) : Bool :=
  match withoutSign cs with
  | ['0'] => true
  | '0' :: 'b' :: ds => nonEmptyAll (fun c => c == '0' || c == '1' || c == '_') ds
  | '0' :: 'x' :: ds => nonEmptyAll isHexOrLine ds
  | '0' :: ds => nonEmptyAll (fun c => ('0' ≤ c && c ≤ '7') || c == '_') ds
  | c :: ds =>
    '1' ≤ c && c ≤ '9' && (afterSixties (ds.dropWhile isDigitOrLine)).isEmpty
  | [] => false

def isExponent : List Char → Bool
  | [] => true
  | e :: s :: ds => (e == 'e' || e == 'E') && (s == '-' || s == '+') && nonEmptyAll isAsciiDigit ds
  | _ => false

def afterDigits? : List Char → Option (List Char)
  | c :: cs => if isAsciiDigit c then some (cs.dropWhile isDigitOrLine) else none
  | [] => none

def isPointed (allowsExponent : Bool) : List Char → Bool
  | '.' :: cs =>
    let rest := cs.dropWhile isDigitOrLine
    rest.isEmpty || (allowsExponent && isExponent rest)
  | _ => false

def infinityWords : List String := [".inf", ".Inf", ".INF"]
def notNumberWords : List String := [".nan", ".NaN", ".NAN"]

/-- Numbers with a point, of base ten or sixty, and those that are none. -/
def isFloat (cs : List Char) : Bool :=
  let body := withoutSign cs
  notNumberWords.contains (String.ofList cs) || infinityWords.contains (String.ofList body) ||
    (match cs with
      | '.' :: ds => (afterDigits? ds).any isExponent
      | _ => false) ||
    (match afterDigits? body with
      | some rest => isPointed true rest || (rest.head? == some ':' &&
          isPointed false (afterSixties rest))
      | none => false)

end Kind

inductive Zone where
  | universal
  | offset (negative : Bool) (hours minutes : Nat)
  deriving DecidableEq

structure StampTime where
  hour : Nat
  minute : Nat
  second : Nat
  /-- Digits after the point. -/
  fraction : List Char
  zone : Option Zone
  deriving DecidableEq

/-- A timestamp as it is written, whether or not there is such a day and time. -/
structure Stamp where
  year : Nat
  month : Nat
  day : Nat
  time : Option StampTime
  deriving DecidableEq

namespace Stamp

def oneOrTwo? : List Char → Option (Nat × List Char)
  | a :: b :: cs =>
    if isAsciiDigit a then
      if isAsciiDigit b then some (digitsValue [a, b], cs) else some (digitsValue [a], b :: cs)
    else none
  | [a] => if isAsciiDigit a then some (digitsValue [a], []) else none
  | [] => none

def after? (c : Char) : List Char → Option (List Char)
  | d :: cs => if d == c then some cs else none
  | [] => none

/-- What separates a time from a date: the letter or blanks. -/
def afterSeparator? : List Char → Option (List Char)
  | c :: cs =>
    if c == 'T' || c == 't' then some cs
    else if isGap c then some (cs.dropWhile isGap)
    else none
  | [] => none

def zone? (cs : List Char) : Option (Option Zone) :=
  if cs.isEmpty then some none
  else
    match cs.dropWhile isGap with
    | ['Z'] => some (some .universal)
    | sign :: rest => do
      guard (sign == '-' || sign == '+')
      let (hours, rest) ← oneOrTwo? rest
      if rest.isEmpty then return some (.offset (sign == '-') hours 0)
      let (minutes, rest) ← Moment.twoDigits? (← after? ':' rest)
      guard rest.isEmpty
      return some (.offset (sign == '-') hours minutes)
    | [] => none

def time? (cs : List Char) : Option StampTime := do
  let (hour, rest) ← oneOrTwo? (← afterSeparator? cs)
  let (minute, rest) ← Moment.twoDigits? (← after? ':' rest)
  let (second, rest) ← Moment.twoDigits? (← after? ':' rest)
  let (fraction, rest) := match rest with
    | '.' :: more => more.span isAsciiDigit
    | _ => ([], rest)
  return ⟨hour, minute, second, fraction, ← zone? rest⟩

def ofChars? (cs : List Char) : Option Stamp := do
  let year := cs.take 4
  guard (year.length == 4 && year.all isAsciiDigit)
  let (month, rest) ← oneOrTwo? (← after? '-' (cs.drop 4))
  let (day, rest) ← oneOrTwo? (← after? '-' rest)
  if rest.isEmpty then return ⟨digitsValue year, month, day, none⟩
  return ⟨digitsValue year, month, day, some (← time? rest)⟩

/-- A text that is a timestamp without saying so; a date alone has ten characters. -/
def isPlain (cs : List Char) : Bool :=
  match ofChars? cs with
  | some s => s.time.isSome || cs.length == 10
  | none => false

end Stamp

namespace Kind

def ofPlain (s : String) : Kind :=
  let cs := s.toList
  if nullWords.contains s then null
  else if trueWords.contains s || falseWords.contains s then bool
  else if isFloat cs then float
  else if isInt cs then int
  else if s == "<<" then merge
  else if Stamp.isPlain cs then timestamp
  else if s == "=" then value
  else text

end Kind

def Node.kind : Node → Kind
  | scalar _ (some tag) _ _ => Kind.ofTag tag
  | scalar _ none true text => Kind.ofPlain text
  | scalar _ none false _ => .text
  | sequence _ (some tag) _ => Kind.ofTag tag
  | sequence _ none _ => .list
  | mapping _ (some tag) _ => Kind.ofTag tag
  | mapping _ none _ => .mapping
  | endless _ isMapping => if isMapping then .mapping else .list

end GraphTemplate.Yaml
