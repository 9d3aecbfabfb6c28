/-!
Search patterns: sequences of items that match a text in order. Patterns may capture parts of the
text and refer to them again, look around, and choose the first way to match that lets the rest
match too.
-/

namespace GraphTemplate

namespace Pattern

structure Options where
  ignoreCase : Bool := false
  multiline : Bool := false
  dotAll : Bool := false
  verbose : Bool := false
  ascii : Bool := false
  unicode : Bool := false
  /-- Patterns with this option can have no repetitions. -/
  template : Bool := false
  deriving DecidableEq

namespace Options

def union (a b : Options) : Options where
  ignoreCase := a.ignoreCase || b.ignoreCase
  multiline := a.multiline || b.multiline
  dotAll := a.dotAll || b.dotAll
  verbose := a.verbose || b.verbose
  ascii := a.ascii || b.ascii
  unicode := a.unicode || b.unicode
  template := a.template || b.template

def without (a b : Options) : Options where
  ignoreCase := a.ignoreCase && !b.ignoreCase
  multiline := a.multiline && !b.multiline
  dotAll := a.dotAll && !b.dotAll
  verbose := a.verbose && !b.verbose
  ascii := a.ascii && !b.ascii
  unicode := a.unicode && !b.unicode
  template := a.template && !b.template

/-- The options inside a group that turns some on and some off; a script turned on replaces the
one around the group. -/
def within (around on off : Options) : Options :=
  let base := if on.ascii || on.unicode then { around with ascii := false, unicode := false }
    else around
  (base.union on).without off

end Options

/-- A part of a character class. Characters are code points, as a pattern can name code points that
are no characters. -/
inductive ClassItem where
  | char (code : Nat)
  | range (low high : Nat)
  | digit (positive : Bool)
  | space (positive : Bool)
  | word (positive : Bool)
  deriving DecidableEq

inductive Anchor where
  | start
  | finish
  | textStart
  | textEnd
  | boundary
  | noBoundary
  deriving DecidableEq

inductive Repetition where
  | greedy
  | lazy
  | possessive
  deriving DecidableEq

structure Width where
  least : Nat
  most : Nat
  deriving DecidableEq

inductive Node where
  | char (code : Nat)
  | any
  | set (negated : Bool) (items : List ClassItem)
  | anchor (a : Anchor)
  | group (index : Option Nat) (on off : Options) (body : List Node)
  | atomic (body : List Node)
  | choice (branches : List (List Node))
  | repeated (mode : Repetition) (least : Nat) (most : Option Nat) (body : List Node)
  /-- The text that a group has captured, once more. -/
  | again (group : Nat) (width : Width)
  /-- One of two ways on, by whether a group has captured. -/
  | whether (group : Nat) (yes no : List Node)
  | look (ahead positive : Bool) (body : List Node)

/-- Widths are not told apart from this one on. -/
def widthLimit : Nat := 0x10000000000000000

namespace Width

def zero : Width := ⟨0, 0⟩
def one : Width := ⟨1, 1⟩
def capped (w : Width) : Width := ⟨min w.least widthLimit, min w.most widthLimit⟩
def add (a b : Width) : Width := capped ⟨a.least + b.least, a.most + b.most⟩
def either (a b : Width) : Width := ⟨min a.least b.least, max a.most b.most⟩

def times (w : Width) (least : Nat) (most : Option Nat) : Width :=
  capped ⟨w.least * least,
    match most with
    | some n => w.most * n
    | none => if w.most = 0 then 0 else widthLimit⟩

end Width

mutual

def Node.width : Node → Width
  | .char _ | .any | .set .. => .one
  | .anchor _ | .look .. => .zero
  | .group _ _ _ body | .atomic body => sequenceWidth body
  | .choice branches => branchesWidth branches
  | .repeated _ least most body => (sequenceWidth body).times least most
  | .again _ w => w
  | .whether _ yes no => (sequenceWidth yes).either (sequenceWidth no)

def sequenceWidth : List Node → Width
  | [] => .zero
  | n :: ns => n.width.add (sequenceWidth ns)

def branchesWidth : List (List Node) → Width
  | [] => ⟨widthLimit, 0⟩
  | b :: bs => (sequenceWidth b).either (branchesWidth bs)

end

mutual

/-- Whether every look behind has one width, and repetitions stand only where they may. -/
def Node.isSound (template : Bool) : Node → Bool
  | .group _ _ _ body | .atomic body => allSound template body
  | .choice branches => branchesSound template branches
  | .repeated _ _ _ body => !template && allSound template body
  | .whether _ yes no => allSound template yes && allSound template no
  | .look ahead _ body =>
    (ahead || ((sequenceWidth body).least == (sequenceWidth body).most &&
      (sequenceWidth body).least < 0x100000000)) && allSound template body
  | _ => true

def allSound (template : Bool) : List Node → Bool
  | [] => true
  | n :: ns => n.isSound template && allSound template ns

def branchesSound (template : Bool) : List (List Node) → Bool
  | [] => true
  | b :: bs => allSound template b && branchesSound template bs

end

end Pattern

structure Pattern where
  options : Pattern.Options
  body : List Pattern.Node

end GraphTemplate
