import GraphTemplate.Pattern
import GraphTemplate.Text.Alphanumeric
import GraphTemplate.Text.Character
import GraphTemplate.Text.CaseVariants

/-!
Matching of patterns by backtracking. Every item is given what has to match after it: it tries its
own ways to match in their order of preference and settles for the first that the rest accepts.
-/

namespace GraphTemplate

namespace Pattern

/-- Where the match stands, and what the groups have captured, latest first. -/
structure Trace where
  position : Nat
  captures : List (Nat × Nat × Nat)

def Trace.capture? (t : Trace) (group : Nat) : Option (Nat × Nat) := t.captures.lookup group

abbrev Rest := Trace → Option Trace

/-- A way to match: the trace before and what has to match afterwards give the trace at the end. -/
abbrev Matcher := Trace → Rest → Option Trace

def isWordIn (o : Options) (c : Char) : Bool :=
  if o.ascii then c.isAlphanum || c == '_' else isWordChar c

def isDigitIn (o : Options) (c : Char) : Bool :=
  if o.ascii then isAsciiDigit c else isDecimalDigit c

def isSpaceIn (o : Options) (c : Char) : Bool :=
  if o.ascii then isBlank c && c.toNat < 0x80 && !(28 ≤ c.toNat && c.toNat ≤ 31) else isBlank c

def variantsIn (o : Options) (code : Nat) : List Nat :=
  if o.ascii then
    if 0x41 ≤ code ∧ code ≤ 0x5a then [code, code + 0x20]
    else if 0x61 ≤ code ∧ code ≤ 0x7a then [code, code - 0x20]
    else [code]
  else caseVariants code

def sameChar (o : Options) (code : Nat) (c : Char) : Bool :=
  if o.ignoreCase then (variantsIn o c.toNat).contains code else code == c.toNat

def ClassItem.holds (o : Options) (c : Char) : ClassItem → Bool
  | .char code => sameChar o code c
  | .range low high =>
    (if o.ignoreCase then variantsIn o c.toNat else [c.toNat]).any fun n => low ≤ n && n ≤ high
  | .digit positive => isDigitIn o c == positive
  | .space positive => isSpaceIn o c == positive
  | .word positive => isWordIn o c == positive

def wordsAround (o : Options) (text : Array Char) (i : Nat) : Bool × Bool :=
  let isWord (c : Option Char) : Bool := (c.map (isWordIn o)).getD false
  (if i = 0 then false else isWord text[i - 1]?, isWord text[i]?)

def Anchor.holds (o : Options) (text : Array Char) (i : Nat) : Anchor → Bool
  | .start => i == 0 || (o.multiline && text[i - 1]? == some '\n')
  | .finish =>
    i == text.size || (text[i]? == some '\n' && (o.multiline || i + 1 == text.size))
  | .textStart => i == 0
  | .textEnd => i == text.size
  | .boundary =>
    let (before, after) := wordsAround o text i
    !text.isEmpty && before != after
  | .noBoundary =>
    let (before, after) := wordsAround o text i
    !text.isEmpty && before == after

def oneChar (text : Array Char) (test : Char → Bool) : Matcher := fun t k =>
  match text[t.position]? with
  | some c => if test c then k { t with position := t.position + 1 } else none
  | none => none

def sameSlice (o : Options) (text : Array Char) (i j length : Nat) : Bool :=
  (List.range length).all fun n =>
    match text[i + n]?, text[j + n]? with
    | some a, some b => sameChar o a.toNat b
    | _, _ => false

/-- As much as a matcher finds first, without a way back into it. -/
def settled (m : Matcher) : Matcher := fun t k => (m t some).bind k

/-- Repetitions of `step`, `count` of which have been made; the last one of those that need not be
made began at `last`. Another one that would begin there again is not made. -/
structure Loop where
  step : Matcher
  least : Nat
  most : Option Nat

def Loop.canRepeat (l : Loop) (count : Nat) (last : Option Nat) (t : Trace) : Bool :=
  (match l.most with
   | some n => decide (count < n)
   | none => true) && last != some t.position

def Loop.greedy (l : Loop) (rest : Rest) : Nat → Nat → Option Nat → Trace → Option Trace
  | 0, _, _, _ => none
  | fuel + 1, count, last, t =>
    if count < l.least then l.step t fun u => l.greedy rest fuel (count + 1) last u
    else if l.canRepeat count last t then
      match l.step t fun u => l.greedy rest fuel (count + 1) (some t.position) u with
      | some u => some u
      | none => rest t
    else rest t

def Loop.lazy (l : Loop) (rest : Rest) : Nat → Nat → Option Nat → Trace → Option Trace
  | 0, _, _, _ => none
  | fuel + 1, count, last, t =>
    if count < l.least then l.step t fun u => l.lazy rest fuel (count + 1) last u
    else
      match rest t with
      | some u => some u
      | none =>
        if l.canRepeat count last t then
          l.step t fun u => l.lazy rest fuel (count + 1) (some t.position) u
        else none

/-- Every repetition that need not be made consumes a character, but for the last one. -/
def Loop.fuel (l : Loop) (text : Array Char) (t : Trace) : Nat :=
  l.least + (text.size - t.position) + 2

mutual

def Node.run (text : Array Char) (o : Options) : Node → Matcher
  | .char code => oneChar text (sameChar o code)
  | .any => oneChar text fun c => o.dotAll || c != '\n'
  | .set negated items => oneChar text fun c => (items.any (·.holds o c)) != negated
  | .anchor a => fun t k => if a.holds o text t.position then k t else none
  | .group index on off body => fun t k =>
    runAll text (o.within on off) body t fun u =>
      match index with
      | some i => k { u with captures := (i, t.position, u.position) :: u.captures }
      | none => k u
  | .atomic body => settled (runAll text o body)
  | .choice branches => runFirst text o branches
  | .repeated mode least most body => fun t k =>
    let loop : Loop := ⟨runAll text o body, least, most⟩
    match mode with
    | .greedy => loop.greedy k (loop.fuel text t) 0 none t
    | .lazy => loop.lazy k (loop.fuel text t) 0 none t
    | .possessive =>
      let loop := { loop with step := settled loop.step }
      (loop.greedy some (loop.fuel text t) 0 none t).bind k
  | .again group _ => fun t k =>
    match t.capture? group with
    | some (i, j) =>
      if t.position + (j - i) ≤ text.size && sameSlice o text i t.position (j - i) then
        k { t with position := t.position + (j - i) }
      else none
    | none => none
  | .whether group yes no => fun t k =>
    if (t.capture? group).isSome then runAll text o yes t k else runAll text o no t k
  | .look ahead positive body => fun t k =>
    let back := if ahead then 0 else (sequenceWidth body).least
    let found := if t.position < back then none
      else runAll text o body { t with position := t.position - back } some
    match found, positive with
    | some u, true => k { u with position := t.position }
    | none, false => k t
    | _, _ => none

def runAll (text : Array Char) (o : Options) : List Node → Matcher
  | [] => fun t k => k t
  | n :: ns => fun t k => n.run text o t fun u => runAll text o ns u k

def runFirst (text : Array Char) (o : Options) : List (List Node) → Matcher
  | [] => fun _ _ => none
  | b :: bs => fun t k =>
    match runAll text o b t k with
    | some u => some u
    | none => runFirst text o bs t k

end

end Pattern

open Pattern in
def Pattern.occursIn (p : Pattern) (text : String) : Bool :=
  let chars := text.toList.toArray
  (List.range (chars.size + 1)).any fun i => (runAll chars p.options p.body ⟨i, []⟩ some).isSome

end GraphTemplate
