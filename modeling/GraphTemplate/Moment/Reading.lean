import GraphTemplate.Moment

/-!
Moments read from text. `ofZulu` reads the one layout of restrictions, `YYYY-MM-DDTHH:MM:SSZ`;
`ofIso?` reads what `isoText` writes, with any separator and with parts of the time left out.
-/

namespace GraphTemplate

namespace Moment

inductive ZuluError where
  | layout
  | trailing (rest : List Char)
  | calendar (error : CalendarError)
  deriving DecidableEq

/-- `YYYY-MM-DDTHH:MM:SSZ` with any decimal digits, and possibly one line break after it. -/
def isZuluShaped (cs : List Char) : Bool :=
  let stamp := cs.take 20
  (cs.drop 20 == [] || cs.drop 20 == ['\n']) &&
    stamp.length == 20 &&
    (stamp.zip "0000-00-00T00:00:00Z".toList).all fun p =>
      if p.2 == '0' then isDecimalDigit p.1 else p.1 == p.2

def between (low high c : Char) : Bool := low ≤ c && c ≤ high

def isMonthText (a b : Char) : Bool :=
  (a == '1' && between '0' '2' b) || (a == '0' && between '1' '9' b)

def isDayText (a b : Char) : Bool :=
  (a == '3' && between '0' '1' b) || (between '1' '2' a && isDecimalDigit b) ||
    (a == '0' && between '1' '9' b)

def isHourText (a b : Char) : Bool :=
  (a == '2' && between '0' '3' b) || (between '0' '1' a && isDecimalDigit b)

def isMinuteText (a b : Char) : Bool := between '0' '5' a && isDecimalDigit b

/-- Leap seconds have a text, although no clock shows them. -/
def isSecondText (a b : Char) : Bool :=
  (a == '6' && between '0' '1' b) || (between '0' '5' a && isDecimalDigit b)

def ofZulu : List Char → Except ZuluError Moment
  | y₁ :: y₂ :: y₃ :: y₄ :: '-' :: m₁ :: m₂ :: '-' :: d₁ :: d₂ :: 'T' :: h₁ :: h₂ :: ':' ::
      n₁ :: n₂ :: ':' :: s₁ :: s₂ :: 'Z' :: rest =>
    if [y₁, y₂, y₃, y₄].all isDecimalDigit && isMonthText m₁ m₂ && isDayText d₁ d₂ &&
        isHourText h₁ h₂ && isMinuteText n₁ n₂ && isSecondText s₁ s₂ then
      if rest.isEmpty then
        match Date.ofParts (digitsValue [y₁, y₂, y₃, y₄]) (digitsValue [m₁, m₂])
            (digitsValue [d₁, d₂]) with
        | .error e => .error (.calendar e)
        | .ok date =>
          match Clock.ofParts (digitsValue [h₁, h₂]) (digitsValue [n₁, n₂])
              (digitsValue [s₁, s₂]) 0 with
          | .error e => .error (.calendar e)
          | .ok clock => .ok ⟨date, clock, some Offset.zero⟩
      else .error (.trailing rest)
    else .error .layout
  | _ => .error .layout

def twoDigits? : List Char → Option (Nat × List Char)
  | a :: b :: rest =>
    if isAsciiDigit a && isAsciiDigit b then some (digitsValue [a, b], rest) else none
  | _ => none

/-- A fraction of a second in microseconds; digits after the sixth are dropped. -/
def fraction (cs : List Char) : Nat × List Char :=
  match cs with
  | '.' :: rest =>
    let ds := rest.takeWhile isAsciiDigit
    (digitsValue ((ds ++ List.replicate 6 '0').take 6), rest.dropWhile isAsciiDigit)
  | _ => (0, cs)

structure TimeParts where
  hour : Nat
  minute : Nat
  second : Nat
  micros : Nat

/-- `HH`, `HH:MM` or `HH:MM:SS` with or without a fraction, and what follows it. -/
def timeParts? (cs : List Char) : Option (TimeParts × List Char) := do
  let (h, rest) ← twoDigits? cs
  let ':' :: more := rest | return (⟨h, 0, 0, 0⟩, rest)
  let (m, rest) ← twoDigits? more
  let ':' :: more := rest | return (⟨h, m, 0, 0⟩, rest)
  let (s, rest) ← twoDigits? more
  let (u, rest) := fraction rest
  return (⟨h, m, s, u⟩, rest)

/-- No offset, a Z, or a sign and the hours, minutes and seconds of an offset. An offset of less
than a second is none. -/
def offset? : List Char → Option (Option Offset)
  | [] => some none
  | ['Z'] => some (some Offset.zero)
  | sign :: rest => do
    guard (sign == '+' || sign == '-')
    let (t, tail) ← timeParts? rest
    guard tail.isEmpty
    let seconds := (t.hour * 60 + t.minute) * 60 + t.second
    let n : Int := if seconds = 0 then 0 else seconds * 1000000 + t.micros
    let o ← Offset.ofMicros? (if sign == '-' then -n else n)
    return some o

def date? : List Char → Option (Date × List Char)
  | y₁ :: y₂ :: y₃ :: y₄ :: '-' :: rest => do
    guard ([y₁, y₂, y₃, y₄].all isAsciiDigit)
    let (m, rest) ← twoDigits? rest
    let '-' :: rest := rest | none
    let (d, rest) ← twoDigits? rest
    let date ← (Date.ofParts (digitsValue [y₁, y₂, y₃, y₄]) m d).toOption
    return (date, rest)
  | _ => none

/-- Reads a date, or a date and a time with any separator between them. -/
def ofIso? (text : String) : Option Moment := do
  let (date, rest) ← date? text.toList
  let _ :: rest := rest | return ⟨date, Clock.ofMicros 0, none⟩
  let (t, rest) ← timeParts? rest
  let clock ← (Clock.ofParts t.hour t.minute t.second t.micros).toOption
  let offset ← offset? rest
  return ⟨date, clock, offset⟩

end Moment

end GraphTemplate
