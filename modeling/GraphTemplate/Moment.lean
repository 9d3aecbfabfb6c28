import GraphTemplate.Calendar
import GraphTemplate.Text.Character

/-!
Points in time as they are written down: a date, a time of day and, unless the moment is a local
one, its offset from universal time. Local moments are read as universal time wherever instants
are compared.
-/

namespace GraphTemplate

/-- A difference from universal time of less than a day, in microseconds. -/
structure Offset where
  micros : Int
  lower : -86400000000 < micros
  upper : micros < 86400000000
  deriving DecidableEq

namespace Offset

def zero : Offset := ⟨0, by decide, by decide⟩

def ofMicros? (n : Int) : Option Offset :=
  if h : -86400000000 < n ∧ n < 86400000000 then some ⟨n, h.1, h.2⟩ else none

end Offset

structure Moment where
  date : Date
  clock : Clock
  offset : Option Offset
  deriving DecidableEq

namespace Moment

/-- Microseconds on the local calendar, counted from the day before the first. -/
def localMicros (m : Moment) : Int :=
  m.date.ordinal * Clock.microsPerDay + m.clock.micros

/-- The instant in microseconds; a local moment is read as universal time. -/
def instant (m : Moment) : Int := m.localMicros - (m.offset.getD Offset.zero).micros

def ofInstant? (n : Int) : Option Moment :=
  if n < 0 then none
  else
    match Date.ofOrdinal? (n.toNat / Clock.microsPerDay) with
    | some d => some ⟨d, Clock.ofMicros (n.toNat % Clock.microsPerDay), some Offset.zero⟩
    | none => none

def toUniversal? (m : Moment) : Option Moment :=
  match m.offset with
  | none => some { m with offset := some Offset.zero }
  | some _ => ofInstant? m.instant

/-- Two local moments are the same if they read alike, two others if they are one instant. -/
def same (a b : Moment) : Bool :=
  a.offset.isSome == b.offset.isSome && a.instant == b.instant

def padded (width n : Nat) : List Char :=
  let ds := Nat.toDigits 10 n
  List.replicate (width - ds.length) '0' ++ ds

def dateText (d : Date) : List Char :=
  padded 4 d.year ++ '-' :: padded 2 d.month ++ '-' :: padded 2 d.day

def secondsText (c : Clock) : List Char :=
  padded 2 c.hour ++ ':' :: padded 2 c.minute ++ ':' :: padded 2 c.second

def microsText (n : Nat) : List Char := if n = 0 then [] else '.' :: padded 6 n

/-- Hours and minutes, then seconds and microseconds only if they are not zero. -/
def offsetText (o : Offset) : List Char :=
  let n := o.micros.natAbs
  let seconds := n / 1000000 % 60
  (if o.micros < 0 then '-' else '+') :: padded 2 (n / 3600000000) ++
    ':' :: padded 2 (n / 60000000 % 60) ++
    (if n % 60000000 = 0 then [] else ':' :: padded 2 seconds ++ microsText (n % 1000000))

def textWith (separator : Char) (m : Moment) : String :=
  String.ofList (dateText m.date ++ separator :: secondsText m.clock ++
    microsText m.clock.microsecond ++ (m.offset.map offsetText).getD [])

def isoText : Moment → String := textWith 'T'
def text : Moment → String := textWith ' '

def zuluText (m : Moment) : String :=
  String.ofList (dateText m.date ++ 'T' :: secondsText m.clock ++ ['Z'])

theorem toUniversal?_offset {m u : Moment} (h : m.toUniversal? = some u) :
    u.offset = some Offset.zero := by
  unfold toUniversal? at h
  split at h
  · cases h; rfl
  · unfold ofInstant? at h
    split at h
    · cases h
    · split at h
      · cases h; rfl
      · cases h

end Moment

end GraphTemplate
