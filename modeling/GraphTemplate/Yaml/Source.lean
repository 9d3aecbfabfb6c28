/-!
Document sources: a text, or octets that are UTF-8 unless they begin with a byte order mark of
UTF-16. Only printable characters may occur in a document.
-/

namespace GraphTemplate.Yaml

inductive Source where
  | text (s : String)
  | octets (bs : List Nat)

namespace Source

def isPrintableCode (n : Nat) : Bool :=
  n == 9 || n == 10 || n == 13 || (32 ≤ n && n ≤ 126) || n == 133 || (160 ≤ n && n ≤ 55295) ||
    (57344 ≤ n && n ≤ 65533) || (65536 ≤ n && n ≤ 1114111)

def charOf? (n : Nat) : Option Char :=
  if n.isValidChar then some (Char.ofNat n) else none

def continuation? (b : Nat) : Option Nat := if 128 ≤ b && b < 192 then some (b - 128) else none

def atLeast (low n : Nat) : Option Nat := if low ≤ n then some n else none

/-- The characters of UTF-8 octets; longer forms than needed are refused. -/
def fromUtf8? : List Nat → Option (List Char)
  | [] => some []
  | a :: rest => do
    if a < 128 then return (← charOf? a) :: (← fromUtf8? rest)
    else if 192 ≤ a && a < 224 then
      match rest with
      | b :: rest => do
        let n ← atLeast 128 ((a - 192) * 64 + (← continuation? b))
        return (← charOf? n) :: (← fromUtf8? rest)
      | _ => none
    else if 224 ≤ a && a < 240 then
      match rest with
      | b :: c :: rest => do
        let n ← atLeast 2048
          ((a - 224) * 4096 + (← continuation? b) * 64 + (← continuation? c))
        return (← charOf? n) :: (← fromUtf8? rest)
      | _ => none
    else if 240 ≤ a && a < 248 then
      match rest with
      | b :: c :: d :: rest => do
        let n ← atLeast 65536 ((a - 240) * 262144 + (← continuation? b) * 4096 +
          (← continuation? c) * 64 + (← continuation? d))
        return (← charOf? n) :: (← fromUtf8? rest)
      | _ => none
    else none

def units? (unit : Nat → Nat → Nat) : List Nat → Option (List Nat)
  | [] => some []
  | a :: b :: rest => (units? unit rest).map (unit a b :: ·)
  | [_] => none

def fromUnits? : List Nat → Option (List Char)
  | [] => some []
  | a :: rest => do
    if 55296 ≤ a && a < 56320 then
      match rest with
      | b :: rest =>
        if 56320 ≤ b && b < 57344 then do
          let c ← charOf? (65536 + (a - 55296) * 1024 + (b - 56320))
          return c :: (← fromUnits? rest)
        else none
      | [] => none
    else return (← charOf? a) :: (← fromUnits? rest)

/-- A byte order mark stays in the text as its first character. -/
def decode? : Source → Option (List Char)
  | text s => some s.toList
  | octets bs =>
    match bs with
    | 255 :: 254 :: _ => (units? (fun a b => b * 256 + a) bs).bind fromUnits?
    | 254 :: 255 :: _ => (units? (fun a b => a * 256 + b) bs).bind fromUnits?
    | _ => fromUtf8? bs

def chars? (s : Source) : Option (List Char) := do
  let cs ← s.decode?
  if cs.all fun c => isPrintableCode c.toNat then some cs else none

end Source

end GraphTemplate.Yaml
