import GraphTemplate.Text.Printable

/-!
Quoted text: single quotes unless the text has one and no double quote; the quote itself, the
backslash and everything that cannot be shown is escaped. Bytes are quoted in the same way.
-/

namespace GraphTemplate

def hexDigit (n : Nat) : Char := (Nat.digitChar n)

def hexText (width n : Nat) : List Char :=
  (List.range width).reverse.map fun i => hexDigit ((n >>> (4 * i)) % 16)

def escapeCode (n : Nat) : List Char :=
  if n < 0x100 then '\\' :: 'x' :: hexText 2 n
  else if n < 0x10000 then '\\' :: 'u' :: hexText 4 n
  else '\\' :: 'U' :: hexText 8 n

def escapeChar (quote c : Char) : List Char :=
  if c == quote || c == '\\' then ['\\', c]
  else if c == '\n' then ['\\', 'n']
  else if c == '\r' then ['\\', 'r']
  else if c == '\t' then ['\\', 't']
  else if isPrintable c then [c]
  else escapeCode c.toNat

def chooseQuote (cs : List Char) : Char :=
  if cs.contains '\'' && !cs.contains '"' then '"' else '\''

def quoteChars (cs : List Char) : List Char :=
  let q := chooseQuote cs
  q :: cs.flatMap (escapeChar q) ++ [q]

def quoted (s : String) : String := String.ofList (quoteChars s.toList)

/-- An octet between quotes; a single quote is escaped also where it need not be if `strict`. -/
def escapeOctet (strict : Bool) (quote : Char) (n : Nat) : List Char :=
  if 0x80 ≤ n then escapeCode n
  else if strict && n == 0x27 then ['\\', '\'']
  else escapeChar (if strict then '\'' else quote) (Char.ofNat n)

def quoteOctets (strict : Bool) (octets : List Nat) : List Char :=
  let q := chooseQuote (octets.map Char.ofNat)
  'b' :: q :: octets.flatMap (escapeOctet strict q) ++ [q]

end GraphTemplate
