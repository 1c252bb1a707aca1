import MeshAgent.Text.Printable
import MeshAgent.Text.Decimal

/-!
# Quoted text

Messages show a text between quotes, with everything escaped that would not print. The quotes are
single, unless the text holds a single quote and no double one, so that most texts need no escape.
-/
namespace MeshAgent.Text

def hexDigit (d : Nat) : Char :=
  let d := d % 16
  if d < 10 then Char.ofNat (48 + d) else Char.ofNat (87 + d)

/-- Exactly `width` lower-case hexadecimal digits. -/
def hexPad : Nat → Nat → List Char
  | 0, _ => []
  | width + 1, n => hexPad width (n / 16) ++ [hexDigit n]

/-- The quote that surrounds a text. -/
def quoteFor (cs : List Char) : Char :=
  if cs.contains '\'' && !cs.contains '"' then '"' else '\''

/-- One character between quotes `q`: the shortest escape that names its code point. -/
def quoteChar (q c : Char) : List Char :=
  if c = q ∨ c = '\\' then ['\\', c]
  else if c = '\n' then ['\\', 'n']
  else if c = '\r' then ['\\', 'r']
  else if c = '\t' then ['\\', 't']
  else if isPrintable c then [c]
  else if c.toNat < 0x100 then '\\' :: 'x' :: hexPad 2 c.toNat
  else if c.toNat < 0x10000 then '\\' :: 'u' :: hexPad 4 c.toNat
  else '\\' :: 'U' :: hexPad 8 c.toNat

def quoteList (cs : List Char) : List Char :=
  let q := quoteFor cs
  q :: (cs.flatMap (quoteChar q) ++ [q])

/-- A text as messages show it. -/
def quote (s : String) : String := String.ofList (quoteList s.toList)

end MeshAgent.Text
