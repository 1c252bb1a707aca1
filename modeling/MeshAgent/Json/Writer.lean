import MeshAgent.Datum

/-!
# Writing JSON

Compact text, without blanks. Quotes, backslashes and control characters are escaped; everything
else stands for itself.
-/
namespace MeshAgent.Json

def writeChar (c : Char) : List Char :=
  if c = '"' then ['\\', '"']
  else if c = '\\' then ['\\', '\\']
  else if c = '\n' then ['\\', 'n']
  else if c = '\r' then ['\\', 'r']
  else if c = '\t' then ['\\', 't']
  else if c = '\x08' then ['\\', 'b']
  else if c = '\x0c' then ['\\', 'f']
  else if c.toNat < 32 then '\\' :: 'u' :: Text.hexPad 4 c.toNat
  else [c]

def writeText (cs : List Char) : List Char := '"' :: (cs.flatMap writeChar ++ ['"'])

mutual

/-- A value without a JSON form is written as `null`. -/
def write : Datum → List Char
  | .null | .real _ | .bytes _ | .time _ | .foreign => ['n', 'u', 'l', 'l']
  | .bool true => ['t', 'r', 'u', 'e']
  | .bool false => ['f', 'a', 'l', 's', 'e']
  | .int n => Decimal.writeInt n
  | .text s => writeText s.toList
  | .list items => '[' :: (writeItems items ++ [']'])
  | .record fields => '{' :: (writeFields fields ++ ['}'])

def writeItems : List Datum → List Char
  | [] => []
  | [d] => write d
  | d :: e :: rest => write d ++ ',' :: writeItems (e :: rest)

def writeFields : List (String × Datum) → List Char
  | [] => []
  | [(n, d)] => writeText n.toList ++ ':' :: write d
  | (n, d) :: f :: rest => writeText n.toList ++ ':' :: write d ++ ',' :: writeFields (f :: rest)

end

def render (d : Datum) : String := String.ofList (write d)

end MeshAgent.Json
