import MeshAgent.Base64
import MeshAgent.Datum
import MeshAgent.DateTime.Calendar
import MeshAgent.Number.Numeral
import MeshAgent.Text.Lower
import MeshAgent.Yaml.Lexer
import MeshAgent.Yaml.Node

/-!
# Values of a YAML document

A node has a value if its text fits its tag. Dates, and records with keys that are not text, are
values of types that nothing here can use. A text is mostly refused if it does not fit; but a truth
value that is none, a number without digits and a date that is none break the reading off.
-/
namespace MeshAgent.Yaml

namespace Scalar

/-- An integer with its sign taken off. -/
def magnitude? : List Char → Option Int
  | ['0'] => some 0
  | '0' :: 'b' :: r => Numeral.int? 2 r
  | '0' :: 'x' :: r => Numeral.int? 16 r
  | '0' :: r => Numeral.int? 8 ('0' :: r)
  | cs =>
    if cs.contains ':' then
      (Text.pieces ':' cs).foldlM (fun acc p => do return acc * 60 + (← Numeral.int? 10 p)) 0
    else Numeral.int? 10 cs

/-- An integer in base two, eight, ten, sixteen or sixty. -/
def int (s : String) : Except Problem Int := do
  let (negative, cs) := Numeral.sign (s.toList.filter (· ≠ '_'))
  if cs.isEmpty then .error (.broken .emptyNumber)
  else
    let n ← orRefused (magnitude? cs)
    return if negative then -n else n

/-- A number of the given parts in base sixty. The powers of sixty are integers without bound, which
need not be in the range of binary numbers. -/
def sixtieths (parts : List Binary64) : Except Problem Binary64 := do
  let (_, sum) ← parts.foldrM (fun part (base, sum) =>
    match part.times? base with
    | some x => .ok (base * 60, sum.add x)
    | none => .error (.broken (.tooLarge "int too large to convert to float"))) (1, .finite 0 0)
  return sum

/-- A number with a fraction in base ten or sixty. -/
def real (s : String) : Except Problem Binary64 := do
  let cs := (Text.lower s).toList.filter (· ≠ '_')
  if cs.isEmpty then .error (.broken .emptyNumber)
  else
    let (negative, cs) := Numeral.sign cs
    let x ←
      if cs = ".inf".toList then .ok (.infinite false)
      else if cs = ".nan".toList then .ok .nan
      else if cs.contains ':' then do
        let parts ← orRefused ((Text.pieces ':' cs).mapM Numeral.real?)
        sixtieths parts
      else orRefused (Numeral.real? cs)
    return if negative then x.negate else x

def bool (s : String) : Except Problem Bool :=
  let w := Text.lower s
  if ["yes", "true", "on"].contains w then .ok true
  else if ["no", "false", "off"].contains w then .ok false
  else .error (.broken (.unknownName w))

/-- Whether the parts of a time make one. -/
def isTime (t : Implicit.TimeParts) : Bool :=
  1 ≤ t.year && 1 ≤ t.month && t.month ≤ 12 && 1 ≤ t.day
    && t.day ≤ Calendar.daysInMonth t.year t.month && t.hour ≤ 23 && t.minute ≤ 59
    && t.second ≤ 59 && t.offset < 1440

/-- A time, which is of a type that nothing here uses. -/
def time (s : String) : Except Problem Datum :=
  match Implicit.timeParts? (Implicit.dropFinalBreak s.toList) with
  | none => .error (.broken .notDate)
  | some t => if isTime t then .ok .foreign else .error .refused

/-- Characters of the alphabet of base64 up to the end of the last group of four, which padding may
fill. Nothing else counts, and neither does padding in the first half of a group. -/
def groups? : Nat → Nat → List Char → Option (List Char)
  | 0, _, [] => some []
  | _ + 1, _, [] => none
  | place, pads, c :: r =>
    if c = '=' then
      if place < 2 then groups? place pads r
      else if place + pads < 3 then groups? place (pads + 1) r
      else some []
    else if (Base64.valueOf? c).isSome then (c :: ·) <$> groups? ((place + 1) % 4) 0 r
    else groups? place pads r

/-- Bytes in base64. -/
def binary? (s : String) : Option Bytes :=
  if s.toList.any fun c => 128 ≤ c.toNat then none
  else do
    let data ← groups? 0 0 s.toList
    match Base64.decodeList (data ++ List.replicate ((4 - data.length % 4) % 4) '=') with
    | .ok b => some b
    | .error _ => none

/-- The value of a scalar with the given tag. -/
def value (tag text : String) : Except Problem Datum :=
  if tag = Tag.text then .ok (.text text)
  else if tag = Tag.null then .ok .null
  else if tag = Tag.bool then .bool <$> bool text
  else if tag = Tag.int then .int <$> int text
  else if tag = Tag.float then .real <$> real text
  else if tag = Tag.binary then .bytes <$> orRefused (binary? text)
  else if tag = Tag.timestamp then time text
  else .error .refused

end Scalar

abbrev Entries := List (Datum × Datum)

/-- Entries as a record, if every key is a text. -/
def recordOf (es : Entries) : Datum :=
  let fields := es.filterMap fun (k, v) => match k with
    | .text n => some (n, v)
    | _ => none
  if fields.length = es.length then .record fields else .foreign

/-- A collection of a type of its own; an empty one is like any empty collection. -/
def foreignUnless (isEmpty : Bool) : Datum := if isEmpty then .list [] else .foreign

namespace Node

def tag : Node → String
  | scalar tag _ => tag
  | sequence tag _ => tag
  | mapping tag _ => tag
  | loop => ""

/-- Tags of collections. Nothing is wrong with such a tag before the collection is filled. -/
def isCollectionTag (tag : String) : Bool :=
  [Tag.sequence, Tag.mapping, Tag.set, Tag.pairs, Tag.orderedMap].contains tag

mutual

/-- The text of a node that is meant as a scalar. A mapping has one under an equals sign. -/
def text? : Node → Option String
  | scalar _ text => some text
  | mapping _ entries => textOf? entries
  | _ => none

def textOf? : List (Node × Node) → Option String
  | [] => none
  | (k, v) :: rest => if k.tag = Tag.value then v.text? else textOf? rest

end

/-- The value of a node that is meant as a scalar. -/
def scalarValue (n : Node) : Except Problem Datum := do
  match n, ← orRefused n.text? with
  | mapping tag _, text => if tag = Tag.timestamp then .error .refused else Scalar.value tag text
  | n, text => Scalar.value n.tag text

/-- A key is a scalar. An equals sign stands for itself here. -/
def key (n : Node) : Except Problem Datum :=
  if n.tag = Tag.value then Datum.text <$> orRefused n.text? else n.scalarValue

mutual

def value : Node → Built Datum
  | loop => .done .foreign
  | scalar tag text =>
    if isCollectionTag tag then Built.refused.deeper else .ofExcept (Scalar.value tag text)
  | sequence tag items =>
    if tag = Tag.sequence then (Datum.list <$> values items).deeper
    else if tag = Tag.pairs || tag = Tag.orderedMap then
      ((fun n => foreignUnless (n = 0)) <$> pairs items).deeper
    else if isCollectionTag tag then Built.refused.deeper
    else .refused
  | mapping tag entries =>
    let parts : Built Entries :=
      match parts? entries with
      | some (merged, own) => Built.all (merged ++ own)
      | none => .refused
    if tag = Tag.mapping then (recordOf <$> parts).deeper
    else if tag = Tag.set then ((fun es => foreignUnless es.isEmpty) <$> parts).deeper
    else if isCollectionTag tag then Built.refused.deeper
    else .ofExcept (scalarValue (mapping tag entries))

def values : List Node → Built (List Datum)
  | [] => .done []
  | n :: ns => List.cons <$> value n <*> values ns

/-- Values of items with a single entry each, counted. -/
def pairs : List Node → Built Nat
  | [] => .done 0
  | mapping _ [(k, v)] :: ns => (fun _ _ n => n + 1) <$> value k <*> value v <*> pairs ns
  | _ :: _ => .refused

/-- Merged entries and entries of its own of a mapping. A later entry hides an earlier one. What is
merged must have entries. -/
def parts? : List (Node × Node) →
    Option (List (Built (Datum × Datum)) × List (Built (Datum × Datum)))
  | [] => some ([], [])
  | (k, v) :: rest => do
    if k.tag = Tag.merge then
      let es ← merged? v
      let (merged, own) ← parts? rest
      some (es ++ merged, own)
    else
      let (merged, own) ← parts? rest
      some (merged, (Prod.mk <$> Built.ofExcept k.key <*> value v) :: own)

/-- What a merged node contributes: its entries, or those of its items. A node that is merged into
itself has nothing to add. -/
def merged? : Node → Option (List (Built (Datum × Datum)))
  | mapping _ entries => do
    let (merged, own) ← parts? entries
    some (merged ++ own)
  | sequence _ items => mergedItems? items
  | loop => some []
  | _ => none

/-- Entries of the items of a merged sequence. The first items count most, so they come last. -/
def mergedItems? : List Node → Option (List (Built (Datum × Datum)))
  | [] => some []
  | mapping _ entries :: ns => do
    let (merged, own) ← parts? entries
    let es ← mergedItems? ns
    some (es ++ merged ++ own)
  | loop :: ns => mergedItems? ns
  | _ :: _ => none

end

end Node

/-- Any reader of texts. -/
abbrev Reader := List Char → Except Problem Datum

/-- The value of a text with at most one document. A text without a document is null. Collections may
be nested to any depth. -/
def load : Reader := fun cs => do
  match ← orRefused (Node.single? (← tokens cs)) with
  | none => .ok .null
  | some n => n.value.toExcept

end MeshAgent.Yaml
