import MeshAgent.Yaml.Token
import MeshAgent.Yaml.Implicit

/-!
# From tokens to a tree

A document is a tree of nodes with tags. An alias stands for the node that its anchor marks; inside
that node itself it stands for a loop.
-/
namespace MeshAgent.Yaml

inductive Node
  | scalar (tag text : String)
  | sequence (tag : String) (items : List Node)
  | mapping (tag : String) (entries : List (Node × Node))
  /-- A node inside itself. -/
  | loop
deriving Repr, Inhabited

namespace Node

/-- A scalar without content. -/
def empty : Node := scalar Tag.null ""

/-- What a reader of nodes knows: the tokens that are left, the nodes that are marked so far, and
the meaning of tag handles. A node that is still being read is marked by `none`. -/
structure Input where
  tokens : List Token
  anchors : List (String × Option Node) := []
  handles : List (String × String) := [("!", "!"), ("!!", Tag.standard)]

namespace Input

def head? (i : Input) : Option Token := i.tokens.head?

def sees (i : Input) (ts : List Token) : Bool := i.tokens.head?.any ts.contains

def next (i : Input) : Input := { i with tokens := i.tokens.tail }

/-- Drops the given token. -/
def drop? (i : Input) (t : Token) : Option Input := if i.head? = some t then some i.next else none

def mark (i : Input) (anchor : Option String) (n : Option Node) : Input :=
  match anchor with
  | some a => { i with anchors := (a, n) :: i.anchors }
  | none => i

/-- The full tag of a handle and a suffix. -/
def resolve? (i : Input) (handle : Option String) (suffix : String) : Option String :=
  match handle with
  | none => some suffix
  | some h => (i.handles.lookup h).map (· ++ suffix)

end Input

/-- Anchor and tag of a node, in either order. -/
def properties? (i : Input) : Option (Option String × Option String × Input) :=
  match i.tokens with
  | .anchor a :: .tag h s :: r => do
    let t ← i.resolve? h s
    some (some a, some t, { i with tokens := r })
  | .tag h s :: .anchor a :: r => do
    let t ← i.resolve? h s
    some (some a, some t, { i with tokens := r })
  | .anchor a :: r => some (some a, none, { i with tokens := r })
  | .tag h s :: r => do
    let t ← i.resolve? h s
    some (none, some t, { i with tokens := r })
  | _ => some (none, none, i)

/-- Tag of a scalar. Without a tag of its own its text decides, if it is plain, and so it does behind a
lone exclamation mark. -/
def scalarTag (tag : Option String) (text : String) (plain : Bool) : String :=
  match tag with
  | none => if plain then implicitTag text else Tag.text
  | some "!" => implicitTag text
  | some t => t

/-- Tag of a collection. -/
def collectionTag (tag : Option String) (default : String) : String :=
  match tag with
  | none => default
  | some "!" => default
  | some t => t

/-- Tokens after which an omitted node of a block mapping is empty. -/
def blockStops : List Token := [.key, .value, .blockEnd]

mutual

/-- Reads a node. Blocks are allowed only outside brackets, and a block sequence that is not
indented only as a value in a mapping. -/
def read? : Nat → Bool → Bool → Input → Option (Node × Input)
  | 0, _, _, _ => none
  | fuel + 1, block, flat, i =>
    match i.tokens with
    | .alias_ a :: r =>
      match i.anchors.lookup a with
      | some (some n) => some (n, { i with tokens := r })
      | some none => some (loop, { i with tokens := r })
      | none => none
    | _ => do
      let (anchor, tag, i) ← properties? i
      if anchor.any fun a => (i.anchors.lookup a).isSome then none
      else
        let sequence? (items : Option (List Node × Input)) : Option (Node × Input) := do
          let (ns, i) ← items
          let n := sequence (collectionTag tag Tag.sequence) ns
          some (n, i.mark anchor (some n))
        let mapping? (entries : Option (List (Node × Node) × Input)) : Option (Node × Input) := do
          let (es, i) ← entries
          let n := mapping (collectionTag tag Tag.mapping) es
          some (n, i.mark anchor (some n))
        let open_ := i.mark anchor none
        match i.tokens with
        | .blockEntry :: _ =>
          if flat then sequence? (flatItems? fuel open_) else omitted? anchor tag i
        | .scalar s plain :: r =>
          let n := scalar (scalarTag tag s plain) s
          some (n, { i with tokens := r }.mark anchor (some n))
        | .flowSequenceStart :: _ => sequence? (flowItems? fuel true open_.next)
        | .flowMappingStart :: _ => mapping? (flowEntries? fuel true open_.next)
        | .blockSequenceStart :: _ =>
          if block then sequence? (blockItems? fuel open_.next) else omitted? anchor tag i
        | .blockMappingStart :: _ =>
          if block then mapping? (blockEntries? fuel open_.next) else omitted? anchor tag i
        | _ => omitted? anchor tag i

/-- A node of which only an anchor or a tag is given. -/
def omitted? (anchor tag : Option String) (i : Input) : Option (Node × Input) :=
  if anchor.isNone && tag.isNone then none
  else
    let n := match tag with
      | none => empty
      | some "!" => empty
      | some t => scalar t ""
    some (n, i.mark anchor (some n))

def blockItems? : Nat → Input → Option (List Node × Input)
  | 0, _ => none
  | fuel + 1, i =>
    match i.tokens with
    | .blockEntry :: _ => do
      let (n, i) ← if i.next.sees [.blockEntry, .blockEnd] then some (empty, i.next)
        else read? fuel true false i.next
      let (ns, i) ← blockItems? fuel i
      some (n :: ns, i)
    | .blockEnd :: _ => some ([], i.next)
    | _ => none

def flatItems? : Nat → Input → Option (List Node × Input)
  | 0, _ => none
  | fuel + 1, i =>
    match i.tokens with
    | .blockEntry :: _ => do
      let (n, i) ← if i.next.sees (.blockEntry :: blockStops) then some (empty, i.next)
        else read? fuel true false i.next
      let (ns, i) ← flatItems? fuel i
      some (n :: ns, i)
    | _ => some ([], i)

/-- A key or value in a block mapping, possibly omitted. -/
def blockPart? : Nat → Input → Option (Node × Input)
  | 0, _ => none
  | fuel + 1, i => if i.sees blockStops then some (empty, i) else read? fuel true true i

def blockEntries? : Nat → Input → Option (List (Node × Node) × Input)
  | 0, _ => none
  | fuel + 1, i =>
    match i.tokens with
    | .blockEnd :: _ => some ([], i.next)
    | .key :: _ => do
      let (k, i) ← blockPart? fuel i.next
      let (v, i) ← if i.sees [.value] then blockPart? fuel i.next else some (empty, i)
      let (es, i) ← blockEntries? fuel i
      some ((k, v) :: es, i)
    | _ => none

/-- A key or value inside brackets, omitted before the given tokens. -/
def flowPart? : Nat → List Token → Input → Option (Node × Input)
  | 0, _, _ => none
  | fuel + 1, stops, i => if i.sees stops then some (empty, i) else read? fuel false false i

def flowItems? : Nat → Bool → Input → Option (List Node × Input)
  | 0, _, _ => none
  | fuel + 1, first, i => do
    if i.sees [.flowSequenceEnd] then some ([], i.next)
    else
      let i ← if first then some i else i.drop? .flowEntry
      if i.sees [.flowSequenceEnd] then some ([], i.next)
      else
        let (n, i) ←
          if i.sees [.key] then do
            let (k, i) ← flowPart? fuel [.value, .flowEntry, .flowSequenceEnd] i.next
            let (v, i) ← if i.sees [.value] then
                flowPart? fuel [.flowEntry, .flowSequenceEnd] i.next
              else some (empty, i)
            some (mapping Tag.mapping [(k, v)], i)
          else read? fuel false false i
        let (ns, i) ← flowItems? fuel false i
        some (n :: ns, i)

def flowEntries? : Nat → Bool → Input → Option (List (Node × Node) × Input)
  | 0, _, _ => none
  | fuel + 1, first, i => do
    if i.sees [.flowMappingEnd] then some ([], i.next)
    else
      let i ← if first then some i else i.drop? .flowEntry
      if i.sees [.flowMappingEnd] then some ([], i.next)
      else
        let (e, i) ←
          if i.sees [.key] then do
            let (k, i) ← flowPart? fuel [.value, .flowEntry, .flowMappingEnd] i.next
            let (v, i) ← if i.sees [.value] then
                flowPart? fuel [.flowEntry, .flowMappingEnd] i.next
              else some (empty, i)
            some ((k, v), i)
          else do
            let (k, i) ← read? fuel false false i
            some ((k, empty), i)
        let (es, i) ← flowEntries? fuel false i
        some (e :: es, i)

end

/-- Directives before a document. A version other than 1 and repeated directives are refused. -/
def directives? (version : Bool) (handles : List (String × String)) :
    List Token → Option (List (String × String) × List Token)
  | .version major :: r =>
    if version || major ≠ 1 then none else directives? true handles r
  | .tagHandle h m :: r =>
    if (handles.lookup h).isSome then none else directives? version ((h, m) :: handles) r
  | .otherDirective :: r => directives? version handles r
  | ts => some (handles, ts)

def defaultHandles : List (String × String) := [("!", "!"), ("!!", Tag.standard)]

def dropDocumentEnds : List Token → List Token
  | .documentEnd :: r => dropDocumentEnds r
  | ts => ts

/-- A document and what follows its end mark. -/
def document? (ts : List Token) : Option (Node × List Token) := do
  let fuel := 8 * ts.length + 8
  let content? (handles : List (String × String)) (ts : List Token) :
      Option (Node × List Token) := do
    let (n, i) ← read? fuel true false { tokens := ts, handles }
    some (n, i.tokens)
  let explicit (t : Token) : Bool := match t with
    | .version _ | .tagHandle .. | .otherDirective | .documentStart => true
    | _ => false
  let (n, r) ←
    if ts.head?.any explicit then do
      let (handles, ts) ← directives? false [] ts
      match ts with
      | .documentStart :: r =>
        if r.head?.all fun t => explicit t || t = .documentEnd then some (empty, r)
        else content? (handles ++ defaultHandles) r
      | _ => none
    else content? defaultHandles ts
  some (n, if r.head? = some .documentEnd then r.tail else r)

/-- The only document of a text; `none` inside if there is no document. -/
def single? (ts : List Token) : Option (Option Node) :=
  match ts with
  | [] => some none
  | _ => do
    let (n, r) ← document? ts
    if (dropDocumentEnds r).isEmpty then some (some n) else none

end Node

end MeshAgent.Yaml
