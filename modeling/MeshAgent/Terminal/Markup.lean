import MeshAgent.Failure
import MeshAgent.Terminal.Emoji
import MeshAgent.Terminal.Style
import MeshAgent.Text.Literal
import MeshAgent.Text.Word

/-!
# Markup

Text for the terminal may hold tags in square brackets that start and end styles. A backslash before
a tag makes it text. Styles do not show where there are no colours, so what is left of a marked-up
text is its characters; but a tag that ends a style which was never started is an error.

A tag may have parameters behind an equals sign. Those of a handler, whose name begins with `@`, are
read when its style ends: they are a literal, or the name of a function and its arguments in brackets.
Those of any other tag are part of its style, which is read once the whole text is known to be
well-formed.
-/
namespace MeshAgent.Markup

/-- Part of a marked-up text. -/
inductive Piece
  | text (cs : List Char)
  /-- A tag, where it stands and what is between its brackets. -/
  | tag (position : Nat) (body : List Char)
deriving DecidableEq, Repr

/-- Characters that a tag starts with. -/
def startsTag (c : Char) : Bool :=
  (97 ≤ c.toNat && c.toNat ≤ 122) || c = '#' || c = '/' || c = '@'

/-- A tag in front of a text: its body, and the text after it. -/
def tag? : List Char → Option (List Char × List Char)
  | '[' :: c :: r =>
    if startsTag c then
      let body := r.takeWhile fun x => x ≠ ']' && x ≠ '['
      match r.drop body.length with
      | ']' :: rest => some (c :: body, rest)
      | _ => none
    else none
  | _ => none

theorem length_tag? {cs body rest : List Char} (h : tag? cs = some (body, rest)) :
    rest.length < cs.length := by
  unfold tag? at h
  split at h
  · rename_i c r
    split at h
    · simp only at h
      split at h
      · rename_i rest' hd
        simp only [Option.some.injEq, Prod.mk.injEq] at h
        have := congrArg List.length hd
        simp only [List.length_drop, List.length_cons] at this
        simp only [List.length_cons, ← h.2]
        omega
      · simp at h
    · simp at h
  · simp at h

/-- Cuts a marked-up text at its tags. `before` is the text since the last one, in reverse. Of the
backslashes before a tag each pair is one backslash; an odd one takes the tag's meaning away. -/
def pieces (position : Nat) (before : List Char) (cs : List Char) : List Piece :=
  let slashes := (cs.takeWhile (· = '\\')).length
  match h : tag? (cs.drop slashes) with
  | some (body, rest) =>
    have : rest.length < cs.length := by
      have := length_tag? h
      simp only [List.length_drop] at this
      omega
    let kept := List.replicate (slashes / 2) '\\'
    let piece : Piece :=
      if slashes % 2 = 1 then .text ('[' :: body ++ [']']) else .tag (position + slashes) body
    .text before.reverse :: .text kept :: piece
      :: pieces (position + slashes + body.length + 2) [] rest
  | none =>
    match cs with
    | [] => [.text before.reverse]
    | c :: r => pieces (position + 1) (c :: before) r
termination_by cs.length

/-- A backslash before a bracket that starts no tag is dropped. -/
def unescape : List Char → List Char
  | '\\' :: '[' :: r => '[' :: unescape r
  | c :: r => c :: unescape r
  | [] => []

/-- Controls that would move the cursor. -/
def movesCursor (c : Char) : Bool := [7, 8, 11, 12, 13].contains c.toNat

/-- How a part of a text shows. -/
def shown (cs : List Char) : List Char :=
  (Emoji.replace (unescape cs)).filter fun c => !movesCursor c

/-- A tag whose style is open. -/
structure Tag where
  /-- The normal form of its style. -/
  name : String
  parameters : List Char := []
deriving DecidableEq, Repr

/-- Takes the innermost tag with the given name out of the open ones. -/
def takeTag? (name : String) : List Tag → Option (Tag × List Tag)
  | [] => none
  | t :: rest =>
    if t.name = name then some (t, rest)
    else (takeTag? name rest).map fun (found, others) => (found, t :: others)

/-- Whether parameters are those of a handler: a function, with arguments on one line if there are any,
or a literal. -/
def isHandler (cs : List Char) : Bool :=
  let arguments := cs.dropWhile fun c => Text.isWord c || c = '.'
  if arguments.isEmpty then true
  else if arguments.head? = some '(' && arguments.getLast? = some ')' && !arguments.contains '\n' then
    Literal.isLiteral arguments
  else Literal.isLiteral cs

/-- Ends the style of a tag, and leaves the other open tags. -/
def Tag.close (t : Tag) (others : List Tag) : Except Failure (List Tag) :=
  if t.name.toList.head? = some '@' && !t.parameters.isEmpty
      && !isHandler (Text.trim Text.isBlank t.parameters) then
    .error (.markup ("error parsing " ++ Text.quote (String.ofList t.parameters)))
  else .ok others

/-- The tags that are open behind the end of a style. Without a name it ends the innermost one. -/
def endStyle (position : Nat) (body name : List Char) (opened : List Tag) :
    Except Failure (List Tag) :=
  if name.isEmpty then
    match opened with
    | t :: others => t.close others
    | [] =>
      .error (.markup ("closing tag '[/]' at position " ++ MeshAgent.shown position
        ++ " has nothing to close"))
  else do
    match takeTag? (← Style.normal name) opened with
    | some (t, others) => t.close others
    | none =>
      .error (.markup ("closing tag '[" ++ String.ofList body ++ "]' at position "
        ++ MeshAgent.shown position ++ " doesn't match any open tag"))

/-- The tags that are open behind a tag, innermost first. -/
def passTag (position : Nat) (body : List Char) (opened : List Tag) : Except Failure (List Tag) :=
  match Text.cutFirst '=' body with
  | ('/' :: r, _) => endStyle position body (Text.trim Text.isBlank r) opened
  | (name, parameters) => do
    return { name := ← Style.normal name, parameters := parameters.getD [] } :: opened

/-- Shows the pieces of a text, given the tags that are open. -/
def showPieces : List Tag → List Piece → Except Failure (List Char)
  | _, [] => .ok []
  | opened, .text cs :: ps => do return shown cs ++ (← showPieces opened ps)
  | opened, .tag position body :: ps => do showPieces (← passTag position body opened) ps

/-- Reads the style that a tag starts, its parameters included. What makes no style is passed over. -/
def readStyle (body : List Char) : Except Failure Unit :=
  match Text.cutFirst '=' body with
  | ('/' :: _, _) => .ok ()
  | (name, none) => do
    let name ← Style.normal name
    let _ ← Style.normal name.toList
  | (name, some parameters) => do
    let name ← Style.normal name
    let _ ← Style.normal (name.toList ++ ' ' :: parameters)

/-- Reads the styles of a text, also those that hold for no character. Only one with numbers in round
brackets can fail. -/
def readStyles : List Piece → Except Failure Unit
  | [] => .ok ()
  | .text _ :: ps => readStyles ps
  | .tag _ body :: ps => do
    if body.contains '(' then readStyle body
    readStyles ps

/-- The characters of a marked-up text. -/
def render (cs : List Char) : Except Failure (List Char) := do
  let out ← showPieces [] (pieces 0 [] cs)
  readStyles (pieces 0 [] cs)
  return out

end MeshAgent.Markup
