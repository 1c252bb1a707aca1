import MeshAgent.Terminal.Lines
import MeshAgent.Terminal.Markup

/-!
# Panels on a terminal

A box around a text, as wide as the terminal, with a title in its upper edge.
-/
namespace MeshAgent.Panel

/-- The title between blanks, in the middle of a line of the given width. -/
def titleLine (limit : Nat) (title : List Char) : List Char :=
  let title := Lines.expandTabs 0 (title.map fun c => if c = '\n' then ' ' else c)
  let title := Lines.truncate limit .fold (' ' :: title ++ [' '])
  let excess := limit - Text.width title
  let left := List.replicate (excess / 2) '─'
  let right := List.replicate (excess - excess / 2) '─'
  Lines.truncate limit .fold (Lines.dropExcess limit (left ++ title ++ right))

/-- The lines of a panel around a marked-up text. -/
def render (limit : Nat) (title body : String) : Except Failure (List (List Char)) := do
  let title ← Markup.render title.toList
  let body ← Markup.render body.toList
  let inner := limit - 4
  let top := ['╭', '─'] ++ titleLine inner title ++ ['─', '╮']
  let bottom := '╰' :: List.replicate (limit - 2) '─' ++ ['╯']
  let rows := (Lines.wrap inner .none .fold body).map fun l =>
    ['│', ' '] ++ Lines.pad inner l ++ [' ', '│']
  return top :: rows ++ [bottom]

end MeshAgent.Panel
