/-!
# Parts of a text

Looking for one text within another, and cutting a text at a character.
-/

namespace Salvo.Text

def contains (part : List Char) : List Char → Bool
  | [] => part.isEmpty
  | c :: cs => part.isPrefixOf (c :: cs) || contains part cs

/-- What follows the text `start` at the beginning of a text. -/
def after? (start : String) (cs : List Char) : Option (List Char) := start.toList.isPrefixOf? cs

def cutAt? (c : Char) : List Char → Option (List Char × List Char)
  | [] => none
  | d :: ds => if d = c then some ([], ds) else (cutAt? c ds).map fun p => (d :: p.1, p.2)

theorem contains_iff {part cs : List Char} : contains part cs = true ↔ part <:+: cs := by
  induction cs with
  | nil => simp [contains]
  | cons c cs ih => simp [contains, ih, List.infix_cons_iff]

end Salvo.Text
