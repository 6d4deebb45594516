import Salvo.Text.LetterCase
import Salvo.Text.Blank

/-!
# Tags

Tags are free text. `Tag.normal` is the form in which they are compared: lower case, one kind of
dash, `reroll` in one word and single spaces.
-/

namespace Salvo.Tag

def plainDash (c : Char) : Char := if c = '–' || c = '—' then '-' else c

def joinReroll : List Char → List Char
  | 'r' :: 'e' :: '-' :: 'r' :: 'o' :: 'l' :: 'l' :: cs =>
    'r' :: 'e' :: 'r' :: 'o' :: 'l' :: 'l' :: joinReroll cs
  | c :: cs => c :: joinReroll cs
  | [] => []

def normalChars (cs : List Char) : List Char :=
  Text.collapseBlanks (joinReroll ((Text.lower cs).map plainDash))

def normal (tag : String) : String := String.ofList (normalChars tag.toList)

@[simp] theorem toList_normal (tag : String) : (normal tag).toList = normalChars tag.toList := by
  simp [normal]

@[simp] theorem plainDash_plainDash (c : Char) : plainDash (plainDash c) = plainDash c := by
  unfold plainDash; split <;> simp_all

end Salvo.Tag
