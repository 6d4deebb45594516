/-!
# Blank characters

`isBlank` is the Unicode class of white space. It decides where words end, what trimming removes and
what a dice expression or a number in a tag may be interspersed with.
-/

namespace Salvo.Text

def isBlank (c : Char) : Bool :=
  let n := c.toNat
  (0x9 ≤ n && n ≤ 0xD) || n == 0x20 || n == 0x85 || n == 0xA0 || n == 0x1680 ||
    (0x2000 ≤ n && n ≤ 0x200A) || n == 0x2028 || n == 0x2029 || n == 0x202F || n == 0x205F ||
    n == 0x3000

def trimStart (cs : List Char) : List Char := cs.dropWhile isBlank

def trimEnd (cs : List Char) : List Char := (cs.reverse.dropWhile isBlank).reverse

def trim (cs : List Char) : List Char := trimEnd (trimStart cs)

def withoutBlanks (cs : List Char) : List Char := cs.filter fun c => !isBlank c

/-- The words of a text: its longest runs without blanks, in order. -/
def words (cs : List Char) : List (List Char) :=
  (cs.splitOnP isBlank).filter fun w => !w.isEmpty

def collapseBlanks (cs : List Char) : List Char := [' '].intercalate (words cs)

@[simp] theorem words_nil : words [] = [] := rfl

theorem isBlank_space : isBlank ' ' = true := rfl

theorem withoutBlanks_append (cs ds : List Char) :
    withoutBlanks (cs ++ ds) = withoutBlanks cs ++ withoutBlanks ds := by
  simp [withoutBlanks]

end Salvo.Text
