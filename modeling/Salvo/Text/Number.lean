import Salvo.Text.Blank

/-!
# Numbers in decimal digits

`natText` and `intText` write a number in the fewest digits; `readNat?` and `readInt?` read ASCII
digits with an optional sign and any number of leading zeros, and refuse a value beyond a bound.
-/

namespace Salvo.Text

def digit (n : Nat) : Char := Char.ofNat (48 + n)

def digitValue (c : Char) : Nat := c.toNat - 48

def natText (n : Nat) : List Char :=
  if _h : n < 10 then [digit n] else natText (n / 10) ++ [digit (n % 10)]
termination_by n
decreasing_by omega

def intText (n : Int) : List Char :=
  if n < 0 then '-' :: natText n.natAbs else natText n.natAbs

def digitsValue (acc : Nat) (cs : List Char) : Nat :=
  cs.foldl (fun n c => 10 * n + digitValue c) acc

def digits? (cs : List Char) : Option Nat :=
  if cs.isEmpty || !cs.all Char.isDigit then none else some (digitsValue 0 cs)

def dropPlus : List Char → List Char
  | '+' :: cs => cs
  | cs => cs

def dropLastPlus (cs : List Char) : List Char :=
  if cs.getLast? = some '+' then cs.dropLast else cs

/-- A natural number up to `bound`, with an optional plus sign. -/
def readNat? (bound : Nat) (cs : List Char) : Option Nat :=
  (digits? (dropPlus cs)).filter (· ≤ bound)

def readInt? (lo hi : Int) (cs : List Char) : Option Int :=
  let value? : Option Int :=
    match cs with
    | '-' :: ds => (digits? ds).map fun n => -(n : Int)
    | ds => (digits? (dropPlus ds)).map Int.ofNat
  value?.filter fun n => lo ≤ n && n ≤ hi

@[simp] theorem digits?_nil : digits? [] = none := rfl

@[simp] theorem dropPlus_nil : dropPlus [] = [] := rfl

theorem digitsValue_append (acc : Nat) (cs ds : List Char) :
    digitsValue acc (cs ++ ds) = digitsValue (digitsValue acc cs) ds := by
  simp [digitsValue]

theorem digitValue_digit {n : Nat} (h : n < 10) : digitValue (digit n) = n := by
  have : n = 0 ∨ n = 1 ∨ n = 2 ∨ n = 3 ∨ n = 4 ∨ n = 5 ∨ n = 6 ∨ n = 7 ∨ n = 8 ∨ n = 9 := by
    omega
  rcases this with rfl | rfl | rfl | rfl | rfl | rfl | rfl | rfl | rfl | rfl <;> rfl

theorem isDigit_digit {n : Nat} (h : n < 10) : (digit n).isDigit = true := by
  have : n = 0 ∨ n = 1 ∨ n = 2 ∨ n = 3 ∨ n = 4 ∨ n = 5 ∨ n = 6 ∨ n = 7 ∨ n = 8 ∨ n = 9 := by
    omega
  rcases this with rfl | rfl | rfl | rfl | rfl | rfl | rfl | rfl | rfl | rfl <;> rfl

theorem natText_ne_nil (n : Nat) : natText n ≠ [] := by
  rw [natText]; split <;> simp

theorem all_isDigit_natText (n : Nat) : (natText n).all Char.isDigit = true := by
  fun_induction natText n with
  | case1 n h => simp [isDigit_digit h]
  | case2 n h ih => rw [List.all_append, ih]; simp [isDigit_digit (Nat.mod_lt n (by omega))]

theorem digitsValue_natText (n : Nat) : digitsValue 0 (natText n) = n := by
  fun_induction natText n with
  | case1 n h => simp [digitsValue, digitValue_digit h]
  | case2 n h ih =>
    rw [digitsValue_append, ih]
    simp only [digitsValue, List.foldl_cons, List.foldl_nil,
      digitValue_digit (Nat.mod_lt n (by omega))]
    omega

theorem digits?_natText (n : Nat) : digits? (natText n) = some n := by
  simp [digits?, natText_ne_nil, all_isDigit_natText, digitsValue_natText]

end Salvo.Text
