import Salvo.Json.Basic
import Salvo.Decimal.Reading
import Salvo.Text.Number

/-!
# The tokens of a JSON text

`Token.ofText?` splits a text into punctuation, strings and other words in one pass over its
characters. A word is read as a whole: it is a number, one of three literals, or an error.
-/

namespace Salvo.Json

inductive Token where
  | openArray
  | closeArray
  | openObject
  | closeObject
  | colon
  | comma
  /-- A string; `none` if it has half a surrogate pair. -/
  | string (s : Option String)
  /-- A number or a literal. -/
  | word (value : Json)

/-- The largest significand that is kept when a number is read. -/
def maxSignificand : Nat := 18446744073709551615

/-- Appends digits to a significand as long as it fits. Also counts the digits that it takes. -/
def absorb (significand taken : Nat) : List Char → Nat × Nat
  | [] => (significand, taken)
  | c :: cs =>
    let next := 10 * significand + Text.digitValue c
    if next ≤ maxSignificand then absorb next (taken + 1) cs else (significand, taken)

/-- A number with a fraction or an exponent, or one that is too long. Digits past the largest
significand only count as places. -/
def floatOf (negative : Bool) (whole fraction : List Char) (exponent : Int) : Json :=
  let (significand, taken) := absorb 0 0 whole
  let dropped := whole.length - taken
  let (significand, places) := absorb significand 0 fraction
  match Decimal.scaled significand (exponent + dropped - places) with
  | some x => float (if negative then -x else x)
  | none => unreadable

def wholeOf (negative : Bool) (whole : List Char) : Json :=
  let n := Text.digitsValue 0 whole
  if negative then
    if n = 0 || 9223372036854775808 < n then floatOf true whole [] 0 else int (-n)
  else if n ≤ maxSignificand then int n
  else floatOf false whole [] 0

/-- The digits in front of a number's fraction: one zero, or no zero first. -/
def isWholePart : List Char → Bool
  | [] => false
  | c :: cs => c != '0' || cs.isEmpty

def exponent? : List Char → Option Int
  | '-' :: cs => (Text.digits? cs).map fun n => -(n : Int)
  | cs => (Text.digits? (Text.dropPlus cs)).map Int.ofNat

def numberFrom? (negative : Bool) (whole : List Char) : List Char → Option Json
  | [] => some (wholeOf negative whole)
  | '.' :: cs =>
    let fraction := cs.takeWhile Char.isDigit
    if fraction.isEmpty then none
    else
      match cs.dropWhile Char.isDigit with
      | [] => some (floatOf negative whole fraction 0)
      | mark :: ds =>
        if mark = 'e' || mark = 'E' then (exponent? ds).map (floatOf negative whole fraction)
        else none
  | mark :: ds =>
    if mark = 'e' || mark = 'E' then (exponent? ds).map (floatOf negative whole []) else none

def unsigned? (negative : Bool) (cs : List Char) : Option Json :=
  let whole := cs.takeWhile Char.isDigit
  if isWholePart whole then numberFrom? negative whole (cs.dropWhile Char.isDigit) else none

def word? : List Char → Option Json
  | ['n', 'u', 'l', 'l'] => some null
  | ['t', 'r', 'u', 'e'] => some (bool true)
  | ['f', 'a', 'l', 's', 'e'] => some (bool false)
  | '-' :: cs => unsigned? true cs
  | cs => unsigned? false cs

def hexDigit? (c : Char) : Option Nat :=
  if c.isDigit then some (c.toNat - 48)
  else if 'a' ≤ c && c ≤ 'f' then some (c.toNat - 87)
  else if 'A' ≤ c && c ≤ 'F' then some (c.toNat - 55)
  else none

def hex4? (a b c d : Char) : Option Nat := do
  return 4096 * (← hexDigit? a) + 256 * (← hexDigit? b) + 16 * (← hexDigit? c) + (← hexDigit? d)

def escape? : Char → Option Char
  | '"' => some '"'
  | '\\' => some '\\'
  | '/' => some '/'
  | 'b' => some '\x08'
  | 'f' => some '\x0c'
  | 'n' => some '\n'
  | 'r' => some '\r'
  | 't' => some '\t'
  | _ => none

def isHighUnit (n : Nat) : Bool := 0xD800 ≤ n && n < 0xDC00

def isLowUnit (n : Nat) : Bool := 0xDC00 ≤ n && n < 0xE000

/-- Resolves the escapes of a string behind the characters `done`, which are in reverse. The inner
option is empty if half a surrogate pair was met. -/
def unescape (whole : Bool) (done : List Char) : List Char → Option (Option String)
  | [] => some (if whole then some (String.ofList done.reverse) else none)
  | '\\' :: 'u' :: a :: b :: c :: d :: '\\' :: 'u' :: e :: f :: g :: h :: cs =>
    match hex4? a b c d, hex4? e f g h with
    | some n, some m =>
      if isHighUnit n && isLowUnit m then
        unescape whole (Char.ofNat (0x10000 + (n - 0xD800) * 0x400 + (m - 0xDC00)) :: done) cs
      else if isHighUnit n || isLowUnit n then
        unescape false done ('\\' :: 'u' :: e :: f :: g :: h :: cs)
      else unescape whole (Char.ofNat n :: done) ('\\' :: 'u' :: e :: f :: g :: h :: cs)
    | _, _ => none
  | '\\' :: 'u' :: a :: b :: c :: d :: cs =>
    match hex4? a b c d with
    | some n =>
      if isHighUnit n || isLowUnit n then unescape false done cs
      else unescape whole (Char.ofNat n :: done) cs
    | none => none
  | '\\' :: c :: cs =>
    match escape? c with
    | some e => unescape whole (e :: done) cs
    | none => none
  | c :: cs =>
    if c = '\\' || c.toNat < 0x20 then none else unescape whole (c :: done) cs

/-- What the characters read so far belong to; they are kept in reverse. -/
inductive Lexeme where
  | space
  | word (read : List Char)
  | quoted (read : List Char)
  /-- Within a string, behind a backslash. -/
  | escaped (read : List Char)

namespace Lexeme

def finish? (tokens : Array Token) : Lexeme → Option (Array Token)
  | space => some tokens
  | word read => (word? read.reverse).map fun v => tokens.push (.word v)
  | quoted _ => none
  | escaped _ => none

def start (tokens : Array Token) (c : Char) : Array Token × Lexeme :=
  match c with
  | '[' => (tokens.push .openArray, space)
  | ']' => (tokens.push .closeArray, space)
  | '\x7b' => (tokens.push .openObject, space)
  | '\x7d' => (tokens.push .closeObject, space)
  | ':' => (tokens.push .colon, space)
  | ',' => (tokens.push .comma, space)
  | '"' => (tokens, quoted [])
  | ' ' | '\n' | '\r' | '\t' => (tokens, space)
  | c => (tokens, word [c])

def next? (tokens : Array Token) (c : Char) : Lexeme → Option (Array Token × Lexeme)
  | space => some (start tokens c)
  | word read =>
    match start #[] c with
    | (_, word _) => some (tokens, word (c :: read))
    | _ => (finish? tokens (word read)).map fun tokens => start tokens c
  | quoted read =>
    if c = '"' then (unescape true [] read.reverse).map fun s => (tokens.push (.string s), space)
    else if c = '\\' then some (tokens, escaped (c :: read))
    else some (tokens, quoted (c :: read))
  | escaped read => some (tokens, quoted (c :: read))

end Lexeme

def Token.scan? (tokens : Array Token) (lexeme : Lexeme) : List Char → Option (Array Token)
  | [] => lexeme.finish? tokens
  | c :: cs =>
    match lexeme.next? tokens c with
    | some (tokens, lexeme) => Token.scan? tokens lexeme cs
    | none => none

def Token.ofText? (s : String) : Option (Array Token) := Token.scan? #[] .space s.toList

end Salvo.Json
