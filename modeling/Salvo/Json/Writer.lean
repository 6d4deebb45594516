import Salvo.Json.Basic
import Salvo.Decimal.Style

/-!
# Writing JSON

`compact` writes a value without blanks, `pretty` with one item a line and two spaces for each level.
Both escape quotes, backslashes and control characters, and nothing else. Doubles that are infinite
or not numbers are written as `null`.
-/

namespace Salvo.Json

def hexDigit (n : Nat) : Char := Char.ofNat (if n < 10 then 48 + n else 87 + n)

def escapeChar (c : Char) : List Char :=
  match c with
  | '"' => ['\\', '"']
  | '\\' => ['\\', '\\']
  | '\x08' => ['\\', 'b']
  | '\t' => ['\\', 't']
  | '\n' => ['\\', 'n']
  | '\x0c' => ['\\', 'f']
  | '\r' => ['\\', 'r']
  | c =>
    if c.toNat < 0x20 then ['\\', 'u', '0', '0', hexDigit (c.toNat / 16), hexDigit (c.toNat % 16)]
    else [c]

def quote (s : String) : String :=
  "\"" ++ String.ofList (s.toList.flatMap escapeChar) ++ "\""

def floatText (x : Float) : String :=
  if x.isFinite then Decimal.jsonStyle.text x else "null"

def scalarText : Json → String
  | bool b => if b then "true" else "false"
  | int n => String.ofList (Text.intText n)
  | float x => floatText x
  | text s => quote s
  | _ => "null"

mutual

def compactOnto (out : String) : Json → String
  | array items => compactItems (out ++ "[") "" items ++ "]"
  | object fields => compactFields (out ++ "\x7b") "" fields ++ "\x7d"
  | value => out ++ scalarText value

def compactItems (out separator : String) : List Json → String
  | [] => out
  | item :: items => compactItems (item.compactOnto (out ++ separator)) "," items

def compactFields (out separator : String) : List (String × Json) → String
  | [] => out
  | (key, value) :: fields =>
    compactFields (value.compactOnto (out ++ separator ++ quote key ++ ":")) "," fields

end

def compact (value : Json) : String := value.compactOnto ""

def lineBreak (level : Nat) : String := "\n" ++ String.ofList (List.replicate (2 * level) ' ')

mutual

/-- Appends the value over several lines; the first line is at the given level. -/
def prettyOnto (level : Nat) (out : String) : Json → String
  | array [] => out ++ "[]"
  | array items => prettyItems (level + 1) (out ++ "[") "" items ++ lineBreak level ++ "]"
  | object [] => out ++ "\x7b\x7d"
  | object fields =>
    prettyFields (level + 1) (out ++ "\x7b") "" fields ++ lineBreak level ++ "\x7d"
  | value => out ++ scalarText value

def prettyItems (level : Nat) (out separator : String) : List Json → String
  | [] => out
  | item :: items =>
    prettyItems level (item.prettyOnto level (out ++ separator ++ lineBreak level)) "," items

def prettyFields (level : Nat) (out separator : String) : List (String × Json) → String
  | [] => out
  | (key, value) :: fields =>
    prettyFields level
      (value.prettyOnto level (out ++ separator ++ lineBreak level ++ quote key ++ ": ")) ","
      fields

end

def pretty (value : Json) : String := value.prettyOnto 0 ""

end Salvo.Json
