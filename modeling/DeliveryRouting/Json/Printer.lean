import DeliveryRouting.Json.Fault
import DeliveryRouting.Json.Value

/-! # JSON: writing

Values are written over several lines, an item or a member a line, each level two spaces deeper
than the one around it; lists and objects without content take no lines of their own. -/

namespace DeliveryRouting.Json

/-- The letter that stands for a character behind a backslash, if it has one. -/
def escapeLetter? : Char → Option Char
  | '"' => some '"'
  | '\\' => some '\\'
  | '\x08' => some 'b'
  | '\x0c' => some 'f'
  | '\n' => some 'n'
  | '\r' => some 'r'
  | '\t' => some 't'
  | _ => none

/-- Hexadecimal digits filled up with zeros to four. -/
def fourDigits (n : Nat) : List Char :=
  let digits := Nat.toDigits 16 n
  List.replicate (4 - digits.length) '0' ++ digits

/-- One character of a text. -/
def writeChar (c : Char) : List Char :=
  match escapeLetter? c with
  | some l => ['\\', l]
  | none => if c.toNat < 0x20 then ['\\', 'u'] ++ fourDigits c.toNat else [c]

/-- A text between quotes. -/
def writeText (s : String) : String :=
  String.ofList ('"' :: s.toList.flatMap writeChar ++ ['"'])

namespace Value

/-- A line break and the indentation of a level. -/
def newline (level : Nat) : String := "\n" ++ String.ofList (List.replicate (2 * level) ' ')

/-- Lines at a level between an opening and a closing mark. -/
def block (level : Nat) (opening closing : String) (lines : List String) : String :=
  if lines.isEmpty then opening ++ closing
  else opening ++ newline (level + 1) ++ String.intercalate ("," ++ newline (level + 1)) lines ++
    newline level ++ closing

mutual
/-- The text of a value at a level. -/
def write (level : Nat) : Value → String
  | null => "null"
  | bool b => if b then "true" else "false"
  | int n => toString n
  | float x => if x.isFinite then numberLayout.write x else "null"
  | text s => writeText s
  | list items => block level "[" "]" (writeItems (level + 1) items)
  | record members => block level "\x7b" "\x7d" (writeMembers (level + 1) members)

/-- The texts of the items of a list. -/
def writeItems (level : Nat) : List Value → List String
  | [] => []
  | v :: rest => v.write level :: writeItems level rest

/-- The texts of the members of an object. -/
def writeMembers (level : Nat) : List (String × Value) → List String
  | [] => []
  | (key, v) :: rest => (writeText key ++ ": " ++ v.write level) :: writeMembers level rest
end

/-- The text of a value over several lines. -/
def pretty (v : Value) : String := v.write 0

end Value

end DeliveryRouting.Json
