import DeliveryRouting.Json.Fault

/-! # JSON: reading

A reader takes characters from the front of a text and gives a value, or the first fault it meets.
The readers of this module know the rules of JSON: blanks, words, numbers, texts, the marks of
lists and objects, and how to skip a value of any kind. What is wanted from a text is said by the
forms that are built from them.

Loops are bounded by the length of the text that is left, as each round takes a character. -/

namespace DeliveryRouting.Json

/-- Takes characters from the front of a text. -/
abbrev Reader := StateT (List Char) (Except Fault)

namespace Reader

/-- A space, a tab, a line feed or a carriage return. -/
def isBlank (c : Char) : Bool := c == ' ' || c == '\t' || c == '\n' || c == '\r'

/-- The next character, left in place. -/
def next? : Reader (Option Char) := return (← get).head?

/-- The next character that is no blank, left in place. -/
def peek? : Reader (Option Char) := do
  modify (·.dropWhile isBlank)
  next?

/-- Drop the next character. -/
def drop : Reader Unit := modify List.tail

/-- Take the next character of something that cannot end here. -/
def take (place : Place) : Reader Char := do
  match ← get with
  | [] => throw (.endsIn place)
  | c :: rest =>
    set rest
    return c

/-- Number of characters left. -/
def left : Reader Nat := return (← get).length

/-- Take the given characters. -/
def word : List Char → Reader Unit
  | [] => return
  | c :: rest => do
    if (← take .value) = c then word rest else throw (.breach .expectedWord)

/-! ### Numbers -/

/-- A number as it is written: whole in 64 bits without or with a sign, or any other. -/
inductive Number where
  | natural (n : Nat)
  | negative (n : Int)
  | float (x : Float)

/-- What a number is to be called where it is not wanted. -/
def Number.found : Number → Found
  | .natural n => .integer n
  | .negative n => .integer n
  | .float x => .float x

/-- The greatest significand. -/
def maxSignificand : Nat := 0xFFFFFFFFFFFFFFFF

/-- The greatest exponent that is told apart from greater ones. -/
def maxExponent : Nat := 0x7FFFFFFF

/-- Take digits behind the number `n` as long as the whole does not exceed `greatest`: the number,
how many digits were taken, and what is left. -/
def gather (greatest n taken : Nat) : List Char → Nat × Nat × List Char
  | [] => (n, taken, [])
  | c :: rest =>
    if c.isDigit && 10 * n + Numeral.digitValue c ≤ greatest then
      gather greatest (10 * n + Numeral.digitValue c) (taken + 1) rest
    else (n, taken, c :: rest)

/-- Take digits, and say how many. -/
def skipDigits : Reader Nat := do
  let s ← get
  set (s.dropWhile Char.isDigit)
  return (s.takeWhile Char.isDigit).length

/-- The next character is a digit. -/
def atDigit : Reader Bool := return ((← next?).map Char.isDigit).getD false

/-- The next character starts an exponent. -/
def atExponent : Reader Bool := return (← next?) == some 'e' || (← next?) == some 'E'

/-- The greatest power of ten of one step of `scale`. -/
def scaleStep : Nat := 308

/-- The power of ten. -/
def powerOfTen (k : Nat) : Float := Float.ofScientific 1 false k

/-- The value `x · 10 ^ e`, by one multiplication or division where a double holds the power of
ten and else step by step; nothing if it is too large for a double. -/
def scale : (steps : Nat) → Float → Int → Option Float
  | 0, x, _ => some x
  | steps + 1, x, e =>
    if e.natAbs ≤ scaleStep then
      if 0 ≤ e then
        let y := x * powerOfTen e.natAbs
        if y.isInf then none else some y
      else some (x / powerOfTen e.natAbs)
    else if x == 0.0 then some x
    else if 0 ≤ e then none
    else scale steps (x / powerOfTen scaleStep) (e + scaleStep)

/-- The number with a significand and an exponent. -/
def assemble (positive : Bool) (significand : Nat) (exponent : Int) : Reader Number :=
  match scale (exponent.natAbs / scaleStep + 1) (UInt64.ofNat significand).toFloat exponent with
  | some x => return .float (if positive then x else -x)
  | none => throw (.breach .hugeNumber)

/-- The rest of a number from the mark of its exponent on. -/
def exponent (positive : Bool) (significand : Nat) (start : Int) : Reader Number := do
  drop
  let upwards := (← next?) != some '-'
  if (← next?) == some '+' || (← next?) == some '-' then drop
  if (← next?).isNone then throw (.endsIn .value)
  if !(← atDigit) then throw (.breach .badNumber)
  let (e, _, rest) := gather maxExponent 0 0 (← get)
  set rest
  if ← atDigit then
    if significand ≠ 0 && upwards then throw (.breach .hugeNumber)
    discard skipDigits
    return .float (if positive then 0.0 else -0.0)
  assemble positive significand (if upwards then start + e else start - e)

/-- The rest of a number whose digits are taken. -/
def withExponent (positive : Bool) (significand : Nat) (start : Int) : Reader Number := do
  if ← atExponent then exponent positive significand start
  else assemble positive significand start

/-- The rest of a number from its point on. -/
def fraction (positive : Bool) (significand : Nat) (start : Int) : Reader Number := do
  drop
  let (significand, taken, rest) := gather maxSignificand significand 0 (← get)
  set rest
  if ← atDigit then discard skipDigits
  else if taken = 0 then
    throw (if rest.isEmpty then .endsIn .value else .breach .badNumber)
  withExponent positive significand (start - taken)

/-- The rest of a number whose digits before the point are taken. -/
def afterWhole (positive : Bool) (significand : Nat) : Reader Number := do
  if (← next?) == some '.' then fraction positive significand 0
  else if ← atExponent then exponent positive significand 0
  else if positive then return .natural significand
  else if significand = 0 || 0x8000000000000000 < significand then
    return .float (-(UInt64.ofNat significand).toFloat)
  else return .negative (-(significand : Int))

/-- A number without its sign. -/
def unsigned (positive : Bool) : Reader Number := do
  match ← next? with
  | none => throw (.endsIn .value)
  | some '0' =>
    drop
    if ← atDigit then throw (.breach .badNumber)
    afterWhole positive 0
  | some c =>
    if !c.isDigit then throw (.breach .badNumber)
    let (significand, _, rest) := gather maxSignificand 0 0 (← get)
    set rest
    if ← atDigit then
      let more ← skipDigits
      if (← next?) == some '.' then fraction positive significand more
      else withExponent positive significand more
    else afterWhole positive significand

/-- A number. -/
def number : Reader Number := do
  if (← next?) == some '-' then
    drop
    unsigned false
  else unsigned true

/-! ### Texts -/

/-- The value of a hexadecimal digit. -/
def hexValue? (c : Char) : Option Nat :=
  if c.isDigit then some (Numeral.digitValue c)
  else if 'a' ≤ c ∧ c ≤ 'f' then some (c.toNat - 'a'.toNat + 10)
  else if 'A' ≤ c ∧ c ≤ 'F' then some (c.toNat - 'A'.toNat + 10)
  else none

/-- Four hexadecimal digits, which take at least four bytes. -/
def fourHex : Reader Nat := do
  let s ← get
  let digits := (s.take 4).mapM hexValue?
  match digits with
  | some [a, b, c, d] =>
    set (s.drop 4)
    return ((a * 16 + b) * 16 + c) * 16 + d
  | _ =>
    if ((s.take 4).map Char.utf8Size).sum < 4 then throw (.endsIn .text)
    else throw (.breach .unknownEscape)

/-- The unit is the first half of a pair. -/
def isLeading (unit : Nat) : Bool := 0xD800 ≤ unit && unit ≤ 0xDBFF

/-- The unit is the second half of a pair. -/
def isTrailing (unit : Nat) : Bool := 0xDC00 ≤ unit && unit ≤ 0xDFFF

/-- Take a character that has to follow the first half of a pair. -/
def pairMark (c : Char) : Reader Unit := do
  if (← take .text) ≠ c then throw (.breach .brokenSurrogatePair)

/-- The character of one unit of 16 bits or of a pair of them. -/
def unitEscape : Reader Char := do
  let first ← fourHex
  if isTrailing first then throw (.breach .loneSurrogate)
  if !isLeading first then return Char.ofNat first
  pairMark '\\'
  pairMark 'u'
  let second ← fourHex
  if !isTrailing second then throw (.breach .loneSurrogate)
  return Char.ofNat (0x10000 + (first - 0xD800) * 0x400 + (second - 0xDC00))

/-- The character that a letter behind a backslash stands for. -/
def letterEscape? : Char → Option Char
  | '"' => some '"'
  | '\\' => some '\\'
  | '/' => some '/'
  | 'b' => some '\x08'
  | 'f' => some '\x0c'
  | 'n' => some '\n'
  | 'r' => some '\r'
  | 't' => some '\t'
  | _ => none

/-- What stands behind a backslash. -/
def escape : Reader Char := do
  let c ← take .text
  if c = 'u' then unitEscape
  else match letterEscape? c with
    | some c => return c
    | none => throw (.breach .unknownEscape)

/-- The characters up to the closing quote. -/
def textRest : (steps : Nat) → Reader (List Char)
  | 0 => throw (.endsIn .text)
  | steps + 1 => do
    let c ← take .text
    if c = '"' then return []
    else if c = '\\' then
      let c ← escape
      return c :: (← textRest steps)
    else if c.toNat < 0x20 then throw (.breach .controlCharacter)
    else return c :: (← textRest steps)

/-- A text from its opening quote on. -/
def text : Reader String := do
  drop
  return String.ofList (← textRest (← left))

/-! ### Lists and objects -/

/-- A list has another item, which comes next. -/
def hasItem (first : Bool) : Reader Bool := do
  match ← peek? with
  | none => throw (.endsIn .list)
  | some ']' => return false
  | some c =>
    if c = ',' ∧ !first then
      drop
      match ← peek? with
      | none => throw (.endsIn .value)
      | some ']' => throw (.breach .trailingComma)
      | some _ => return true
    else if first then return true
    else throw (.breach .expectedListEnd)

/-- An object has another member, whose key comes next. -/
def hasMember (first : Bool) : Reader Bool := do
  match ← peek? with
  | none => throw (.endsIn .object)
  | some '\x7d' => return false
  | some c =>
    if c = ',' ∧ !first then
      drop
      match ← peek? with
      | none => throw (.endsIn .value)
      | some '"' => return true
      | some '\x7d' => throw (.breach .trailingComma)
      | some _ => throw (.breach .keyIsNoText)
    else if !first then throw (.breach .expectedObjectEnd)
    else if c = '"' then return true
    else throw (.breach .keyIsNoText)

/-- The end of a list from which all wanted items are taken. -/
def closeList : Reader Unit := do
  match ← peek? with
  | some ']' => drop
  | some ',' =>
    drop
    if (← peek?) == some ']' then throw (.breach .trailingComma)
    else throw (.breach .trailingCharacters)
  | some _ => throw (.breach .trailingCharacters)
  | none => throw (.endsIn .list)

/-- The colon behind a key. -/
def colon : Reader Unit := do
  match ← peek? with
  | some ':' => drop
  | some _ => throw (.breach .expectedColon)
  | none => throw (.endsIn .object)

/-- The items of a list up to its end. -/
def items {α : Type} (read : Reader α) : (steps : Nat) → (first : Bool) → Reader (List α)
  | 0, _ => throw (.endsIn .list)
  | steps + 1, first => do
    if ← hasItem first then
      let a ← read
      return a :: (← items read steps false)
    else return []

/-- What comes next is not wanted; `expected` says what is. -/
def mismatch {α : Type} (expected : String) : Reader α := do
  let wrong := fun found => throw (.data (.wrongType found expected))
  match ← peek? with
  | some 'n' =>
    word "null".toList
    wrong .null
  | some 't' =>
    word "true".toList
    wrong (.bool true)
  | some 'f' =>
    word "false".toList
    wrong (.bool false)
  | some '"' => wrong (.text (← text))
  | some '[' => wrong .sequence
  | some '\x7b' => wrong .map
  | some c =>
    if c = '-' || c.isDigit then wrong (← number).found
    else throw (.breach .expectedValue)
  | none => throw (.endsIn .value)

/-- Nothing but blanks is left. -/
def finish : Reader Unit := do
  if (← peek?).isSome then throw (.breach .trailingCharacters)

/-! ### Skipping a value -/

/-- Skip the digits of a number's exponent with its mark. -/
def skipExponent : Reader Unit := do
  drop
  if (← next?) == some '+' || (← next?) == some '-' then drop
  if (← skipDigits) = 0 then throw (.breach .badNumber)

/-- Skip a number without its sign. -/
def skipUnsigned : Reader Unit := do
  if (← next?) == some '0' then
    drop
    if ← atDigit then throw (.breach .badNumber)
  else if (← skipDigits) = 0 then throw (.breach .badNumber)
  if (← next?) == some '.' then
    drop
    if (← skipDigits) = 0 then throw (.breach .badNumber)
  if ← atExponent then skipExponent

/-- Skip the rest of a text; halves of pairs may stand alone. -/
def skipTextRest : (steps : Nat) → Reader Unit
  | 0 => throw (.endsIn .text)
  | steps + 1 => do
    let c ← take .text
    if c = '"' then return
    if c = '\\' then
      let letter ← take .text
      if letter = 'u' then discard fourHex
      else if (letterEscape? letter).isNone then throw (.breach .unknownEscape)
    else if c.toNat < 0x20 then throw (.breach .controlCharacter)
    skipTextRest steps

/-- Skip a text from its opening quote on. -/
def skipText : Reader Unit := do
  drop
  skipTextRest (← left)

/-- A list or an object that is not closed yet. -/
inductive Frame where
  | list
  | object
  deriving DecidableEq

/-- The character that closes a frame. -/
def Frame.closing : Frame → Char
  | .list => ']'
  | .object => '\x7d'

/-- The place inside a frame. -/
def Frame.place : Frame → Place
  | .list => .list
  | .object => .object

/-- What is wrong when a frame neither goes on nor ends. -/
def Frame.unclosed : Frame → Breach
  | .list => .expectedListEnd
  | .object => .expectedObjectEnd

/-- Close frames as long as they end here. What is left comes next in the innermost of the frames
that are given back; with none left the value is complete. A frame just opened takes no comma. -/
def closeFrames : (fresh : Bool) → List Frame → Reader (List Frame)
  | _, [] => return []
  | fresh, frame :: outer => do
    match ← peek? with
    | none => throw (.endsIn frame.place)
    | some c =>
      if c = ',' ∧ !fresh then
        drop
        return frame :: outer
      else if c = frame.closing then
        drop
        closeFrames false outer
      else if fresh then return frame :: outer
      else throw (.breach frame.unclosed)

/-- Skip a key with its colon, if the innermost frame wants one. -/
def skipKey : List Frame → Reader Unit
  | .object :: _ => do
    match ← peek? with
    | some '"' =>
      skipText
      colon
    | some _ => throw (.breach .keyIsNoText)
    | none => throw (.endsIn .object)
  | _ => return

/-- Skip a value inside the given frames, and what follows up to the end of the outermost one. -/
def skipIn : (steps : Nat) → List Frame → Reader Unit
  | 0, _ => throw (.endsIn .value)
  | steps + 1, frames => do
    let (fresh, frames) ← match ← peek? with
      | none => throw (.endsIn .value)
      | some '[' =>
        drop
        pure (true, Frame.list :: frames)
      | some '\x7b' =>
        drop
        pure (true, Frame.object :: frames)
      | some 'n' =>
        word "null".toList
        pure (false, frames)
      | some 't' =>
        word "true".toList
        pure (false, frames)
      | some 'f' =>
        word "false".toList
        pure (false, frames)
      | some '"' =>
        skipText
        pure (false, frames)
      | some c =>
        if c = '-' then
          drop
          skipUnsigned
        else if c.isDigit then skipUnsigned
        else throw (.breach .expectedValue)
        pure (false, frames)
    let frames ← closeFrames fresh frames
    if frames.isEmpty then return
    skipKey frames
    skipIn steps frames

/-- Skip a value of any kind. -/
def skip : Reader Unit := do skipIn ((← left) + 1) []

end Reader

end DeliveryRouting.Json
