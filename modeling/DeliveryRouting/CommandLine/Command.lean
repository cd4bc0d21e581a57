import DeliveryRouting.CommandLine.Arguments
import DeliveryRouting.Time.TimespanText

/-! # Command line: commands

The program plans the request in a file, plans the demonstration, or prints a schema. Arguments are
read from left to right: the first thing wrong with them is what they are refused for, unless help
or the version is asked for before. -/

namespace DeliveryRouting.CommandLine

/-- How a request is to be planned. -/
structure Options where
  /-- nanoseconds the search may take -/
  timeLimit : Int := 5 * Timespan.second
  trips : Nat := 1
  threads : Nat := 4
  /-- estimate the travel durations without a server -/
  crowFlies : Bool := false
  /-- run in the background and tell all about the job -/
  background : Bool := false
  /-- where to write the answer, if not to standard output -/
  output : Option String := none
  deriving Repr, DecidableEq, Inhabited

/-- Which schema to print. -/
inductive SchemaKind where
  | request
  | response
  deriving Repr, DecidableEq, Inhabited

/-- What to do. -/
inductive Command where
  | nothing
  | solve (input : String) (options : Options)
  | demo (options : Options)
  | schema (kind : SchemaKind)
  deriving Repr, DecidableEq

/-- What arguments come to. -/
inductive Instruction where
  | run (command : Command)
  | help
  | version
  | refuse (refusal : Refusal)
  deriving Repr, DecidableEq

/-- Arguments are read until the instruction is clear. -/
abbrev Reading := Except Instruction

/-! ### Values -/

/-- A number of 64 bits without sign, perhaps behind a plus. -/
def size? (value : String) : Option Nat :=
  match value.toList with
  | '+' :: digits => if Numeral.isNumeral digits then bounded digits else none
  | digits => if Numeral.isNumeral digits then bounded digits else none
where
  /-- The value of digits, if it takes no more than 64 bits. -/
  bounded (digits : List Char) : Option Nat :=
    if Numeral.value digits < 0x10000000000000000 then some (Numeral.value digits) else none

/-- A number from 0 to 255 behind a sign or none. -/
def octet? (value : String) : Option Nat :=
  match Timespan.wholeNumber? value.toList with
  | some n => if 0 ≤ n ∧ n ≤ 255 then some n.toNat else none
  | none => none

/-- A value, or a refusal. -/
def demand {α : Type} (name value : String) : Option α → Reading α
  | some a => .ok a
  | none => .error (.refuse (.badValue name value))

/-- A path, which is not empty. -/
def path? (value : String) : Option String := if value.isEmpty then none else some value

/-! ### Options -/

def debug : OptionName := { long := "debug", letter? := 'd' }
def version : OptionName := { long := "version", letter? := 'V' }
def help : OptionName := { long := "help", letter? := 'h' }
def input : OptionName := { long := "input", letter? := 'i', hasValue := true }
def timeLimit : OptionName := { long := "time-limit", letter? := 't', hasValue := true }
def trips : OptionName := { long := "trips", hasValue := true }
def threads : OptionName := { long := "threads", hasValue := true }
def crowFlies : OptionName := { long := "crow-flies" }
def background : OptionName := { long := "async" }
def output : OptionName := { long := "output", letter? := 'o', hasValue := true }

/-- The options in front of the command. -/
def general : List OptionName := [debug, version, help]

/-- The options of planning. -/
def planning : List OptionName := [timeLimit, trips, threads, crowFlies, background, output, help]

/-- What has been read so far. -/
structure Progress where
  options : Options := {}
  input? : Option String := none
  words : List String := []
  seen : List String := []

namespace Progress

/-- Take an option of planning into account. -/
def setting (p : Progress) (name value : String) : Reading Progress :=
  if name = input.long then do
    return { p with input? := some (← demand name value (path? value)) }
  else if name = timeLimit.long then do
    let limit ← demand name value (Timespan.read value).toOption
    return { p with options.timeLimit := limit }
  else if name = trips.long then do
    return { p with options.trips := ← demand name value (size? value) }
  else if name = threads.long then do
    return { p with options.threads := ← demand name value (octet? value) }
  else if name = output.long then do
    return { p with options.output := some (← demand name value (path? value)) }
  else if name = crowFlies.long then .ok { p with options.crowFlies := true }
  else if name = background.long then .ok { p with options.background := true }
  else .ok p

/-- Take a piece into account. No option may be used twice. -/
def take (most : Nat) (p : Progress) : Piece → Reading Progress
  | .refused refusal => .error (.refuse refusal)
  | .word word =>
    if p.words.length < most then .ok { p with words := p.words ++ [word] }
    else .error (.refuse (.unexpectedWord word))
  | .option name value =>
    if name = help.long then .error .help
    else if name = version.long then .error .version
    else if p.seen.contains name then .error (.refuse (.repeated name))
    else ({ p with seen := name :: p.seen } : Progress).setting name (value.getD "")

end Progress

/-- Read pieces with at most so many words among them. -/
def readPieces (most : Nat) (pieces : List Piece) : Reading Progress :=
  pieces.foldlM (Progress.take most) {}

/-! ### Commands -/

/-- The schema with a name. -/
def schemaKind? : String → Option SchemaKind
  | "request" => some .request
  | "response" => some .response
  | _ => none

/-- The command with a name, by the arguments behind that. -/
def readCommand (name : String) (args : List String) : Reading Command :=
  match name with
  | "solve" => do
    let p ← readPieces 0 (pieces (input :: planning) false args)
    match p.input? with
    | some path => return .solve path p.options
    | none => throw (.refuse (.missingOption input.long))
  | "demo" => do
    let p ← readPieces 0 (pieces planning false args)
    return .demo p.options
  | "schema" => do
    let p ← readPieces 1 (pieces [help] false args)
    match p.words with
    | [] => return .schema .request
    | word :: _ => return .schema (← demand "kind" word (schemaKind? word))
  | "help" =>
    if args.all (["solve", "demo", "schema", "help"].contains ·) then throw .help
    else throw (.refuse (.unexpectedWord name))
  | _ => throw (.refuse (.unexpectedWord name))

/-- What all arguments say. -/
def readAll (args : List String) : Reading Command := do
  let (front, rest) := leading general args
  let _ ← readPieces 0 front
  match rest with
  | [] => return .nothing
  | "--" :: [] => return .nothing
  | "--" :: word :: _ => throw (.refuse (.unexpectedWord word))
  | name :: rest => readCommand name rest

/-- The instruction of arguments. -/
def read (args : List String) : Instruction :=
  match readAll args with
  | .ok command => .run command
  | .error instruction => instruction

end DeliveryRouting.CommandLine
