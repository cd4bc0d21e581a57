/-! # Command line: arguments

Arguments are options and words. An option has a long name behind two dashes, `--output`, and
perhaps a letter behind one, `-o`; letters of options without values may stand together. The value
of an option follows its name after an equals sign, a letter directly, or as the next argument.
Behind the argument `--` there are only words.

`pieces` takes arguments apart from left to right. Where it meets something it cannot accept it
leaves a complaint in the place of that. -/

namespace DeliveryRouting.CommandLine

/-- What an option is called, and whether it has a value. -/
structure OptionName where
  long : String
  letter? : Option Char := none
  hasValue : Bool := false
  deriving Repr, DecidableEq, Inhabited

/-- Why arguments are refused. -/
inductive Refusal where
  | unknownOption (name : String)
  | missingValue (name : String)
  | needlessValue (name : String)
  | badValue (name value : String)
  | repeated (name : String)
  | unexpectedWord (word : String)
  | missingOption (name : String)
  deriving Repr, DecidableEq

/-- The wording of a refusal. -/
def Refusal.message : Refusal → String
  | unknownOption name => s!"unexpected argument {name}"
  | missingValue name => s!"a value is required for --{name}"
  | needlessValue name => s!"no value is expected for --{name}"
  | badValue name value => s!"invalid value {value} for {name}"
  | repeated name => s!"--{name} cannot be used multiple times"
  | unexpectedWord word => s!"unexpected argument {word}"
  | missingOption name => s!"--{name} is required"

/-- A piece of the arguments. -/
inductive Piece where
  | option (name : String) (value : Option String)
  | word (word : String)
  | refused (refusal : Refusal)
  deriving Repr, DecidableEq

/-- What an argument is by itself. -/
inductive Shape where
  | word
  /-- behind it there are only words -/
  | separator
  /-- these pieces -/
  | complete (pieces : List Piece)
  /-- these pieces, and an option whose value is the next argument -/
  | awaiting (pieces : List Piece) (name : String)

/-- An argument that starts like an option. -/
def looksLikeOption (arg : String) : Bool :=
  match arg.toList with
  | '-' :: _ :: _ => true
  | _ => false

/-- The text before the first equals sign and the one behind it. -/
def splitAtEquals (cs : List Char) : String × Option String :=
  match cs.span (· != '=') with
  | (name, _ :: value) => (String.ofList name, some (String.ofList value))
  | (name, []) => (String.ofList name, none)

variable (known : List OptionName)

/-- An argument that starts with two dashes, by what follows them. -/
def longShape (cs : List Char) : Shape :=
  let (name, value) := splitAtEquals cs
  match known.find? (·.long == name), value with
  | none, _ => .complete [.refused (.unknownOption ("--" ++ name))]
  | some o, some value =>
    .complete [if o.hasValue then .option name (some value) else .refused (.needlessValue name)]
  | some o, none => if o.hasValue then .awaiting [] name else .complete [.option name none]

/-- An argument that starts with one dash, by what follows it. -/
def lettersShape : List Char → Shape
  | [] => .complete []
  | c :: rest =>
    match known.find? (·.letter? == some c) with
    | none => .complete [.refused (.unknownOption ("-" ++ String.ofList [c]))]
    | some o =>
      if o.hasValue then
        match rest with
        | [] => .awaiting [] o.long
        | '=' :: value => .complete [.option o.long (some (String.ofList value))]
        | value => .complete [.option o.long (some (String.ofList value))]
      else match lettersShape rest with
        | .complete pieces => .complete (.option o.long none :: pieces)
        | .awaiting pieces name => .awaiting (.option o.long none :: pieces) name
        | shape => shape

/-- What an argument is by itself. -/
def shape (arg : String) : Shape :=
  match arg.toList with
  | ['-', '-'] => .separator
  | '-' :: '-' :: name => longShape known name
  | '-' :: c :: letters => lettersShape known (c :: letters)
  | _ => .word

/-- The pieces of arguments, all of which are words behind a separator. -/
def pieces : (onlyWords : Bool) → List String → List Piece
  | _, [] => []
  | true, arg :: rest => .word arg :: pieces true rest
  | false, arg :: rest =>
    match shape known arg with
    | .word => .word arg :: pieces false rest
    | .separator => pieces true rest
    | .complete found => found ++ pieces false rest
    | .awaiting found name =>
      match rest with
      | [] => found ++ [.refused (.missingValue name)]
      | value :: rest =>
        if looksLikeOption value then found ++ [.refused (.missingValue name)]
        else found ++ .option name (some value) :: pieces false rest

/-- The options in front of the first word or separator, and the arguments from there on. -/
def leading : List String → List Piece × List String
  | [] => ([], [])
  | arg :: rest =>
    match shape known arg with
    | .word | .separator => ([], arg :: rest)
    | .complete found => let (more, rest) := leading rest; (found ++ more, rest)
    | .awaiting found name => (found ++ [.refused (.missingValue name)], rest)

end DeliveryRouting.CommandLine
