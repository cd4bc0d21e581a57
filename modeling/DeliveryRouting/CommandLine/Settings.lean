/-! # Command line: settings

The address of the routing server is a variable of the environment. A file of settings may define
it too, a line `NAME=value` for each variable, with blank lines and comments behind `#` between
them. The environment wins over the file, and of two lines the first one wins. -/

namespace DeliveryRouting.CommandLine.Settings

/-- The variable that holds the address of the routing server. -/
def serverVariable : String := "DISPATCH_OSRM_URL"

/-- The address unless there is another one. -/
def defaultServer : String := "http://osrm:5000"

/-- The file of settings. -/
def fileName : String := ".env.local"

/-- The text without blanks around it. -/
def trimmed (cs : List Char) : List Char :=
  ((cs.dropWhile Char.isWhitespace).reverse.dropWhile Char.isWhitespace).reverse

/-- The value behind an equals sign, without its quotes or the comment behind it. -/
def value (cs : List Char) : List Char :=
  match trimmed cs with
  | '"' :: rest => rest.takeWhile (· != '"')
  | '\x27' :: rest => rest.takeWhile (· != '\x27')
  | plain => trimmed (plain.takeWhile (· != '#'))

/-- The name without the word that exports it. -/
def name (cs : List Char) : List Char :=
  let cs := trimmed cs
  if cs.take 7 = "export ".toList then trimmed (cs.drop 7) else cs

/-- The variable and the value of a line, if it sets one. -/
def line? (cs : List Char) : Option (String × String) :=
  match (trimmed cs).head?, cs.span (· != '=') with
  | none, _ => none
  | some '#', _ => none
  | _, (_, []) => none
  | _, (left, _ :: right) => some (String.ofList (name left), String.ofList (value right))

/-- The address of the routing server, by the environment and the text of the file. -/
def server (environment file : Option String) : String :=
  let lines := (file.map fun text => text.toList.splitOn '\n').getD []
  environment.getD (((lines.filterMap line?).lookup serverVariable).getD defaultServer)

end DeliveryRouting.CommandLine.Settings
