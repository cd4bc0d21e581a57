import DeliveryRouting.CommandLine.Command
import DeliveryRouting.Jobs.Service

/-! # Command line: answers

What the program answers with: something to write, something to complain of after that, or both.
Files and clocks are left to the outside. -/

namespace DeliveryRouting.CommandLine

/-- What the program answers with. -/
structure Answer where
  output? : Option Json.Value := none
  complaint? : Option String := none
  deriving Inhabited

namespace Options

/-- The parameters of the search. -/
def params (o : Options) : Params :=
  { Params.standard with trips := max o.trips 1, threads := max o.threads 1 }.withTimeLimit
    o.timeLimit

/-- Where the travel durations come from, by the address of the routing server. -/
def provider (o : Options) (server : String) : Provider :=
  if o.crowFlies then .greatCircle Provider.fallbackSpeed else .osrm server

/-- How requests are planned when the routing server, if it is asked, sends `body` or nothing at
all. -/
def planner (o : Options) (server : String) (body : Option String) : Planner :=
  plan ((o.provider server).source body) o.params ampleSteps

end Options

namespace Answer

/-- A complaint and nothing else. -/
def complaint (text : String) : Answer := { complaint? := text }

/-- The answer for the result of planning. -/
def ofResult : PlanResult → Answer
  | .ok response => { output? := response.toValue }
  | .error fault => complaint fault.message

/-- The complaint about a job that failed. -/
def failure (id : String) (e : JobEntry) : Option String :=
  if e.status = .failed then some ("job " ++ id ++ " failed: " ++ e.error.getD "unknown error")
  else none

/-- The answer for a job that has come to its end. -/
def ofJob (table : JobTable) (id : String) : Answer :=
  match table.find id with
  | .ok e => { output? := e.report id, complaint? := failure id e }
  | .error fault => complaint fault.message

/-- The schema of a kind. -/
def ofSchema : SchemaKind → Answer
  | .request => { output? := Request.record.schema }
  | .response => { output? := Response.record.schema }

/-- The text to write to standard output. -/
def printed (v : Json.Value) : String := v.pretty ++ "\n"

/-- What the program returns to the one who called it. -/
def exitCode (a : Answer) : Nat := if a.complaint?.isSome then 1 else 0

end Answer

/-- What the program returns when its arguments are refused. -/
def refusalCode : Nat := 2

/-- The name of the program and its version. -/
def versionLine : String := "dispatch_cli 0.1.0\n"

/-- A reminder of the commands. -/
def helpText : String :=
  "Usage: dispatch [-d] [COMMAND]\n\n" ++
  "Commands:\n" ++
  "  solve   Plans the trips of a JSON solve request\n" ++
  "  demo    Plans the built-in twelve order demo\n" ++
  "  schema  Prints the JSON schema of the request or the response\n\n" ++
  "Options of solve and demo:\n" ++
  "  -i, --input FILE       JSON solve request, for solve only\n" ++
  "  -t, --time-limit SPAN  Search budget, 5s unless given\n" ++
  "      --trips N          Trips each driver may run\n" ++
  "      --threads N        Threads evaluating insertions\n" ++
  "      --crow-flies       Estimate durations from great-circle distances\n" ++
  "      --async            Run as a background job and report the job result\n" ++
  "  -o, --output FILE      Where to write the JSON answer\n"

end DeliveryRouting.CommandLine
