import DeliveryRouting.CommandLine.Answer
import DeliveryRouting.CommandLine.Settings
import DeliveryRouting.Dispatch.Demo
import DeliveryRouting.Jobs.FreshId
import Std.Time.DateTime.Timestamp

/-! # Command line: the program

Reads arguments, files and clocks, and writes what `CommandLine` answers. No routing server is
asked: the durations are estimated. -/

namespace DeliveryRouting.CommandLine

/-- The present. -/
def now : IO Timestamp := return ⟨(← Std.Time.Timestamp.now).toNanosecondsSinceUnixEpoch.val⟩

/-- A clock that is read some times before it starts. -/
structure Stopwatch where
  readings : IO.Ref Nat
  start : IO.Ref Nat
  idle : Nat

namespace Stopwatch

/-- A clock that starts after so many readings. -/
def new (idle : Nat) : IO Stopwatch := return ⟨← IO.mkRef 0, ← IO.mkRef 0, idle⟩

/-- Nanoseconds since the clock has started. -/
def elapsed (w : Stopwatch) : IO Int := do
  let readings ← w.readings.get
  w.readings.set (readings + 1)
  if readings < w.idle then return 0
  let present ← IO.monoNanosNow
  if readings = w.idle then w.start.set present
  return (present : Int) - (← w.start.get)

end Stopwatch

/-- The result of a computation whose questions the clock answers. -/
partial def clocked (w : Stopwatch) : Polling PlanResult → IO PlanResult
  | .done result => return result
  | .ask next => do clocked w (next ⟨false, ← w.elapsed⟩)

/-- The service when no worker is left. -/
partial def settled (planner : Planner) (w : Stopwatch) (s : Service) : IO Service := do
  if s.workers.isEmpty then return s
  settled planner w (s.advance planner 0 (← now) (← w.elapsed))

/-- The answer to a request. The clock starts with the first question of planning. -/
def answer (o : Options) (server : String) (r : Request) : IO Answer := do
  let planner := o.planner server none
  if o.background then
    let fresh := FreshId.ofBytes (← IO.getRandomBytes FreshId.size.toUSize).toList
    let (s, accepted) := Service.idle.submit fresh r (← now)
    let s ← settled planner (← Stopwatch.new 1) s
    return .ofJob s.table accepted.id
  else return .ofResult (← clocked (← Stopwatch.new 0) (solveAtOnce planner r))

/-- The wording of what went wrong with a file. -/
def fileComplaint : IO.Error → String
  | .noFileOrDirectory .. => "No such file or directory (os error 2)"
  | .permissionDenied .. => "Permission denied (os error 13)"
  | .inappropriateType .. => "Is a directory (os error 21)"
  | e => e.toString

/-- The text of a file, or what went wrong with it. -/
def fileText (path : String) : IO (Except String String) := do
  try return .ok (← IO.FS.readFile path)
  catch e => return .error (fileComplaint e)

/-- Write an answer to standard output or a file, complain, and give the exit code. -/
def deliver (output : Option String) (a : Answer) : IO UInt32 := do
  let mut complaint := a.complaint?
  if let some v := a.output? then
    match output with
    | none => IO.print (Answer.printed v)
    | some path =>
      try IO.FS.writeFile path v.pretty
      catch e => complaint := some (fileComplaint e)
  if let some text := complaint then IO.eprintln ("Error: " ++ text)
  return if complaint.isSome then 1 else 0

/-- Do what a command says. -/
def run (server : String) : Command → IO UInt32
  | .nothing => return 0
  | .schema kind => deliver none (.ofSchema kind)
  | .demo o => do deliver o.output (← answer o server Demo.request)
  | .solve path o => do
    match ← fileText path with
    | .error complaint => deliver none (.complaint complaint)
    | .ok text => match Request.codec.read text with
      | .error fault => deliver none (.complaint fault.message)
      | .ok r => deliver o.output (← answer o server r)

end DeliveryRouting.CommandLine

open DeliveryRouting.CommandLine in
/-- The program. -/
def main (args : List String) : IO UInt32 := do
  match read args with
  | .help => IO.print helpText; return 0
  | .version => IO.print versionLine; return 0
  | .refuse refusal => IO.eprintln ("error: " ++ refusal.message); return refusalCode.toUInt32
  | .run command =>
    let settings := (← fileText Settings.fileName).toOption
    run (Settings.server (← IO.getEnv Settings.serverVariable) settings) command
