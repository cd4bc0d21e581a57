import DeliveryRouting.Dispatch.Assembly
import DeliveryRouting.Dispatch.Draft
import DeliveryRouting.Search.Solve
import DeliveryRouting.Travel.Provider

/-! # Dispatch: planning

A request is planned by drafting its problem, looking up the travel durations, solving, and telling
the outcome in the words of the request. A request without deliveries has the empty response,
whatever else it says. -/

namespace DeliveryRouting

/-- A lookup that broke down, perhaps with a word on why. -/
structure Breakdown where
  word? : Option String
  deriving Repr, DecidableEq

/-- Where travel durations come from. -/
abbrev Source := List Point → Except Breakdown TravelTable

/-- The durations of a provider, where a routing server, if it is asked, sends `body` or nothing at
all. -/
def Provider.source (provider : Provider) (body : Option String) : Source :=
  fun points => .ok (provider.lookup body points)

/-- Why a request is not planned. -/
inductive PlanFault where
  | request (fault : RequestFault)
  | model (fault : ModelFault)
  /-- the lookup broke down -/
  | breakdown (fault : Breakdown)
  /-- the outcome does not fit the request -/
  | assembly (fault : AssemblyFault)
  | outOfSteps
  deriving Repr, DecidableEq

namespace AssemblyFault

/-- The wording of a fault. -/
def message : AssemblyFault → String
  | time fault => fault.message
  | unknownDriver index => s!"no driver has index {index}"
  | unknownNode node => s!"no delivery has node {node}"

end AssemblyFault

namespace PlanFault

/-- The wording of a fault. -/
def message : PlanFault → String
  | request fault => fault.message
  | model fault => "invalid configuration: " ++ fault.message
  | breakdown fault => "solver panicked: " ++ fault.word?.getD "unknown panic"
  | assembly (.time fault) => fault.message
  | assembly fault => "solver panicked: " ++ fault.message
  | outOfSteps => "solver panicked: out of steps"

end PlanFault

/-- The response to a request that the result of solving its problem stands for. -/
def Request.respond (r : Request) (params : Params) :
    Except SolveFault Outcome → Except PlanFault Response
  | .ok outcome => (Response.assemble r params.trips outcome).mapError .assembly
  | .error (.model fault) => .error (.model fault)
  | .error .outOfSteps => .error .outOfSteps

/-- Plan a request, with at most `steps` iterations and as many moves in each. -/
def plan (source : Source) (params : Params) (steps : Nat) (r : Request) :
    Polling (Except PlanFault Response) :=
  if r.deliveries.isEmpty then .done (.ok Response.empty)
  else match r.draft with
    | .error fault => .done (.error (.request fault))
    | .ok draft => match source draft.points with
      | .error fault => .done (.error (.breakdown fault))
      | .ok table =>
        (solve params steps (draft.withDurations table)).bind fun result =>
          .done (r.respond params result)

end DeliveryRouting
