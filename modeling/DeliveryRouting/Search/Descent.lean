import DeliveryRouting.Search.Neighbourhood
import DeliveryRouting.Search.Polling
import DeliveryRouting.Search.Random

/-! # Search: the descent

A descent makes improving moves until there is none or it is stopped. For each move it looks at the
neighbourhoods in a random order, and in the first that holds an improving move it takes the best
one, the first of equals. That it has run to its end is known apart from that it was stopped and
from that its allotted number of steps was too small. -/

namespace DeliveryRouting

/-- A move has to improve the augmented cost by more than this. -/
def improvementThreshold : Float := -1e-6

/-- The order of the neighbourhoods at the last look, and where the next order comes from. -/
structure Neighbourhoods where
  order : Array Operator
  random : Random
  deriving Repr, DecidableEq, Inhabited

namespace Neighbourhoods

/-- All neighbourhoods, in the order before the first look. -/
def initialOrder : Array Operator :=
  #[.insertDropped, .exchangeDropped, .relocate, .swap, .orOpt, .twoOpt]

/-- The neighbourhoods before the first look. -/
def start (seed : UInt64) : Neighbourhoods := ⟨initialOrder, Random.ofSeed seed⟩

/-- A new order. -/
def reorder (n : Neighbourhoods) : Neighbourhoods :=
  let shuffled := Random.shuffle n.order n.random
  ⟨shuffled.1, shuffled.2⟩

end Neighbourhoods

/-- The better of the best move so far and the next one. -/
def betterMove (m : Model) (g : Guidance) (s : Solution) (best : Option EvaluatedMove)
    (move : Move) : Option EvaluatedMove :=
  let threshold := match best with
    | some b => b.delta
    | none => improvementThreshold
  match move.evaluate m g s threshold with
  | some e => some e
  | none => best

/-- The best improving move of a kind. -/
def bestMove (m : Model) (g : Guidance) (s : Solution) (operator : Operator) :
    Option EvaluatedMove :=
  (operator.moves m s).foldl (betterMove m g s) none

/-- The best improving move of the first neighbourhood that holds one. -/
def improvingMove (m : Model) (g : Guidance) (s : Solution) (n : Neighbourhoods) :
    Option EvaluatedMove :=
  n.order.toList.findSome? (bestMove m g s)

/-- How a descent ended. -/
inductive DescentEnd where
  | stopped
  | localOptimum
  | outOfSteps
  deriving Repr, DecidableEq, Inhabited

/-- The solution a descent has reached. -/
structure Descent where
  solution : Solution
  neighbourhoods : Neighbourhoods
  /-- number of moves made -/
  moves : Nat
  deriving Repr, DecidableEq, Inhabited

/-- Make improving moves until there is none or `stops` says so, asking before each. -/
def descend (m : Model) (g : Guidance) (stops : Poll → Bool) :
    (steps : Nat) → Descent → Polling (DescentEnd × Descent)
  | 0, d => .done (.outOfSteps, d)
  | steps + 1, d => .ask fun poll =>
    if stops poll then .done (.stopped, d)
    else
      let n := d.neighbourhoods.reorder
      (improvingMove m g d.solution n).elim
        (.done (.localOptimum, { d with neighbourhoods := n }))
        fun e => descend m g stops steps ⟨e.apply m d.solution, n, d.moves + 1⟩

end DeliveryRouting
