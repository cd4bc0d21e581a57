import DeliveryRouting.Search.Polling

/-! # Signals

A signal answers the questions of a computation. What the computation comes to is a matter of the
answers it gets, not of those it never asks for: two signals that agree on these lead to the same
result. Three properties of a computation say more, over all signals of a kind:

* `Under`: the result has a property, as long as all answers are of the kind;
* `Timeless`: only whether it is cancelled makes a difference, not what the clock says;
* `GivesUp`: the result has a property if from some answer on all say that it is cancelled.

Each goes through a sequence of computations and through a checkpoint, the question whether to stop
or to go on. -/

namespace DeliveryRouting

/-- The signal never cancels. -/
def Quiet (signal : Nat → Poll) : Prop := ∀ i, (signal i).cancelled = false

theorem quiet_undisturbed : Quiet undisturbed := fun _ => rfl

namespace Polling

variable {α β : Type} {P : α → Prop} {Q : β → Prop} {f : α → Polling β} {p q : Polling α}
  {signal signal' : Nat → Poll} {j k : Nat}

/-- The property holds of the result if all answers are of a kind. -/
def Under (kind : Poll → Prop) (property : α → Prop) : Polling α → Prop
  | done a => property a
  | ask next => ∀ poll, kind poll → (next poll).Under kind property

/-- What the clock says makes no difference. -/
def Timeless : Polling α → Prop
  | done _ => True
  | ask next => (∀ poll poll', poll.cancelled = poll'.cancelled → next poll = next poll') ∧
      ∀ poll, (next poll).Timeless

/-- The property holds of the result if it is cancelled in the middle and stays so. -/
def GivesUp (property : α → Prop) : Polling α → Prop
  | done _ => True
  | ask next =>
      (∀ poll, poll.cancelled = true → (next poll).Under (·.cancelled = true) property) ∧
      ∀ poll, poll.cancelled = false → (next poll).GivesUp property

theorem Always.mono {P' : α → Prop} (weaker : ∀ a, P a → P' a) :
    ∀ {p : Polling α}, p.Always P → p.Always P'
  | done a, hp => weaker a hp
  | ask _, hp => fun poll => Always.mono weaker (hp poll)

/-- What goes on from a result only has to agree on what the results always are. -/
theorem Always.bind_congr {g : α → Polling β} :
    ∀ {p : Polling α}, p.Always P → (∀ a, P a → f a = g a) → p.bind f = p.bind g
  | done a, hp, hf => hf a hp
  | ask _, hp, hf => congrArg ask (funext fun poll => Always.bind_congr (hp poll) hf)

/-! ### One kind of answers -/

theorem Under.bind {kind : Poll → Prop} :
    ∀ {p : Polling α}, p.Under kind P → (∀ a, P a → (f a).Under kind Q) → (p.bind f).Under kind Q
  | done a, hp, hf => hf a hp
  | ask _, hp, hf => fun poll hpoll => Under.bind (hp poll hpoll) hf

theorem Under.mono {kind : Poll → Prop} {P' : α → Prop} (weaker : ∀ a, P a → P' a) :
    ∀ {p : Polling α}, p.Under kind P → p.Under kind P'
  | done a, hp => weaker a hp
  | ask _, hp => fun poll hpoll => Under.mono weaker (hp poll hpoll)

theorem Under.run {kind : Poll → Prop} (hp : p.Under kind P) (hs : ∀ i, k ≤ i → kind (signal i)) :
    P (p.run signal k).1 := by
  induction p generalizing k with
  | done a => exact hp
  | ask next ih =>
    have now : (next (signal k)).Under kind P := hp _ (hs k (Nat.le_refl k))
    exact ih (signal k) now fun i hi => hs i (Nat.le_of_succ_le hi)

/-! ### The clock -/

theorem Timeless.bind :
    ∀ {p : Polling α}, p.Timeless → (∀ a, (f a).Timeless) → (p.bind f).Timeless
  | done a, _, hf => hf a
  | ask _, ⟨same, later⟩, hf =>
    ⟨fun poll poll' h => congrArg (·.bind f) (same poll poll' h), fun poll => (later poll).bind hf⟩

theorem le_run (signal : Nat → Poll) : ∀ (p : Polling α) (k : Nat), k ≤ (p.run signal k).2
  | done _, k => Nat.le_refl k
  | ask next, k => Nat.le_of_succ_le (le_run signal (next (signal k)) (k + 1))

theorem run_congr {p : Polling α}
    (agree : ∀ i, k ≤ i → i < (p.run signal k).2 → signal' i = signal i) :
    p.run signal' k = p.run signal k := by
  induction p generalizing k with
  | done a => rfl
  | ask next ih =>
    rw [run_ask] at agree ⊢
    have asked : k < ((next (signal k)).run signal (k + 1)).2 := le_run signal _ _
    rw [run_ask, agree k (Nat.le_refl k) asked]
    exact ih (signal k) fun i hi => agree i (Nat.le_of_succ_le hi)

/-- Two signals that agree on the questions asked lead to the same result after as many
questions. -/
theorem Timeless.run_congr (hp : p.Timeless)
    (agree : ∀ i, k ≤ i → i < (p.run signal k).2 → (signal' i).cancelled = (signal i).cancelled) :
    p.run signal' k = p.run signal k := by
  induction p generalizing k with
  | done a => rfl
  | ask next ih =>
    obtain ⟨same, later⟩ := hp
    rw [run_ask] at agree ⊢
    have asked : k < ((next (signal k)).run signal (k + 1)).2 := le_run signal _ _
    rw [run_ask, same _ _ (agree k (Nat.le_refl k) asked)]
    exact ih (signal k) (later _) fun i hi => agree i (Nat.le_of_succ_le hi)

theorem Timeless.answer_eq (hp : p.Timeless) (quiet : Quiet signal) (quiet' : Quiet signal') :
    p.answer signal' = p.answer signal :=
  congrArg Prod.fst (hp.run_congr fun i _ _ => (quiet' i).trans (quiet i).symm)

theorem Timeless.under_quiet (hp : p.Timeless) (quiet : Quiet signal) :
    p.Under (·.cancelled = false) (· = (p.run signal k).1) := by
  induction p generalizing k with
  | done a => rfl
  | ask next ih =>
    intro poll hpoll
    obtain ⟨same, later⟩ := hp
    rw [run_ask, same poll (signal k) (hpoll.trans (quiet k).symm)]
    exact ih (signal k) (later _)

/-! ### Cancelled in the middle -/

theorem GivesUp.bind :
    ∀ {p : Polling α}, p.GivesUp P → (∀ a, P a → (f a).Under (·.cancelled = true) Q) →
      (∀ a, (f a).GivesUp Q) → (p.bind f).GivesUp Q
  | done a, _, _, hf => hf a
  | ask _, ⟨stopped, later⟩, hstop, hf =>
    ⟨fun poll hpoll => (stopped poll hpoll).bind hstop,
      fun poll hpoll => (later poll hpoll).bind hstop hf⟩

/-- If question `k` is asked at all when nobody cancels, then a signal that cancels from there on
makes the computation give up. -/
theorem GivesUp.run (hp : p.GivesUp P) (timeless : p.Timeless) (quiet : Quiet signal)
    (late : ∀ i, (signal' i).cancelled = decide (k ≤ i)) (hj : j ≤ k)
    (asked : k < (p.run signal j).2) : P (p.run signal' j).1 := by
  induction p generalizing j with
  | done a => exact absurd asked (Nat.not_lt.mpr hj)
  | ask next ih =>
    rw [run_ask] at asked ⊢
    obtain ⟨stopped, later⟩ := hp
    rcases Nat.eq_or_lt_of_le hj with rfl | hlt
    · have now : (signal' j).cancelled = true := (late j).trans (decide_eq_true hj)
      refine (stopped _ now).run fun i hi => ?_
      rw [late, decide_eq_true_eq]
      exact Nat.le_of_succ_le hi
    · have still : (signal' j).cancelled = false := by
        rw [late, decide_eq_false_iff_not, Nat.not_le]
        exact hlt
      have same : next (signal' j) = next (signal j) :=
        timeless.1 _ _ (still.trans (quiet j).symm)
      refine ih (signal' j) (later _ still) (timeless.2 _) hlt ?_
      rwa [same]

/-! ### Checkpoints -/

section Checkpoint

variable {stops : Poll → Bool}

theorem Timeless.checkpoint
    (clockless : ∀ poll poll', poll.cancelled = poll'.cancelled → stops poll = stops poll')
    (hp : p.Timeless) (hq : q.Timeless) :
    (ask fun poll => if stops poll then p else q).Timeless := by
  refine ⟨fun poll poll' h => ?_, fun poll => ?_⟩
  · dsimp only
    rw [clockless poll poll' h]
  · dsimp only
    split
    · exact hp
    · exact hq

theorem Under.checkpoint (heeds : ∀ poll, poll.cancelled = true → stops poll = true)
    (hp : p.Under (·.cancelled = true) P) :
    (ask fun poll => if stops poll then p else q).Under (·.cancelled = true) P := by
  intro poll hpoll
  dsimp only
  rwa [if_pos (heeds poll hpoll)]

/-- The first branch is taken by a computation that is cancelled, but not by that alone. -/
theorem GivesUp.checkpoint (heeds : ∀ poll, poll.cancelled = true → stops poll = true)
    (stopped : p.Under (·.cancelled = true) P) (hp : p.GivesUp P) (hq : q.GivesUp P) :
    (ask fun poll => if stops poll then p else q).GivesUp P := by
  refine ⟨Under.checkpoint heeds stopped, fun poll _ => ?_⟩
  dsimp only
  split
  · exact hp
  · exact hq

end Checkpoint

end Polling

end DeliveryRouting
