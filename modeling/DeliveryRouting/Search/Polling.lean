/-! # Search: polling

A long computation asks from time to time whether it has been cancelled and how much time has
passed, and goes on with the answer. `Polling` holds such a computation as a tree of its questions,
so that what it answers under a fixed course of events, and whether it can be told apart from
another one, are facts about a value. `run` answers the questions one after the other. -/

namespace DeliveryRouting

/-- What a computation is told when it asks. -/
structure Poll where
  cancelled : Bool
  /-- nanoseconds since the start -/
  elapsed : Int
  deriving Repr, DecidableEq, Inhabited

/-- A computation that asks how things stand before it goes on. -/
inductive Polling (α : Type) where
  | done (result : α)
  | ask (next : Poll → Polling α)

namespace Polling

variable {α β : Type}

instance [Inhabited α] : Inhabited (Polling α) := ⟨.done default⟩

/-- Go on with the result of a computation. -/
def bind : Polling α → (α → Polling β) → Polling β
  | done a, k => k a
  | ask next, k => ask fun poll => (next poll).bind k

instance : Monad Polling where
  pure := done
  bind := bind

/-- The result when the `k`-th question and those after it get the answers of `signal`, with the
number of the question that would come next. -/
def run (signal : Nat → Poll) : Polling α → Nat → α × Nat
  | done a, k => (a, k)
  | ask next, k => (next (signal k)).run signal (k + 1)

/-- The result when `signal` answers all questions. -/
def answer (signal : Nat → Poll) (p : Polling α) : α := (p.run signal 0).1

/-- The number of questions asked when `signal` answers them. -/
def polls (signal : Nat → Poll) (p : Polling α) : Nat := (p.run signal 0).2

/-- The property holds of the result, whatever the answers. -/
def Always (property : α → Prop) : Polling α → Prop
  | done a => property a
  | ask next => ∀ poll, (next poll).Always property

@[simp] theorem bind_done (a : α) (k : α → Polling β) : (done a).bind k = k a := rfl

@[simp] theorem bind_ask (next : Poll → Polling α) (k : α → Polling β) :
    (ask next).bind k = ask fun poll => (next poll).bind k := rfl

@[simp] theorem run_done (signal : Nat → Poll) (a : α) (k : Nat) :
    (done a).run signal k = (a, k) := rfl

@[simp] theorem run_ask (signal : Nat → Poll) (next : Poll → Polling α) (k : Nat) :
    (ask next).run signal k = (next (signal k)).run signal (k + 1) := rfl

theorem run_bind (signal : Nat → Poll) (f : α → Polling β) :
    ∀ (p : Polling α) (k : Nat),
      (p.bind f).run signal k = (f (p.run signal k).1).run signal (p.run signal k).2
  | done _, _ => rfl
  | ask next, k => run_bind signal f (next (signal k)) (k + 1)

/-- What always holds of a computation and what it goes on with holds of the whole. -/
theorem Always.bind {P : α → Prop} {Q : β → Prop} {f : α → Polling β} :
    ∀ {p : Polling α}, p.Always P → (∀ a, P a → (f a).Always Q) → (p.bind f).Always Q
  | done a, hp, hf => hf a hp
  | ask _, hp, hf => fun poll => Always.bind (hp poll) hf

theorem Always.run {P : α → Prop} (signal : Nat → Poll) :
    ∀ {p : Polling α} (k : Nat), p.Always P → P (p.run signal k).1
  | done _, _, h => h
  | ask _, k, h => Always.run signal (k + 1) (h (signal k))

theorem Always.answer {P : α → Prop} {p : Polling α} (h : p.Always P) (signal : Nat → Poll) :
    P (p.answer signal) := h.run signal 0

end Polling

/-- The answers of an outside that never cancels and whose clock stands still. -/
def undisturbed (_ : Nat) : Poll := ⟨false, 0⟩

/-- The answers of an outside that cancels from question `k` on and whose clock stands still. -/
def cancelledFrom (k i : Nat) : Poll := ⟨decide (k ≤ i), 0⟩

end DeliveryRouting
