import HuntersGuild.ExceptionRules

/-!
Two parties that send each other messages in turn, in any order. What the parties hold
is one state, and a message arrives before the next one is sent.
-/

namespace HuntersGuild.Conversations

open HuntersGuild.ExceptionRules

inductive Event (μ : Type) where
  | up (message : μ)
  | down (message : μ)
  deriving DecidableEq

def Event.message {μ : Type} : Event μ → μ
  | .up message | .down message => message

variable {ε σ μ : Type} {up down : σ → μ → Except ε (μ × σ)}

def transmit (up down : σ → μ → Except ε (μ × σ)) (s : σ) : Event μ → Except ε (Event μ × σ)
  | .up message => do
      let (message, s) ← up s message
      return (.up message, s)
  | .down message => do
      let (message, s) ← down s message
      return (.down message, s)

/-- The events as they are received. -/
def converse (up down : σ → μ → Except ε (μ × σ)) : σ → List (Event μ) → Except ε (List (Event μ) × σ)
  | s, [] => return ([], s)
  | s, event :: events => do
      let (event, s) ← transmit up down s event
      let (events, s) ← converse up down s events
      return (event :: events, s)

/-- What keeps the parties in step delivers every message as it was sent. -/
theorem converse_delivers (InStep : σ → Prop) (Sendable : μ → Prop)
    (hup : ∀ s m, InStep s → Sendable m → ∃ s', up s m = .ok (m, s') ∧ InStep s')
    (hdown : ∀ s m, InStep s → Sendable m → ∃ s', down s m = .ok (m, s') ∧ InStep s')
    {s : σ} (hs : InStep s) {events : List (Event μ)} (hevents : ∀ event ∈ events, Sendable event.message) :
    ∃ s', converse up down s events = .ok (events, s') ∧ InStep s' := by
  induction events generalizing s with
  | nil => exact ⟨s, rfl, hs⟩
  | cons event events ih =>
      obtain ⟨hevent, hrest⟩ := List.forall_mem_cons.mp hevents
      have hstep : ∃ s', transmit up down s event = .ok (event, s') ∧ InStep s' := by
        cases event with
        | up m =>
            obtain ⟨s', hok, hs'⟩ := hup s m hs hevent
            exact ⟨s', by rw [transmit, hok]; rfl, hs'⟩
        | down m =>
            obtain ⟨s', hok, hs'⟩ := hdown s m hs hevent
            exact ⟨s', by rw [transmit, hok]; rfl, hs'⟩
      obtain ⟨s', hok, hs'⟩ := hstep
      obtain ⟨s'', hconverse, hs''⟩ := ih hs' hrest
      refine ⟨s'', ?_, hs''⟩
      rw [converse, hok, ok_bind]
      dsimp only
      rw [hconverse]
      rfl

theorem converse_cons_of_ok {s s' : σ} {event event' : Event μ} {events events' : List (Event μ)}
    (h : transmit up down s event = .ok (event', s')) {s'' : σ}
    (hrest : converse up down s' events = .ok (events', s'')) :
    converse up down s (event :: events) = .ok (event' :: events', s'') := by
  rw [converse, h, ok_bind]
  dsimp only
  rw [hrest]
  rfl

theorem converse_cons_of_error {s : σ} {event : Event μ} {e : ε} (h : transmit up down s event = .error e)
    (events : List (Event μ)) : converse up down s (event :: events) = .error e := by
  rw [converse, h]
  rfl

end HuntersGuild.Conversations
