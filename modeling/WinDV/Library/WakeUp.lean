import WinDV.Library.Transition

/-! Threads that wait on conditions and threads that announce them. A thread
parks only while its condition does not hold; whoever makes a condition hold
owes an announcement, and pays it later, in a step of its own. Parked threads
may also wake up unannounced. -/
namespace WakeUp

universe u v w

variable {Thread : Type u} {Cond : Type v}

/-- Who is parked on which condition, who still owes which announcement, and
which conditions hold. -/
structure Board (Thread : Type u) (Cond : Type v) where
  parked : Thread → Cond → Prop
  owes : Thread → Cond → Prop
  ready : Cond → Prop

/-- What one step of a thread may do. Every move may also wake threads up. -/
inductive Move (before after : Board Thread Cond) : Prop where
  | quiet (parked : ∀ t c, after.parked t c → before.parked t c)
      (owes : ∀ t c, before.owes t c → after.owes t c) (ready : ∀ c, after.ready c → before.ready c)
  | park (thread : Thread) (cond : Cond) (notReady : ¬ before.ready cond)
      (parked : ∀ t c, after.parked t c → before.parked t c ∨ t = thread ∧ c = cond)
      (owes : ∀ t c, before.owes t c → after.owes t c) (ready : ∀ c, after.ready c → before.ready c)
  | change (thread : Thread) (awake : ∀ c, ¬ after.parked thread c)
      (parked : ∀ t c, after.parked t c → before.parked t c)
      (owes : ∀ t c, before.owes t c → after.owes t c)
      (announces : ∀ c, after.ready c → before.ready c ∨ after.owes thread c)
  | notify (thread : Thread) (cond : Cond) (wakes : ∀ t, ¬ after.parked t cond)
      (parked : ∀ t c, after.parked t c → before.parked t c)
      (owes : ∀ t c, before.owes t c → after.owes t c ∨ t = thread ∧ c = cond)
      (ready : ∀ c, after.ready c → before.ready c)

/-- No wake-up is lost: whoever is parked on a condition that holds will be
told, by another thread. -/
def Settled (board : Board Thread Cond) : Prop :=
  ∀ t c, board.parked t c → board.ready c → ∃ other, other ≠ t ∧ board.owes other c

theorem Move.settled {before after : Board Thread Cond} (h : Move before after)
    (settled : Settled before) : Settled after := by
  intro t c hParked hReady
  cases h with
  | quiet parked owes ready =>
      obtain ⟨other, hOther, hOwes⟩ := settled t c (parked t c hParked) (ready c hReady)
      exact ⟨other, hOther, owes other c hOwes⟩
  | park thread cond notReady parked owes ready =>
      rcases parked t c hParked with hOld | ⟨-, rfl⟩
      · obtain ⟨other, hOther, hOwes⟩ := settled t c hOld (ready c hReady)
        exact ⟨other, hOther, owes other c hOwes⟩
      · exact absurd (ready c hReady) notReady
  | change thread awake parked owes announces =>
      rcases announces c hReady with hOld | hNew
      · obtain ⟨other, hOther, hOwes⟩ := settled t c (parked t c hParked) hOld
        exact ⟨other, hOther, owes other c hOwes⟩
      · refine ⟨thread, ?_, hNew⟩
        rintro rfl
        exact awake c hParked
  | notify thread cond wakes parked owes ready =>
      obtain ⟨other, hOther, hOwes⟩ := settled t c (parked t c hParked) (ready c hReady)
      rcases owes other c hOwes with hStill | ⟨-, rfl⟩
      · exact ⟨other, hOther, hStill⟩
      · exact absurd hParked (wakes t)

/-- A condition that holds and that nobody is parked on. -/
def Quiet (board : Board Thread Cond) (cond : Cond) : Prop :=
  board.ready cond ∧ ∀ t, ¬ board.parked t cond

/-- As long as a condition holds, nobody parks on it again. -/
theorem Move.stays_quiet {before after : Board Thread Cond} {cond : Cond} (h : Move before after)
    (hReady : after.ready cond) (quiet : Quiet before cond) : Quiet after cond := by
  refine ⟨hReady, fun t hParked => ?_⟩
  cases h with
  | quiet parked => exact quiet.2 t (parked t cond hParked)
  | park thread other notReady parked =>
      rcases parked t cond hParked with hOld | ⟨-, rfl⟩
      · exact quiet.2 t hOld
      · exact notReady quiet.1
  | change thread awake parked => exact quiet.2 t (parked t cond hParked)
  | notify thread other wakes parked => exact quiet.2 t (parked t cond hParked)

/-- The rule for a machine whose steps are moves on its board. -/
theorem settled_of_run {State : Type v} {Action : Type w} {step : State → Action → Option State}
    (board : State → Board Thread Cond) {start finish : State} {log : List (State × Action)}
    (run : Transition.Runs step start log finish) (hStart : Settled (board start))
    (hStep : ∀ s a t, step s a = some t → Move (board s) (board t)) : Settled (board finish) :=
  run.invariant (fun s => Settled (board s)) hStart fun s a t hs h => (hStep s a t h).settled hs

end WakeUp
