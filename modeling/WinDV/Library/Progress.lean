import WinDV.Library.Transition

/-! How many steps of one kind a machine can still take. A measure that falls at every
such step, and that no other step raises, bounds their number over a whole run. -/
namespace Transition

universe u v

variable {State : Type u} {Action : Type v} {step : State → Action → Option State}

/-- The steps of one kind in a log. -/
def countOf (own : Action → Bool) (log : List (State × Action)) : Nat :=
  log.countP fun entry => own entry.2

theorem countOf_concat (own : Action → Bool) (log : List (State × Action)) (entry : State × Action) :
    countOf own (log ++ [entry]) = countOf own log + if own entry.2 then 1 else 0 := by
  rw [countOf, countOf, List.countP_append, List.countP_singleton]

/-- The measure has room for the steps that were taken. -/
theorem Runs.countOf_le {start finish : State} {log : List (State × Action)}
    (run : Runs step start log finish) (own : Action → Bool) (rank : State → Nat) (inv : State → Prop)
    (hStart : inv start) (hKeep : ∀ s a t, inv s → step s a = some t → inv t)
    (hOwn : ∀ s a t, inv s → step s a = some t → own a = true → rank t < rank s)
    (hOther : ∀ s a t, inv s → step s a = some t → own a = false → rank t ≤ rank s) :
    countOf own log + rank finish ≤ rank start := by
  induction run with
  | zero => simp [countOf]
  | @succ log middle finish action prior last ih =>
      have hMiddle : inv middle := prior.invariant inv hStart hKeep
      rw [countOf_concat]
      cases hAction : own action with
      | true =>
          have hFall := hOwn _ _ _ hMiddle last hAction
          simp only [if_true]
          omega
      | false =>
          have hRest := hOther _ _ _ hMiddle last hAction
          simp only [Bool.false_eq_true, if_false]
          omega

/-- A measure that falls at each step of a kind bounds the runs of that kind alone. -/
theorem Runs.length_le {start finish : State} {log : List (State × Action)}
    (run : Runs step start log finish) (meets : State × Action → Prop) (rank : State → Nat) (inv : State → Prop)
    (hStart : inv start) (hKeep : ∀ s a t, inv s → meets (s, a) → step s a = some t → inv t)
    (hFalls : ∀ s a t, inv s → meets (s, a) → step s a = some t → rank t < rank s)
    (hMeets : ∀ entry ∈ log, meets entry) : log.length + rank finish ≤ rank start := by
  induction run with
  | zero => simp
  | @succ log middle finish action prior last ih =>
      have hPrior : ∀ entry ∈ log, meets entry := fun entry hEntry =>
        hMeets entry (List.mem_append_left _ hEntry)
      have hMiddle : inv middle := prior.invariant_of meets inv hStart hKeep hPrior
      have hFall := hFalls _ _ _ hMiddle (hMeets _ (by simp)) last
      have hLength := ih hPrior
      rw [List.length_append, List.length_singleton]
      omega

/-- The measures of all parties together. -/
def total {Party : Type u} (measure : Party → Nat) : List Party → Nat
  | [] => 0
  | party :: rest => measure party + total measure rest

theorem total_le {Party : Type u} {before after : Party → Nat} (hEach : ∀ party, after party ≤ before party)
    (parties : List Party) : total after parties ≤ total before parties := by
  induction parties with
  | nil => exact Nat.le_refl _
  | cons party rest ih => exact Nat.add_le_add (hEach party) ih

/-- Of many parties one moves: what its measure loses, their total loses. -/
theorem total_move {Party : Type u} {parties : List Party} {before after : Party → Nat} {mover : Party}
    (hMover : mover ∈ parties) (hOthers : ∀ party, party ≠ mover → after party = before party)
    (hFalls : after mover ≤ before mover) :
    total after parties + before mover ≤ total before parties + after mover := by
  have hEach : ∀ party, after party ≤ before party := by
    intro party
    by_cases hSame : party = mover
    · rw [hSame]
      exact hFalls
    · exact Nat.le_of_eq (hOthers party hSame)
  induction parties with
  | nil => cases hMover
  | cons party rest ih =>
      show after party + total after rest + before mover ≤ before party + total before rest + after mover
      rcases List.mem_cons.mp hMover with rfl | hIn
      · have hRest := total_le hEach rest
        omega
      · have hRest := ih hIn
        have hParty := hEach party
        omega

end Transition
