import WinDV.Engine.OutputGraph
import WinDV.Library.Progress
import WinDV.Library.WakeUp

/-! The preview. The worker drops a frame into the sample that is on offer, if there is
one and it is still empty; a thread of the preview takes the filled sample out, hands it
on and offers the next one. Each section under `m_mutex` is one step. `GetDeliveryBuffer` and
`Deliver` are taken to come back: that they may block until the destructor's `m_MC->Stop()` is
not modelled. -/
namespace WinDV

open WakeUp Transition

/-- The next step of `MonitoringThread`. A sample that is not in `m_sample` is with the
thread itself. -/
inductive MonitoringPc where
  | testStop
  | getDeliveryBuffer
  | retry
  | pause (sample : MediaSample)
  | offer (sample : MediaSample)
  | parked
  | woken
  | deliver (sample : MediaSample)
  | returned
  deriving DecidableEq, Repr

/-- `CMonitor`: `notifying` says that `HandleFrame` has filled the sample and not yet
notified `m_filled`, `stop` and `stopping` that a stop was requested and that the
request has not yet woken the thread. The lists are what `HandleFrame` was called with,
what it has taken, and what `Deliver` was called with. -/
structure Monitor where
  sample : Option MediaSample := none
  sampleFilled : Bool := false
  pc : MonitoringPc := .testStop
  notifying : Bool := false
  stop : Bool := false
  stopping : Bool := false
  offered : List (List UInt8) := []
  taken : List (List UInt8) := []
  delivered : List MediaSample := []
  deriving DecidableEq, Repr

namespace Monitor

/-- What may be scheduled. The graph decides which sample it gives out, if any, and
whether `GetPointer` fails. -/
inductive Action where
  | handleFrame (frame : List UInt8) (pointer : Bool)
  | notifyFilled
  | requestStop
  | notifyStop
  | wake
  | step (given : Option MediaSample)
  deriving DecidableEq, Repr

/-- `HandleFrame`, up to the notification. -/
def handleFrame (m : Monitor) (frame : List UInt8) (pointer : Bool) : Monitor :=
  let m := { m with offered := m.offered ++ [frame] }
  match m.sample with
  | none => m
  | some sample =>
      if m.sampleFilled || sample.size < frame.length || !pointer then m
      else
        { m with
          sample := some { sample.fill frame with syncPoint := true }
          sampleFilled := true
          notifying := true
          taken := m.taken ++ [frame] }

/-- A parked thread goes on to take the lock again. -/
def wakeUp (m : Monitor) : Monitor := if m.pc = .parked then { m with pc := .woken } else m

/-- The end of `wait`: the sample is taken out of `m_sample` again. -/
def leave (m : Monitor) : Monitor :=
  match m.sample, m.sampleFilled with
  | some sample, true => { m with sample := none, pc := .deliver sample }
  | _, _ => { m with sample := none, pc := .returned }

/-- One look at the conditions of `wait`. -/
def look (m : Monitor) : Monitor :=
  if m.stop || m.sampleFilled then m.leave else { m with pc := .parked }

/-- `MonitoringThread`. -/
def threadStep (m : Monitor) (given : Option MediaSample) : Option Monitor :=
  match m.pc with
  | .testStop => some { m with pc := if m.stop then .returned else .getDeliveryBuffer }
  | .getDeliveryBuffer =>
      some { m with pc := given.elim .retry .pause }
  | .retry => some { m with pc := .testStop }
  | .pause sample => some { m with pc := .offer sample }
  | .offer sample => some { m with sample := some sample, sampleFilled := false }.look
  | .parked => none
  | .woken => some m.look
  | .deliver sample => some { m with delivered := m.delivered ++ [sample], pc := .testStop }
  | .returned => none

/-- The step function. One `HandleFrame` is called at a time. -/
def step (m : Monitor) : Action → Option Monitor
  | .handleFrame frame pointer => if m.notifying then none else some (m.handleFrame frame pointer)
  | .notifyFilled => if m.notifying then some { m.wakeUp with notifying := false } else none
  | .requestStop => if m.stop then none else some { m with stop := true, stopping := true }
  | .notifyStop => if m.stopping then some { m.wakeUp with stopping := false } else none
  | .wake => some m.wakeUp
  | .step given => m.threadStep given

end Monitor

namespace Monitor

/-- A frame that has been taken and not yet handed on. -/
def pending (m : Monitor) : List (List UInt8) :=
  match m.pc with
  | .deliver sample => [sample.data]
  | .parked | .woken => if m.sampleFilled then m.sample.toList.map MediaSample.data else []
  | _ => []

theorem pending_length (m : Monitor) : m.pending.length ≤ 1 := by
  rw [pending]
  have hSample : (m.sample.toList.map MediaSample.data).length ≤ 1 := by
    cases m.sample with
    | none => exact Nat.zero_le 1
    | some sample => exact le_refl 1
  split
  · exact le_refl 1
  · split_ifs
    · exact hSample
    · exact Nat.zero_le 1
  · split_ifs
    · exact hSample
    · exact Nat.zero_le 1
  · exact Nat.zero_le 1

/-- The sample is on offer exactly while the thread waits, and what was taken is what was
handed on and what is still pending. -/
structure Orderly (m : Monitor) : Prop where
  onOffer : m.sample.isSome = true ↔ m.pc = .parked ∨ m.pc = .woken
  handed : m.delivered.map MediaSample.data ++ m.pending = m.taken
  someOf : m.taken.Sublist m.offered

section Steps

variable {m next : Monitor}

theorem Orderly.wakeUp (h : m.Orderly) : m.wakeUp.Orderly := by
  rw [Monitor.wakeUp]
  split_ifs with hParked
  · refine ⟨?_, ?_, h.someOf⟩
    · have hSome := h.onOffer
      rw [hParked] at hSome
      simpa using hSome
    · have hHanded := h.handed
      rw [pending, hParked] at hHanded
      exact hHanded
  · exact h

/-- A frame is refused, or fills the empty sample. -/
theorem Orderly.handleFrame (h : m.Orderly) (frame : List UInt8) (pointer : Bool) :
    (m.handleFrame frame pointer).Orderly := by
  have hRefused : { m with offered := m.offered ++ [frame] }.Orderly :=
    ⟨h.onOffer, h.handed, h.someOf.trans (List.sublist_append_left _ _)⟩
  rw [Monitor.handleFrame]
  cases hSample : m.sample with
  | none =>
      rw [hSample] at hRefused
      exact hRefused
  | some sample =>
      rw [hSample] at hRefused
      show Orderly (if (m.sampleFilled || sample.size < frame.length || !pointer) = true then _ else _)
      split_ifs with hRefuses
      · exact hRefused
      · have hEmpty : m.sampleFilled = false := by
          cases hFilled : m.sampleFilled with
          | false => rfl
          | true => simp [hFilled] at hRefuses
        have hWaiting : m.pc = .parked ∨ m.pc = .woken := h.onOffer.mp (by rw [hSample]; rfl)
        have hHanded := h.handed
        refine ⟨by simpa using hWaiting, ?_, h.someOf.append (List.Sublist.refl [frame])⟩
        rcases hWaiting with hPc | hPc
        · simp only [pending, hPc, hEmpty, Bool.false_eq_true, if_false, List.append_nil] at hHanded
          simp [pending, hPc, ← hHanded, MediaSample.data, MediaSample.fill]
        · simp only [pending, hPc, hEmpty, Bool.false_eq_true, if_false, List.append_nil] at hHanded
          simp [pending, hPc, ← hHanded, MediaSample.data, MediaSample.fill]

/-- The thread waits on, with the sample on offer, or leaves with what is in it. -/
theorem Orderly.look (hSample : m.sample.isSome = true)
    (hHanded : m.delivered.map MediaSample.data ++
      (if m.sampleFilled then m.sample.toList.map MediaSample.data else []) = m.taken)
    (hSome : m.taken.Sublist m.offered) : m.look.Orderly := by
  obtain ⟨sample, hIs⟩ := Option.isSome_iff_exists.mp hSample
  rw [Monitor.look]
  cases hFilled : m.sampleFilled with
  | true =>
      rw [hFilled, hIs] at hHanded
      rw [Bool.or_true, if_pos rfl, leave, hIs, hFilled]
      exact ⟨by simp, hHanded, hSome⟩
  | false =>
      rw [hFilled] at hHanded
      rw [Bool.or_false]
      split_ifs with hStop
      · rw [leave, hIs, hFilled]
        exact ⟨by simp, hHanded, hSome⟩
      · exact ⟨by simpa using hSample, hHanded, hSome⟩

theorem Orderly.threadStep (h : m.Orderly) {given : Option MediaSample}
    (hStep : m.threadStep given = some next) : next.Orderly := by
  have hOffer := h.onOffer
  have hHanded := h.handed
  rw [Monitor.threadStep] at hStep
  cases hPc : m.pc with
  | parked | returned =>
      rw [hPc] at hStep
      cases hStep
  | testStop =>
      rw [hPc] at hStep hOffer
      rw [pending, hPc] at hHanded
      obtain rfl := Option.some.inj hStep
      cases hStop : m.stop with
      | true => exact ⟨by simpa using hOffer, hHanded, h.someOf⟩
      | false => exact ⟨by simpa using hOffer, hHanded, h.someOf⟩
  | getDeliveryBuffer =>
      rw [hPc] at hStep hOffer
      rw [pending, hPc] at hHanded
      obtain rfl := Option.some.inj hStep
      cases given with
      | none => exact ⟨by simpa using hOffer, hHanded, h.someOf⟩
      | some sample => exact ⟨by simpa using hOffer, hHanded, h.someOf⟩
  | retry | pause =>
      rw [hPc] at hStep hOffer
      rw [pending, hPc] at hHanded
      obtain rfl := Option.some.inj hStep
      exact ⟨by simpa using hOffer, hHanded, h.someOf⟩
  | offer sample =>
      rw [hPc] at hStep
      rw [pending, hPc] at hHanded
      obtain rfl := Option.some.inj hStep
      exact Orderly.look rfl hHanded h.someOf
  | woken =>
      rw [hPc] at hStep hOffer
      rw [pending, hPc] at hHanded
      obtain rfl := Option.some.inj hStep
      exact Orderly.look (hOffer.mpr (Or.inr rfl)) hHanded h.someOf
  | deliver sample =>
      rw [hPc] at hStep hOffer
      rw [pending, hPc] at hHanded
      obtain rfl := Option.some.inj hStep
      refine ⟨by simpa using hOffer, ?_, h.someOf⟩
      simpa [pending] using hHanded

theorem Orderly.step (h : m.Orderly) {action : Action} (hStep : m.step action = some next) :
    next.Orderly := by
  cases action with
  | handleFrame frame pointer =>
      simp only [Monitor.step] at hStep
      split_ifs at hStep
      obtain rfl := Option.some.inj hStep
      exact h.handleFrame frame pointer
  | notifyFilled =>
      simp only [Monitor.step] at hStep
      split_ifs at hStep
      obtain rfl := Option.some.inj hStep
      exact ⟨h.wakeUp.onOffer, h.wakeUp.handed, h.wakeUp.someOf⟩
  | requestStop =>
      simp only [Monitor.step] at hStep
      split_ifs at hStep
      obtain rfl := Option.some.inj hStep
      exact ⟨h.onOffer, h.handed, h.someOf⟩
  | notifyStop =>
      simp only [Monitor.step] at hStep
      split_ifs at hStep
      obtain rfl := Option.some.inj hStep
      exact ⟨h.wakeUp.onOffer, h.wakeUp.handed, h.wakeUp.someOf⟩
  | wake =>
      obtain rfl := Option.some.inj hStep
      exact h.wakeUp
  | step given => exact h.threadStep hStep

end Steps

theorem orderly_of_reachable {m : Monitor} (h : Reachable step {} m) : m.Orderly := by
  apply h.invariant Orderly
  · exact ⟨by simp, rfl, List.Sublist.refl []⟩
  · intro s a t hs hStep
    exact hs.step hStep

/-- The previewed samples carry whole frames of those the worker has handed over, in their
order and each at most once; of the frames that were taken at most one is not yet on its
way to the screen. -/
theorem preview_sublist {m : Monitor} (h : Reachable step {} m) :
    (m.delivered.map MediaSample.data).Sublist m.offered ∧
      ∃ held : List (List UInt8), m.delivered.map MediaSample.data ++ held = m.taken ∧ held.length ≤ 1 := by
  have hOrderly := orderly_of_reachable h
  constructor
  · apply List.Sublist.trans _ hOrderly.someOf
    rw [← hOrderly.handed]
    exact List.sublist_append_left _ _
  · exact ⟨m.pending, hOrderly.handed, m.pending_length⟩

/-- The thread offers a sample of one byte and falls asleep. -/
def offering : List Action :=
  [.step none, .step (some { buffer := [0] }), .step none, .step none]

/-- Three frames are handed over while one is on its way to the screen. -/
def dropping : List Action :=
  offering ++ [.handleFrame [1] true, .notifyFilled, .handleFrame [2] true, .step none, .step none,
    .handleFrame [3] true]

/-- Only the first reaches it. -/
theorem preview_sublist_dropping : ∃ m : Monitor,
    (m.offered = [[1], [2], [3]] ∧ m.delivered.map MediaSample.data = [[1]]) ∧
      (m.delivered.map MediaSample.data).Sublist m.offered ∧
        ∃ held : List (List UInt8),
          m.delivered.map MediaSample.data ++ held = m.taken ∧ held.length ≤ 1 := by
  obtain ⟨log, m, run, hTest⟩ := exec_witness step {} dropping
    (fun _ m => decide (m.offered = [[1], [2], [3]] ∧ m.delivered.map MediaSample.data = [[1]]))
    (by decide +kernel)
  exact ⟨m, of_decide_eq_true hTest, preview_sublist ⟨log, run⟩⟩

/-- The threads around the sample. -/
inductive Party where
  | monitoring
  | worker
  | destructor
  deriving DecidableEq, Repr

/-- The conditions of `wait`, with a sample on offer. -/
def Ready (m : Monitor) : Prop := m.stop = true ∨ m.sample.isSome = true ∧ m.sampleFilled = true

def board (m : Monitor) : Board Party Unit where
  parked party _ := party = .monitoring ∧ m.pc = .parked
  owes party _ := party = .worker ∧ m.notifying = true ∨ party = .destructor ∧ m.stopping = true
  ready _ := m.Ready

section Wake

variable {m next : Monitor}

/-- A look moves only the thread and the sample; the thread parks only while it has nothing
to go on with. -/
theorem look_eq (m : Monitor) : ∃ sample pc, m.look = { m with sample := sample, pc := pc } ∧
    (pc = .parked ∧ sample = m.sample ∧ m.stop = false ∧ m.sampleFilled = false ∨
      pc ≠ .parked ∧ pc ≠ .woken ∧ sample = none) := by
  rw [look]
  split_ifs with hGo
  · rw [leave]
    cases m.sample with
    | none => exact ⟨none, .returned, rfl, Or.inr ⟨nofun, nofun, rfl⟩⟩
    | some sample =>
        cases hFilled : m.sampleFilled with
        | false => exact ⟨none, .returned, by simp, Or.inr ⟨nofun, nofun, rfl⟩⟩
        | true => exact ⟨none, .deliver sample, by simp, Or.inr ⟨nofun, nofun, rfl⟩⟩
  · simp only [Bool.or_eq_true, not_or, Bool.not_eq_true] at hGo
    exact ⟨m.sample, .parked, rfl, Or.inl ⟨rfl, rfl, hGo⟩⟩

/-- What a step of the thread does to the board: nobody else is touched, and if the thread
parks, it does so on a condition that does not hold. -/
theorem threadStep_move (h : m.Orderly) {given : Option MediaSample}
    (hStep : m.threadStep given = some next) : Move m.board next.board := by
  -- A step that leaves the thread awake, and the sample as it was or taken out.
  have hQuiet : ∀ {sample pc}, next = { m with sample := sample, pc := pc } → pc ≠ .parked →
      (sample = m.sample ∨ sample = none) → Move m.board next.board := by
    rintro sample pc rfl hAwake hSample
    refine .quiet ?_ (fun _ _ => id) fun _ => ?_
    · rintro party - ⟨-, hParked⟩
      exact absurd hParked hAwake
    · rintro (hStop | ⟨hSome, hFilled⟩)
      · exact Or.inl hStop
      · rcases hSample with rfl | rfl
        · exact Or.inr ⟨hSome, hFilled⟩
        · cases hSome
  rw [threadStep] at hStep
  cases hPc : m.pc with
  | parked | returned =>
      rw [hPc] at hStep
      cases hStep
  | testStop =>
      rw [hPc] at hStep
      apply hQuiet (Option.some.inj hStep).symm _ (Or.inl rfl)
      split_ifs <;> simp
  | getDeliveryBuffer =>
      rw [hPc] at hStep
      apply hQuiet (Option.some.inj hStep).symm _ (Or.inl rfl)
      cases given <;> simp
  | retry | pause =>
      rw [hPc] at hStep
      exact hQuiet (Option.some.inj hStep).symm nofun (Or.inl rfl)
  | deliver sample =>
      rw [hPc] at hStep
      obtain rfl := Option.some.inj hStep
      refine .quiet ?_ (fun _ _ => id) fun _ => id
      rintro party - ⟨-, hParked⟩
      cases hParked
  | offer sample =>
      rw [hPc] at hStep
      have hNone : m.sample.isSome = false := by
        rw [← Bool.not_eq_true, h.onOffer, hPc]
        simp
      obtain ⟨taken, pc, hLook, hCases⟩ := look_eq { m with sample := some sample, sampleFilled := false }
      obtain rfl := (Option.some.inj hStep).symm.trans hLook
      have hReady : ∀ c, (board { m with sample := taken, sampleFilled := false, pc := pc }).ready c →
          m.board.ready c := by
        rintro - (hStop | ⟨-, hFilled⟩)
        · exact Or.inl hStop
        · cases hFilled
      rcases hCases with ⟨rfl, -, hStop, -⟩ | ⟨hAwake, -, -⟩
      · refine .park .monitoring () ?_ (fun _ _ hParked => Or.inr ⟨hParked.1, rfl⟩) (fun _ _ => id) hReady
        rintro (hIs | ⟨hSome, -⟩)
        · cases hStop.symm.trans hIs
        · cases hNone.symm.trans hSome
      · refine .quiet ?_ (fun _ _ => id) hReady
        rintro party - ⟨-, hParked⟩
        exact absurd hParked hAwake
  | woken =>
      rw [hPc] at hStep
      obtain ⟨taken, pc, hLook, hCases⟩ := look_eq m
      have hNext := (Option.some.inj hStep).symm.trans hLook
      rcases hCases with ⟨rfl, rfl, hStop, hFilled⟩ | ⟨hAwake, -, hNone⟩
      · obtain rfl := hNext
        refine .park .monitoring () ?_ (fun _ _ hParked => Or.inr ⟨hParked.1, rfl⟩) (fun _ _ => id)
          fun _ => id
        rintro (hIs | ⟨-, hIs⟩)
        · cases hStop.symm.trans hIs
        · cases hFilled.symm.trans hIs
      · exact hQuiet hNext hAwake (Or.inr hNone)

/-- A filled sample is announced by the worker that filled it. -/
theorem handleFrame_move (m : Monitor) (hFree : m.notifying = false) (frame : List UInt8) (pointer : Bool) :
    Move m.board (m.handleFrame frame pointer).board := by
  have hRefused : Move m.board (board { m with offered := m.offered ++ [frame] }) :=
    .quiet (fun _ _ => id) (fun _ _ => id) fun _ => id
  rw [handleFrame]
  cases hSample : m.sample with
  | none =>
      rw [hSample] at hRefused
      exact hRefused
  | some sample =>
      rw [hSample] at hRefused
      show Move _ (board (if (m.sampleFilled || sample.size < frame.length || !pointer) = true then _ else _))
      split_ifs with hRefuses
      · exact hRefused
      · refine .change .worker ?_ (fun _ _ => id) ?_ ?_
        · rintro - ⟨hWho, -⟩
          cases hWho
        · rintro party - (⟨-, hNotifying⟩ | hStopping)
          · simp [hFree] at hNotifying
          · exact Or.inr hStopping
        · rintro -  -
          exact Or.inr (Or.inl ⟨rfl, rfl⟩)

theorem wakeUp_same (m : Monitor) : ∃ pc, m.wakeUp = { m with pc := pc } ∧ pc ≠ .parked := by
  rw [wakeUp]
  split_ifs with hParked
  · exact ⟨.woken, rfl, nofun⟩
  · exact ⟨m.pc, rfl, hParked⟩

theorem step_move (h : m.Orderly) {action : Action} (hStep : m.step action = some next) :
    Move m.board next.board := by
  cases action with
  | handleFrame frame pointer =>
      simp only [step] at hStep
      split_ifs at hStep with hFree
      obtain rfl := Option.some.inj hStep
      exact handleFrame_move m (by simpa using hFree) frame pointer
  | notifyFilled =>
      simp only [step] at hStep
      split_ifs at hStep
      obtain rfl := Option.some.inj hStep
      obtain ⟨pc, hWake, hAwake⟩ := wakeUp_same m
      rw [hWake]
      refine .notify .worker () (fun _ hParked => hAwake hParked.2) ?_ ?_ fun _ => id
      · rintro party - ⟨-, hParked⟩
        exact absurd hParked hAwake
      · rintro party - (⟨rfl, -⟩ | hStopping)
        · exact Or.inr ⟨rfl, rfl⟩
        · exact Or.inl (Or.inr hStopping)
  | requestStop =>
      simp only [step] at hStep
      split_ifs at hStep
      obtain rfl := Option.some.inj hStep
      refine .change .destructor ?_ (fun _ _ => id) ?_ ?_
      · rintro - ⟨hWho, -⟩
        cases hWho
      · rintro party - (hNotifying | ⟨rfl, -⟩)
        · exact Or.inl hNotifying
        · exact Or.inr ⟨rfl, rfl⟩
      · rintro - -
        exact Or.inr (Or.inr ⟨rfl, rfl⟩)
  | notifyStop =>
      simp only [step] at hStep
      split_ifs at hStep
      obtain rfl := Option.some.inj hStep
      obtain ⟨pc, hWake, hAwake⟩ := wakeUp_same m
      rw [hWake]
      refine .notify .destructor () (fun _ hParked => hAwake hParked.2) ?_ ?_ fun _ => id
      · rintro party - ⟨-, hParked⟩
        exact absurd hParked hAwake
      · rintro party - (hNotifying | ⟨rfl, -⟩)
        · exact Or.inl (Or.inl hNotifying)
        · exact Or.inr ⟨rfl, rfl⟩
  | wake =>
      obtain rfl := Option.some.inj hStep
      obtain ⟨pc, hWake, hAwake⟩ := wakeUp_same m
      rw [hWake]
      refine .quiet ?_ (fun _ _ => id) fun _ => id
      rintro party - ⟨-, hParked⟩
      exact absurd hParked hAwake
  | step given => exact threadStep_move h hStep

end Wake

theorem settled_of_reachable {m : Monitor} (h : Reachable step {} m) : Settled m.board := by
  have hBoth : m.Orderly ∧ Settled m.board := by
    apply h.invariant fun s => s.Orderly ∧ Settled s.board
    · refine ⟨⟨by simp, rfl, List.Sublist.refl []⟩, ?_⟩
      rintro party - ⟨-, hParked⟩
      cases hParked
    · intro s a t hs hStep
      exact ⟨hs.1.step hStep, (step_move hs.1 hStep).settled hs.2⟩
  exact hBoth.2

/-- A parked thread that has something to go on with is about to be woken. -/
theorem parked_announced {m : Monitor} (h : Reachable step {} m) (hParked : m.pc = .parked)
    (hReady : m.stop = true ∨ m.sampleFilled = true) : m.notifying = true ∨ m.stopping = true := by
  have hIs : m.Ready := by
    rcases hReady with hStop | hFilled
    · exact Or.inl hStop
    · exact Or.inr ⟨(orderly_of_reachable h).onOffer.mpr (Or.inl hParked), hFilled⟩
  obtain ⟨party, -, ⟨-, hNotifying⟩ | ⟨-, hStopping⟩⟩ :=
    settled_of_reachable h .monitoring () ⟨rfl, hParked⟩ hIs
  · exact Or.inl hNotifying
  · exact Or.inr hStopping

/-- No frame waits for the preview in vain: whenever the thread sleeps with a filled sample
in front of it, or with a stop requested, someone is still about to wake it. -/
theorem preview_wakes {m : Monitor} (h : Reachable step {} m) (hParked : m.pc = .parked)
    (hReady : m.stop = true ∨ m.sampleFilled = true) : m.notifying = true ∨ m.stopping = true :=
  parked_announced h hParked hReady

/-- A frame has come, and the thread does not know it yet. -/
theorem preview_wakes_filled : ∃ m : Monitor,
    (m.pc = .parked ∧ m.sampleFilled = true) ∧ (m.notifying = true ∨ m.stopping = true) := by
  obtain ⟨log, m, run, hTest⟩ := exec_witness step {} (offering ++ [.handleFrame [1] true])
    (fun _ m => decide (m.pc = .parked ∧ m.sampleFilled = true)) (by decide +kernel)
  have hBoth := of_decide_eq_true hTest
  exact ⟨m, hBoth, preview_wakes ⟨log, run⟩ hBoth.1 (Or.inr hBoth.2)⟩

/-- The steps a thread that is asked to stop has left. -/
def stepsLeft (m : Monitor) : Nat :=
  match m.pc with
  | .returned => 0
  | .testStop | .offer _ => 1
  | .retry | .pause _ | .deliver _ => 2
  | .getDeliveryBuffer | .parked | .woken => 3

def Action.isThread : Action → Bool
  | .step _ => true
  | _ => false

section Stop

variable {m next : Monitor}

theorem wakeUp_stepsLeft (m : Monitor) : m.wakeUp.stepsLeft = m.stepsLeft := by
  rw [wakeUp]
  split_ifs with hParked
  · rw [stepsLeft, stepsLeft, hParked]
  · rfl

theorem handleFrame_kept (m : Monitor) (frame : List UInt8) (pointer : Bool) :
    (m.handleFrame frame pointer).stop = m.stop ∧ (m.handleFrame frame pointer).pc = m.pc := by
  rw [handleFrame]
  cases m.sample with
  | none => exact ⟨rfl, rfl⟩
  | some sample =>
      show Monitor.stop (if (m.sampleFilled || sample.size < frame.length || !pointer) = true then _ else _) = _ ∧
        Monitor.pc (if (m.sampleFilled || sample.size < frame.length || !pointer) = true then _ else _) = _
      split_ifs
      · exact ⟨rfl, rfl⟩
      · exact ⟨rfl, rfl⟩

/-- A thread that is asked to stop takes no further turn. -/
theorem stepsLeft_falls (hStop : m.stop = true) {given : Option MediaSample}
    (hStep : m.threadStep given = some next) : next.stop = true ∧ next.stepsLeft < m.stepsLeft := by
  rw [threadStep] at hStep
  cases hPc : m.pc with
  | parked | returned =>
      rw [hPc] at hStep
      cases hStep
  | testStop =>
      rw [hPc, hStop] at hStep
      obtain rfl := Option.some.inj hStep
      exact ⟨rfl, by simp [stepsLeft, hPc]⟩
  | getDeliveryBuffer =>
      rw [hPc] at hStep
      obtain rfl := Option.some.inj hStep
      refine ⟨hStop, ?_⟩
      cases given with
      | none => simp [stepsLeft, hPc]
      | some sample => simp [stepsLeft, hPc]
  | retry | pause | deliver =>
      rw [hPc] at hStep
      obtain rfl := Option.some.inj hStep
      exact ⟨hStop, by simp [stepsLeft, hPc]⟩
  | offer sample =>
      rw [hPc] at hStep
      obtain rfl := Option.some.inj hStep
      rw [look, hStop, Bool.true_or, if_pos rfl, leave]
      exact ⟨rfl, by simp [stepsLeft, hPc]⟩
  | woken =>
      rw [hPc] at hStep
      obtain rfl := Option.some.inj hStep
      rw [look, hStop, Bool.true_or, if_pos rfl, leave]
      split
      · exact ⟨hStop, by simp [stepsLeft, hPc]⟩
      · exact ⟨hStop, by simp [stepsLeft, hPc]⟩

/-- Nobody takes a stop request back or gives the thread more to do. -/
theorem stop_kept (hStop : m.stop = true) {action : Action} (hStep : m.step action = some next) :
    next.stop = true ∧ (action.isThread = true → next.stepsLeft < m.stepsLeft) ∧
      (action.isThread = false → next.stepsLeft ≤ m.stepsLeft) := by
  obtain ⟨pc, hWake, -⟩ := wakeUp_same m
  have hWoken : m.wakeUp.stop = true := by rw [hWake]; exact hStop
  cases action with
  | handleFrame frame pointer =>
      simp only [step] at hStep
      split_ifs at hStep
      obtain rfl := Option.some.inj hStep
      obtain ⟨hKept, hPc⟩ := m.handleFrame_kept frame pointer
      exact ⟨hKept.trans hStop, nofun, fun _ => by rw [stepsLeft, stepsLeft, hPc]⟩
  | notifyFilled =>
      simp only [step] at hStep
      split_ifs at hStep
      obtain rfl := Option.some.inj hStep
      exact ⟨hWoken, nofun, fun _ => m.wakeUp_stepsLeft.le⟩
  | requestStop =>
      simp [step, hStop] at hStep
  | notifyStop =>
      simp only [step] at hStep
      split_ifs at hStep
      obtain rfl := Option.some.inj hStep
      exact ⟨hWoken, nofun, fun _ => m.wakeUp_stepsLeft.le⟩
  | wake =>
      obtain rfl := Option.some.inj hStep
      exact ⟨hWoken, nofun, fun _ => m.wakeUp_stepsLeft.le⟩
  | step given =>
      obtain ⟨hKept, hFalls⟩ := stepsLeft_falls hStop hStep
      exact ⟨hKept, fun _ => hFalls, nofun⟩

/-- A thread that neither sleeps nor has returned can go on. -/
theorem threadStep_enabled (hParked : m.pc ≠ .parked) (hReturned : m.pc ≠ .returned) :
    ∃ next, m.threadStep none = some next := by
  rw [threadStep]
  cases hPc : m.pc with
  | parked => exact absurd hPc hParked
  | returned => exact absurd hPc hReturned
  | _ => exact ⟨_, rfl⟩

end Stop

/-- The destructor's `join` comes back: a thread that was asked to stop takes at most three
more steps of its own, whatever the others do in between, and until it has returned it can
take the next one, the calls of the graph apart, or is about to be woken for it. -/
theorem preview_thread_returns {m t : Monitor} {log : List (Monitor × Action)}
    (h : Reachable step {} m) (hStop : m.stop = true) (run : Runs step m log t) :
    countOf Action.isThread log ≤ 3 ∧
      (t.pc = .returned ∨ (∃ next, t.step (.step none) = some next) ∨
        t.pc = .parked ∧ (t.notifying = true ∨ t.stopping = true)) := by
  have hLeft : countOf Action.isThread log + t.stepsLeft ≤ m.stepsLeft :=
    run.countOf_le Action.isThread stepsLeft (fun s => s.stop = true) hStop
      (fun s a u hs hStep => (stop_kept hs hStep).1)
      (fun s a u hs hStep => (stop_kept hs hStep).2.1)
      (fun s a u hs hStep => (stop_kept hs hStep).2.2)
  have hBound : m.stepsLeft ≤ 3 := by
    rw [stepsLeft]
    split <;> decide
  have hStays : t.stop = true :=
    run.invariant (fun s => s.stop = true) hStop fun s a u hs hStep => (stop_kept hs hStep).1
  refine ⟨by omega, ?_⟩
  by_cases hReturned : t.pc = .returned
  · exact Or.inl hReturned
  · by_cases hParked : t.pc = .parked
    · obtain ⟨before, hBefore⟩ := h
      have hReach : Reachable step {} t := ⟨_, hBefore.trans run⟩
      exact Or.inr (Or.inr ⟨hParked, parked_announced hReach hParked (Or.inl hStays)⟩)
    · exact Or.inr (Or.inl (threadStep_enabled hParked hReturned))

/-- A thread that is asked to stop while a filled sample waits still hands it on. -/
theorem preview_thread_returns_filled : ∃ (log : List (Monitor × Action)) (t : Monitor),
    t.pc = .returned ∧ countOf Action.isThread log ≤ 3 := by
  obtain ⟨log, m, more, t, run, rest, -, hTest⟩ := exec_witness_then step {}
    (offering ++ [.handleFrame [1] true, .requestStop])
    [.notifyFilled, .step none, .step none, .notifyStop, .step none]
    (fun m _ t => decide (m.stop = true ∧ t.pc = .returned)) (by decide +kernel)
  have hBoth := of_decide_eq_true hTest
  exact ⟨more, t, hBoth.2, (preview_thread_returns ⟨log, run⟩ hBoth.1 rest).1⟩

end Monitor

end WinDV
