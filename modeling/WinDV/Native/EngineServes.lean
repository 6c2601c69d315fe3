import WinDV.Native.EngineWakeInvariant
import WinDV.Library.Progress

/-! `EngineThread` serves those who call it: what has begun comes to an end by itself. -/
namespace WinDV

namespace WakingThread

open Transition

section Steps

variable {s t : WakingThread}

/-- The steps a call has left, with those of `Run` that it causes. -/
def callRank : PostPc → Nat
  | .notCalled | .returned => 0
  | .awaiting | .runDirectly => 1
  | .settingWake _ => 6
  | .pushing _ => 9
  | .checkPost _ => 10
  | .createEvent => 11
  | .checkInvoke => 12

/-- The steps `Run` has left until it sleeps; input wakes it once more. -/
def runRank (input : Bool) : RunPc → Nat
  | .returned => 0
  | .wait => if input then 4 else 0
  | .tick => 1
  | .checkStop => 2
  | .takeTask => 3
  | .runTask _ => 4

def destructorRank : DestructorPc → Nat
  | .requestStop | .joined => 0
  | .join => 1
  | .setWake => 6

/-- A bound on the steps that those who have begun can take by themselves. -/
def rank (s : WakingThread) : Nat :=
  total (fun call => callRank (s.thread.calls call)) s.begun + 2 * s.thread.tasks.length +
    (if s.wake then 4 else 0) + runRank s.input s.thread.run + destructorRank s.thread.destructor

/-- What the call loses the total loses. -/
theorem callRank_total {call : Nat} (pc : PostPc) (hBegun : call ∈ s.begun)
    (hFalls : callRank pc ≤ callRank (s.thread.calls call)) :
    total (fun other => callRank ((s.thread.setCall call pc).calls other)) s.begun +
        callRank (s.thread.calls call) ≤
      total (fun other => callRank (s.thread.calls other)) s.begun + callRank pc := by
  have hMoved : callRank ((s.thread.setCall call pc).calls call) = callRank pc := by
    rw [EngineThread.setCall_self]
  rw [← hMoved]
  apply total_move hBegun
  · intro other hOther
    rw [EngineThread.setCall_other _ _ hOther]
  · rw [hMoved]
    exact hFalls

/-- A call that changes nothing but its own place. -/
theorem rank_setCall_lt {call : Nat} {pc : PostPc} (hBegun : call ∈ s.begun)
    (hFalls : callRank pc < callRank (s.thread.calls call)) :
    rank { s with thread := s.thread.setCall call pc } < s.rank := by
  have hTotal := callRank_total pc hBegun (Nat.le_of_lt hFalls)
  show total (fun other => callRank ((s.thread.setCall call pc).calls other)) s.begun +
    2 * s.thread.tasks.length + (if s.wake then 4 else 0) + runRank s.input s.thread.run +
    destructorRank s.thread.destructor < s.rank
  rw [rank]
  omega

theorem CallMove.rank_lt {call : Nat} (hMove : CallMove s call t) (hBegun : call ∈ s.begun) :
    t.rank < s.rank := by
  cases hMove with
  | decided before after =>
      apply rank_setCall_lt hBegun
      rw [before]
      rcases after with rfl | rfl <;> decide
  | created before after =>
      apply rank_setCall_lt hBegun
      rw [before]
      rcases after with rfl | rfl <;> decide
  | ranDirectly before =>
      have hLess : rank { s with thread := s.thread.setCall call .returned } < s.rank := by
        apply rank_setCall_lt hBegun
        rw [before]
        decide
      exact hLess
  | accepted before stop =>
      apply rank_setCall_lt hBegun
      rw [before]
      exact Nat.lt_succ_self 9
  | @refused invoked before stop =>
      apply rank_setCall_lt hBegun
      rw [before]
      cases invoked <;> decide
  | @pushed invoked before =>
      have hTotal := callRank_total (.settingWake invoked) hBegun (by rw [before, callRank, callRank]; decide)
      rw [before] at hTotal
      simp only [rank, callRank, EngineThread.setCall, List.length_append, List.length_singleton] at hTotal ⊢
      omega
  | @woke invoked before =>
      have hRank : callRank (.afterPost invoked) ≤ 1 := by
        cases invoked <;> decide
      have hSix : callRank (s.thread.calls call) = 6 := by
        rw [before]
        rfl
      have hLess : callRank (.afterPost invoked) ≤ callRank (s.thread.calls call) := by
        rw [hSix]
        exact Nat.le_trans hRank (by decide)
      have hTotal := callRank_total (.afterPost invoked) hBegun hLess
      simp only [rank, EngineThread.setCall, if_true] at hTotal ⊢
      omega
  | served before ran =>
      apply rank_setCall_lt hBegun
      rw [before]
      decide

theorem RunMove.rank_lt (hMove : RunMove s t) : t.rank < s.rank := by
  cases hMove with
  | foundNone pc tasks =>
      simp only [rank, pc, runRank]
      omega
  | foundTask pc tasks =>
      simp only [rank, pc, tasks, runRank, List.length_cons]
      omega
  | ran pc =>
      simp only [rank, pc, runRank]
      omega
  | leaves pc stop =>
      simp only [rank, pc, runRank]
      omega
  | stays pc stop =>
      simp only [rank, pc, runRank]
      omega
  | ticked pc | notYet pc =>
      simp only [rank, pc, runRank, Bool.false_eq_true, if_false]
      omega
  | woken pc reason =>
      simp only [rank, pc, runRank, Bool.false_eq_true, if_false]
      rcases reason with hWake | hInput
      · rw [if_pos hWake]
        split_ifs <;> omega
      · rw [if_pos hInput]
        split_ifs <;> omega

theorem own_rank_lt {action : Action} (h : s.Placed) (hStep : s.step action = some t)
    (hOwn : action.own = true) : t.rank < s.rank := by
  cases step_move hStep with
  | @call _ call _ move =>
      have hCalled : s.thread.calls call ≠ .notCalled := by
        cases move <;> simp [*]
      exact move.rank_lt ((h.each call).begun.resolve_left hCalled)
  | run move => exact move.rank_lt
  | wakes pc =>
      simp only [rank, pc, destructorRank, if_true]
      split_ifs <;> omega
  | joins pc =>
      simp only [rank, pc, destructorRank]
      omega
  | post | invoke | destroy | input | advance | timeout => cases hOwn

/-- None of those that have begun can go on. -/
def Stuck (s : WakingThread) : Prop := ∀ action : Action, action.own = true → s.step action = none

/-- The calls have returned; `Run` sleeps on an empty queue, or the destructor is through. -/
structure Settled (s : WakingThread) : Prop where
  calls : ∀ call, settled (s.thread.calls call) = true
  rests : s.thread.stopRequested = false ∧ s.thread.run = .wait ∧ s.thread.tasks = [] ∨
    s.thread.stopRequested = true ∧ s.thread.run = .returned ∧ s.thread.destructor = .joined

/-- Whoever is stuck has settled. -/
theorem Stuck.settled (h : s.Stuck) (hQueued : s.thread.Queued) (hAwake : s.Awake) (hPlaced : s.Placed) :
    s.Settled := by
  have hCalls : ∀ call, WakingThread.settled (s.thread.calls call) = true ∨
      s.thread.calls call = .awaiting ∧ call ∉ s.thread.ran := by
    intro call
    have hStuck : s.callStep call false = none := h (.call call false) rfl
    simp only [callStep, Option.map_eq_none_iff, EngineThread.callStep] at hStuck
    cases hPc : s.thread.calls call with
    | awaiting =>
        simp only [hPc] at hStuck
        split_ifs at hStuck with hRan
        exact Or.inr ⟨rfl, hRan⟩
    | notCalled | returned => exact Or.inl rfl
    | _ => simp [hPc] at hStuck
  have hRun : s.thread.run = .returned ∨ s.thread.run = .wait ∧ s.wake = false := by
    have hStuck : s.runStep = none := h .run rfl
    unfold runStep EngineThread.runStep at hStuck
    cases hPc : s.thread.run with
    | returned => exact Or.inl rfl
    | wait =>
        right
        by_contra hWake
        have hSet : s.wake = true := by simpa using hWake
        simp [hPc, hSet] at hStuck
    | takeTask =>
        simp only [hPc] at hStuck
        split at hStuck <;> cases hStuck
    | _ => simp [hPc] at hStuck
  have hDestructor : s.thread.destructor ≠ .setWake ∧
      (s.thread.run = .returned → s.thread.destructor ≠ .join) := by
    have hStuck : s.destructorStep = none := h .destructor rfl
    constructor
    · intro hPc
      simp [destructorStep, EngineThread.destructorStep, hPc] at hStuck
    · intro hReturned hPc
      simp [destructorStep, EngineThread.destructorStep, hPc, hReturned] at hStuck
  rcases hRun with hReturned | ⟨hWait, hAsleep⟩
  · have hStop := hQueued.returned hReturned
    refine ⟨fun call => (hPlaced.each call).stopped hStop, Or.inr ⟨hStop, hReturned, ?_⟩⟩
    cases hPc : s.thread.destructor with
    | requestStop =>
        have hNot := hQueued.stop.mpr hPc
        rw [hStop] at hNot
        cases hNot
    | setWake => exact absurd hPc hDestructor.1
    | join => exact absurd hPc (hDestructor.2 hReturned)
    | joined => rfl
  · have hEmpty : s.thread.tasks = [] := by
      rcases hAwake.tasks with hNone | hWake | hBusy | ⟨call, invoked, hSetter⟩
      · exact hNone
      · simp [hAsleep] at hWake
      · simp [hWait, busy] at hBusy
      · rcases hCalls call with hSettled | ⟨hAwaiting, -⟩
        · simp [hSetter, WakingThread.settled] at hSettled
        · simp [hSetter] at hAwaiting
    have hOpen : s.thread.stopRequested = false := by
      rcases hAwake.stop with hNot | hWake | hLooks | hSetter
      · exact hNot
      · simp [hAsleep] at hWake
      · simp [hWait, looks] at hLooks
      · exact absurd hSetter hDestructor.1
    refine ⟨fun call => ?_, Or.inl ⟨hOpen, hWait, hEmpty⟩⟩
    apply (hCalls call).resolve_right
    rintro ⟨hAwaiting, hNotRan⟩
    have hPushed := (hPlaced.each call).pushed (by simp [hAwaiting, waitsFor])
    rw [hQueued.order, hWait, hEmpty] at hPushed
    simp [EngineThread.inHand, hNotRan] at hPushed

end Steps

/-- What `EngineThread` owes its callers and its tick. -/
structure Serves (s : WakingThread) : Prop where
  /-- When an `Invoke` returns, its task has been run, and just once. -/
  once : ∀ call ∈ s.invoked, s.thread.calls call = .returned → (s.thread.ran ++ s.direct).count call = 1
  /-- `Run` does not wait on a task or on the request to stop. -/
  awake : s.thread.run = .wait → s.wake = false →
    (s.thread.tasks = [] ∨ ∃ call invoked, s.thread.calls call = .settingWake invoked) ∧
      (s.thread.stopRequested = false ∨ s.thread.destructor = .setWake)
  /-- The ticks are 200 ms apart, and no wait is longer than that. -/
  ticks : s.ticks.Pairwise fun earlier later => earlier + kTickIntervalMs ≤ later
  timeout : s.thread.run = .wait → s.now < s.nextTick ∧ s.nextTick ≤ s.now + kTickIntervalMs
  /-- Without help by the timer or by input those that have begun come to an end. -/
  settles : ∃ bound, ∀ rest t, Runs step s rest t → (∀ entry ∈ rest, entry.2.own = true) →
    rest.length ≤ bound ∧ (t.Stuck → t.Settled)

section Runs

variable {clock : Nat} {log : List (WakingThread × Action)} {s : WakingThread}

theorem Sound.settles (h : s.Sound) {t : WakingThread} {rest : List (WakingThread × Action)}
    (run : Runs WakingThread.step s rest t) (hOwn : ∀ entry ∈ rest, entry.2.own = true) :
    rest.length ≤ s.rank ∧ (t.Stuck → t.Settled) := by
  have hKeep : ∀ (s : WakingThread) (a : Action) (t : WakingThread), s.Sound → a.own = true →
      s.step a = some t → t.Sound := fun s a t hSound hA hStep => hSound.step (own_exclusive hA) hStep
  constructor
  · have hLength := run.length_le (fun entry => entry.2.own = true) rank Sound h hKeep
      (fun s a t hSound hA hStep => own_rank_lt hSound.placed hStep hA) hOwn
    exact Nat.le_of_add_right_le hLength
  · intro hStuck
    have hSound := run.invariant_of (fun entry => entry.2.own = true) Sound h hKeep hOwn
    exact hStuck.settled hSound.queued hSound.awake hSound.placed

/-- As long as the destructor is left alone, an `Invoke` returns, its task having been run
once, whatever the order of the steps, and nobody needs the timer for it. -/
theorem engine_thread_serves (run : Runs step (start clock) log s)
    (hExclusive : ∀ entry ∈ log, Exclusive entry) : s.Serves := by
  have hSound : s.Sound := .run run hExclusive
  constructor
  · exact fun call hInvoked hReturned => hSound.once hInvoked hReturned
  · intro hWait hAsleep
    have hTasks := hSound.awake.tasks
    have hStop := hSound.awake.stop
    simp only [hAsleep, hWait, busy, looks, Bool.false_eq_true, false_or] at hTasks hStop
    exact ⟨hTasks, hStop⟩
  · exact hSound.timed.apart
  · exact fun hWait => ⟨hSound.timed.waits hWait, hSound.timed.soon⟩
  · exact ⟨s.rank, fun rest t hRest hOwn => hSound.settles hRest hOwn⟩

/-- Call 7 is invoked, its task is run, and the destructor begins when it has returned. -/
theorem engine_thread_serves_one :
    ∃ log s, Runs step (start 5) log s ∧ s.thread.stopRequested = true ∧ s.Serves ∧
      (s.thread.ran ++ s.direct).count 7 = 1 := by
  obtain ⟨log, s, run, hTest⟩ := exec_witness step (start 5)
    ([.invoke 7] ++ List.replicate 5 (.call 7 false) ++ [.run, .run, .call 7 false])
    (fun log s => s.thread.calls 7 == .returned && s.invoked == [7] && s.begun == [7] &&
      s.thread.destructor == .requestStop && log.all fun entry => decide (entry.2 ≠ .destroy) &&
        entry.1.thread.stopRequested == false) (by decide)
  simp only [Bool.and_eq_true, beq_iff_eq, List.all_eq_true, decide_eq_true_eq] at hTest
  obtain ⟨⟨⟨⟨hReturned, hInvoked⟩, hBegun⟩, hPc⟩, hLog⟩ := hTest
  have hExclusive : ∀ entry ∈ log, Exclusive entry := by
    rintro ⟨before, action⟩ hEntry
    obtain ⟨hNot, hRunning⟩ := hLog _ hEntry
    cases action with
    | destroy => exact absurd rfl hNot
    | post | invoke => exact hRunning
    | _ => trivial
  have hSettled : ∀ call, settled (s.thread.calls call) = true := by
    intro call
    rcases ((Sound.run run hExclusive).placed.each call).begun with hNot | hIn
    · rw [hNot]
      rfl
    · rw [hBegun, List.mem_singleton] at hIn
      rw [hIn, hReturned]
      rfl
  have hDestroy : s.step .destroy = some { s with
      thread := { s.thread with
        stopRequested := true, destructor := .setWake,
        due := s.thread.pushed.filter (s.thread.PostReturned ·) } } := by
    simp [step, EngineThread.destructorStep, hPc]
  have hServes := engine_thread_serves (run.succ hDestroy) (by
    intro entry hEntry
    rcases List.mem_append.mp hEntry with hOld | hNew
    · exact hExclusive entry hOld
    · rw [List.mem_singleton.mp hNew]
      exact hSettled)
  exact ⟨_, _, run.succ hDestroy, rfl, hServes, hServes.once 7 (by simp [hInvoked]) hReturned⟩

end Runs

end WakingThread

end WinDV
