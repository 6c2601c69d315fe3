import WinDV.Native.EngineWake
import Mathlib.Data.List.Nodup

/-! What holds of `EngineThread` in every run that leaves the destructor alone: nobody who
waits for it is left asleep, its ticks are apart, and each call stands where its task does. -/
namespace WinDV

namespace WakingThread

open Transition

section Steps

variable {s t : WakingThread}

/-- `Run` is about to take a task, or runs one. -/
def busy : RunPc → Bool
  | .takeTask | .runTask _ => true
  | _ => false

/-- `Run` will look at the stop flag before it sleeps. -/
def looks : RunPc → Bool
  | .tick | .wait => false
  | _ => true

/-- The thread does not sleep on a task or on a request to stop, unless the one
from whom it comes has yet to wake it. -/
structure Awake (s : WakingThread) : Prop where
  tasks : s.thread.tasks = [] ∨ s.wake = true ∨ busy s.thread.run = true ∨
    ∃ call invoked, s.thread.calls call = .settingWake invoked
  stop : s.thread.stopRequested = false ∨ s.wake = true ∨ looks s.thread.run = true ∨
    s.thread.destructor = .setWake

/-- A call that is not at its wake-up leaves those that are. -/
theorem Awake.setCall {call : Nat} {pc : PostPc} (h : s.Awake)
    (hNot : ∀ invoked, s.thread.calls call ≠ .settingWake invoked) :
    Awake { s with thread := s.thread.setCall call pc } := by
  refine ⟨?_, h.stop⟩
  rcases h.tasks with hNone | hWake | hBusy | ⟨other, invoked, hOther⟩
  · exact Or.inl hNone
  · exact Or.inr (Or.inl hWake)
  · exact Or.inr (Or.inr (Or.inl hBusy))
  · refine Or.inr (Or.inr (Or.inr ⟨other, invoked, ?_⟩))
    have hDiffers : other ≠ call := by
      rintro rfl
      exact hNot invoked hOther
    exact (EngineThread.setCall_other _ _ hDiffers).trans hOther

theorem Awake.callMove {call : Nat} (h : s.Awake) (hMove : CallMove s call t) : t.Awake := by
  cases hMove with
  | decided before | created before | ranDirectly before | accepted before | refused before | served before =>
      exact ⟨(h.setCall (by simp [before])).tasks, h.stop⟩
  | @pushed invoked before =>
      exact ⟨Or.inr (Or.inr (Or.inr ⟨call, invoked, EngineThread.setCall_self _ _ _⟩)), h.stop⟩
  | woke before => exact ⟨Or.inr (Or.inl rfl), Or.inr (Or.inl rfl)⟩

theorem Awake.runMove (h : s.Awake) (hMove : RunMove s t) : t.Awake := by
  cases hMove with
  | foundNone pc tasks => exact ⟨Or.inl tasks, Or.inr (Or.inr (Or.inl rfl))⟩
  | foundTask pc tasks => exact ⟨Or.inr (Or.inr (Or.inl rfl)), Or.inr (Or.inr (Or.inl rfl))⟩
  | ran pc => exact ⟨Or.inr (Or.inr (Or.inl rfl)), Or.inr (Or.inr (Or.inl rfl))⟩
  | woken pc => exact ⟨Or.inr (Or.inr (Or.inl rfl)), Or.inr (Or.inr (Or.inl rfl))⟩
  | leaves pc stop =>
      have hTasks := h.tasks
      rw [pc] at hTasks
      exact ⟨hTasks, Or.inr (Or.inr (Or.inl rfl))⟩
  | stays pc stop =>
      have hTasks := h.tasks
      rw [pc] at hTasks
      exact ⟨hTasks, Or.inl stop⟩
  | ticked pc | notYet pc =>
      have hTasks := h.tasks
      have hStop := h.stop
      rw [pc] at hTasks hStop
      exact ⟨hTasks, hStop⟩

theorem Awake.step {action : Action} (h : s.Awake) (hStep : s.step action = some t) : t.Awake := by
  cases step_move hStep with
  | call move => exact h.callMove move
  | run move => exact h.runMove move
  | destroy pc => exact ⟨h.tasks, Or.inr (Or.inr (Or.inr rfl))⟩
  | input | advance => exact ⟨h.tasks, h.stop⟩
  | timeout pc => exact ⟨Or.inr (Or.inr (Or.inl rfl)), Or.inr (Or.inr (Or.inl rfl))⟩
  | wakes pc => exact ⟨Or.inr (Or.inl rfl), Or.inr (Or.inl rfl)⟩
  | joins pc =>
      have hStop := h.stop
      rw [pc] at hStop
      exact ⟨h.tasks, hStop.imp_right fun hRest => hRest.imp_right fun hLast => hLast.imp_right nofun⟩
  | post fresh | invoke fresh => exact ⟨(h.setCall (by simp [fresh])).tasks, h.stop⟩

/-- The tick comes each 200 ms at most: between two of them that long has passed, and what
is left until the next one when `Run` waits is no longer than that. -/
structure Timed (s : WakingThread) : Prop where
  now : s.now ≤ s.clock
  apart : s.ticks.Pairwise fun earlier later => earlier + kTickIntervalMs ≤ later
  next : ∀ time ∈ s.ticks, time + kTickIntervalMs ≤ s.nextTick
  soon : s.nextTick ≤ s.now + kTickIntervalMs
  waits : s.thread.run = .wait → s.now < s.nextTick

theorem Timed.runMove (h : s.Timed) (hMove : RunMove s t) : t.Timed := by
  cases hMove with
  | foundNone | foundTask | ran | leaves | stays | woken => exact { h with waits := by simp }
  | ticked pc due =>
      constructor
      · exact Nat.le_refl _
      · apply List.pairwise_append.mpr ⟨h.apart, List.pairwise_singleton _ _, _⟩
        intro earlier hEarlier later hLater
        rw [List.mem_singleton.mp hLater]
        exact Nat.le_trans (h.next earlier hEarlier) due
      · intro time hTime
        rcases List.mem_append.mp hTime with hOld | hNew
        · exact Nat.le_add_right_of_le (Nat.le_trans (h.next time hOld) due)
        · obtain rfl := List.mem_singleton.mp hNew
          exact Nat.le_refl _
      · exact Nat.le_refl _
      · exact fun _ => Nat.lt_add_of_pos_right (by decide)
  | notYet pc early =>
      exact { h with
        now := Nat.le_refl _
        soon := Nat.le_trans h.soon (Nat.add_le_add_right h.now _)
        waits := fun _ => early }

theorem Timed.step {action : Action} (h : s.Timed) (hStep : s.step action = some t) : t.Timed := by
  cases step_move hStep with
  | call move => cases move <;> exact { h with }
  | run move => exact h.runMove move
  | destroy pc | input => exact { h with }
  | advance => exact { h with now := Nat.le_add_right_of_le h.now }
  | timeout pc => exact { h with waits := by simp }
  | wakes pc | joins pc => exact { h with }
  | post fresh | invoke fresh => exact { h with }

/-- A caller that is in no call. -/
def settled : PostPc → Bool
  | .notCalled | .returned => true
  | _ => false

/-- A call of `Post` that is not an `Invoke`, or none at all. -/
def ofPost : PostPc → Bool
  | .notCalled | .checkPost false | .pushing false | .settingWake false => true
  | _ => false

/-- The task has been pushed and the call goes on. -/
def waitsFor : PostPc → Bool
  | .settingWake _ | .awaiting => true
  | _ => false

/-- Where a call is and what has become of its task. -/
structure Place (s : WakingThread) (call : Nat) : Prop where
  begun : s.thread.calls call = .notCalled ∨ call ∈ s.begun
  invoked : call ∈ s.invoked → ofPost (s.thread.calls call) = false
  pushed : waitsFor (s.thread.calls call) = true → call ∈ s.thread.pushed
  direct : call ∈ s.direct → s.thread.calls call = .returned ∧ call ∉ s.thread.pushed
  served : call ∈ s.invoked → s.thread.calls call = .returned → call ∈ s.thread.ran ∨ call ∈ s.direct
  stopped : s.thread.stopRequested = true → settled (s.thread.calls call) = true

/-- Where every call is, as long as the destructor is left alone. -/
structure Placed (s : WakingThread) : Prop where
  each : ∀ call, s.Place call
  direct : s.direct.Nodup

/-- A step that leaves a call and what is known of it. -/
theorem Place.same {call : Nat} (h : s.Place call) (hCalls : t.thread.calls call = s.thread.calls call)
    (hBegun : call ∈ s.begun → call ∈ t.begun) (hInvoked : call ∈ t.invoked → call ∈ s.invoked)
    (hPushed : call ∈ t.thread.pushed ↔ call ∈ s.thread.pushed) (hDirect : call ∈ t.direct ↔ call ∈ s.direct)
    (hRan : call ∈ s.thread.ran → call ∈ t.thread.ran)
    (hStopped : t.thread.stopRequested = true → settled (s.thread.calls call) = true) : t.Place call where
  begun := by
    rw [hCalls]
    exact h.begun.imp_right hBegun
  invoked := by
    rw [hCalls]
    exact fun hCall => h.invoked (hInvoked hCall)
  pushed := by
    rw [hCalls, hPushed]
    exact h.pushed
  direct := by
    rw [hCalls, hPushed, hDirect]
    exact h.direct
  served := by
    rw [hCalls, hDirect]
    exact fun hCall hReturned => (h.served (hInvoked hCall) hReturned).imp_left hRan
  stopped := by
    rw [hCalls]
    exact hStopped

/-- The calls beside the one that moves. -/
theorem CallMove.beside {call other : Nat} (hMove : CallMove s call t) (hOther : other ≠ call)
    (h : s.Place other) : t.Place other := by
  have hCalls : ∀ (thread : EngineThread) pc, (thread.setCall call pc).calls other = thread.calls other :=
    fun thread pc => EngineThread.setCall_other thread pc hOther
  cases hMove with
  | decided | created | accepted | refused | woke | served =>
      exact h.same (hCalls _ _) id id Iff.rfl Iff.rfl id h.stopped
  | ranDirectly before =>
      have hDirect : other ∈ s.direct ++ [call] ↔ other ∈ s.direct := by simp [hOther]
      exact h.same (hCalls _ _) id id Iff.rfl hDirect id h.stopped
  | pushed before =>
      have hPushed : other ∈ s.thread.pushed ++ [call] ↔ other ∈ s.thread.pushed := by simp [hOther]
      exact h.same (hCalls _ _) id id hPushed Iff.rfl id h.stopped

/-- A call that goes on with its task as it was. -/
theorem Place.setCall {call : Nat} {pc : PostPc} (h : s.Place call)
    (hOut : settled (s.thread.calls call) = false)
    (hInvoked : ofPost (s.thread.calls call) = false → ofPost pc = false)
    (hPushed : waitsFor pc = true → waitsFor (s.thread.calls call) = true)
    (hServed : pc = .returned → call ∈ s.invoked → call ∈ s.thread.ran) :
    Place { s with thread := s.thread.setCall call pc } call := by
  have hSelf : (s.thread.setCall call pc).calls call = pc := EngineThread.setCall_self _ _ _
  constructor
  · right
    apply h.begun.resolve_left
    intro hNot
    simp [hNot, settled] at hOut
  · intro hCall
    rw [hSelf]
    exact hInvoked (h.invoked hCall)
  · intro hWaits
    rw [hSelf] at hWaits
    exact h.pushed (hPushed hWaits)
  · intro hCall
    simp [(h.direct hCall).1, settled] at hOut
  · intro hCall hReturned
    rw [hSelf] at hReturned
    exact Or.inl (hServed hReturned hCall)
  · intro hStop
    simp [h.stopped hStop] at hOut

theorem CallMove.place {call : Nat} (hMove : CallMove s call t) (h : s.Place call)
    (hQueued : s.thread.Queued) : t.Place call := by
  have hSelf : ∀ (thread : EngineThread) pc, (thread.setCall call pc).calls call = pc :=
    fun thread pc => EngineThread.setCall_self thread call pc
  cases hMove with
  | decided before after =>
      apply h.setCall (by simp [before, settled])
      · rcases after with rfl | rfl <;> simp [ofPost]
      · rcases after with rfl | rfl <;> simp [waitsFor]
      · rcases after with rfl | rfl <;> simp
  | created before after =>
      apply h.setCall (by simp [before, settled])
      · rcases after with rfl | rfl <;> simp [ofPost]
      · rcases after with rfl | rfl <;> simp [waitsFor]
      · rcases after with rfl | rfl <;> simp
  | @accepted invoked before stop =>
      apply h.setCall (by simp [before, settled])
      · rw [before]
        cases invoked <;> simp [ofPost]
      · simp [waitsFor]
      · simp
  | refused before stop =>
      have hSettled := h.stopped stop
      simp [before, settled] at hSettled
  | served before ran =>
      apply h.setCall (by simp [before, settled])
      · simp [ofPost]
      · simp [waitsFor]
      · exact fun _ _ => ran
  | ranDirectly before =>
      constructor
      · right
        exact h.begun.resolve_left (by simp [before])
      · intro _
        rw [hSelf]
        rfl
      · intro hWaits
        rw [hSelf] at hWaits
        cases hWaits
      · intro _
        refine ⟨hSelf _ _, fun hPushed => ?_⟩
        have hHas := hQueued.calls call hPushed
        simp [before, EngineThread.hasPushed] at hHas
      · intro _ _
        right
        simp
      · intro _
        rw [hSelf]
        rfl
  | @pushed invoked before =>
      constructor
      · right
        exact h.begun.resolve_left (by simp [before])
      · intro hCall
        rw [hSelf]
        have hOf := h.invoked hCall
        rw [before] at hOf
        cases invoked with
        | false => cases hOf
        | true => rfl
      · intro _
        show call ∈ s.thread.pushed ++ [call]
        simp
      · intro hCall
        have hReturned := (h.direct hCall).1
        simp [before] at hReturned
      · intro _ hReturned
        rw [hSelf] at hReturned
        cases hReturned
      · intro hStop
        have hSettled := h.stopped hStop
        simp [before, settled] at hSettled
  | @woke invoked before =>
      have hOf := h.invoked
      have hWaits : call ∈ s.thread.pushed := h.pushed (by simp [before, waitsFor])
      constructor
      · right
        exact h.begun.resolve_left (by simp [before])
      · intro hCall
        rw [hSelf]
        cases invoked <;> rfl
      · intro _
        exact hWaits
      · intro hCall
        have hReturned := (h.direct hCall).1
        simp [before] at hReturned
      · intro hCall hReturned
        rw [hSelf] at hReturned
        have hInvoke := hOf hCall
        rw [before] at hInvoke
        cases invoked with
        | false => cases hInvoke
        | true => cases hReturned
      · intro hStop
        have hSettled := h.stopped hStop
        simp [before, settled] at hSettled

theorem Placed.callMove {call : Nat} (h : s.Placed) (hQueued : s.thread.Queued)
    (hMove : CallMove s call t) : t.Placed := by
  constructor
  · intro other
    by_cases hOther : other = call
    · rw [hOther]
      exact hMove.place (h.each call) hQueued
    · exact hMove.beside hOther (h.each other)
  · cases hMove with
    | ranDirectly before =>
        apply List.nodup_append.mpr ⟨h.direct, by simp, _⟩
        rintro other hIn _ hCall rfl
        obtain rfl := List.mem_singleton.mp hCall
        have hReturned := ((h.each other).direct hIn).1
        simp [before] at hReturned
    | _ => exact h.direct

theorem Placed.runMove (h : s.Placed) (hMove : RunMove s t) : t.Placed := by
  cases hMove with
  | ran =>
      exact ⟨fun call => (h.each call).same rfl id id Iff.rfl Iff.rfl (List.mem_append_left _) (h.each call).stopped,
        h.direct⟩
  | _ => exact ⟨fun call => { h.each call with }, h.direct⟩

/-- A call is made. -/
theorem Placed.begins {call : Nat} {pc : PostPc} {invoked : List Nat} (h : s.Placed)
    (hFresh : s.thread.calls call = .notCalled) (hRunning : s.thread.stopRequested = false)
    (hWaits : waitsFor pc = false) (hGoes : settled pc = false)
    (hInvoked : ∀ other ∈ invoked, other ∈ s.invoked ∨ other = call ∧ ofPost pc = false) :
    Placed { s with thread := s.thread.setCall call pc, begun := s.begun ++ [call], invoked } := by
  refine ⟨fun other => ?_, h.direct⟩
  have hOther := h.each other
  by_cases hSame : other = call
  · subst hSame
    have hSelf : (s.thread.setCall other pc).calls other = pc := EngineThread.setCall_self _ _ _
    constructor
    · right
      simp
    · intro hCall
      rw [hSelf]
      rcases hInvoked other hCall with hOld | ⟨-, hOf⟩
      · have hNot := hOther.invoked hOld
        rw [hFresh] at hNot
        cases hNot
      · exact hOf
    · intro hCall
      rw [hSelf, hWaits] at hCall
      cases hCall
    · intro hCall
      have hReturned := (hOther.direct hCall).1
      rw [hFresh] at hReturned
      cases hReturned
    · intro _ hReturned
      rw [hSelf] at hReturned
      rw [hReturned] at hGoes
      cases hGoes
    · intro hStop
      exact absurd (hRunning.symm.trans hStop) (by simp)
  · have hCalls : (s.thread.setCall call pc).calls other = s.thread.calls other :=
      EngineThread.setCall_other _ _ hSame
    have hOld : other ∈ invoked → other ∈ s.invoked := fun hCall =>
      (hInvoked other hCall).resolve_right fun hNew => hSame hNew.1
    exact hOther.same hCalls (fun hBegun => List.mem_append_left _ hBegun) hOld Iff.rfl Iff.rfl id
      hOther.stopped

/-- The destructor is left alone: no call goes on when it begins, and none is made after that. -/
def Exclusive (entry : WakingThread × Action) : Prop :=
  match entry.2 with
  | .destroy => ∀ call, settled (entry.1.thread.calls call) = true
  | .post _ | .invoke _ => entry.1.thread.stopRequested = false
  | _ => True

/-- Those that have begun keep to themselves. -/
theorem own_exclusive {action : Action} (hOwn : action.own = true) : Exclusive (s, action) := by
  cases action with
  | call | run | destructor => trivial
  | _ => cases hOwn

theorem Placed.step {action : Action} (h : s.Placed) (hQueued : s.thread.Queued)
    (hExclusive : Exclusive (s, action)) (hStep : s.step action = some t) : t.Placed := by
  cases step_move hStep with
  | call move => exact h.callMove hQueued move
  | run move => exact h.runMove move
  | input | advance | timeout | wakes | joins => exact ⟨fun call => { h.each call with }, h.direct⟩
  | destroy =>
      exact ⟨fun call => (h.each call).same rfl id id Iff.rfl Iff.rfl id fun _ => hExclusive call, h.direct⟩
  | post fresh => exact h.begins fresh hExclusive rfl rfl fun _ => Or.inl
  | @invoke call fresh =>
      apply h.begins fresh hExclusive rfl rfl
      intro other hOther
      rcases List.mem_append.mp hOther with hOld | hNew
      · exact Or.inl hOld
      · exact Or.inr ⟨List.mem_singleton.mp hNew, rfl⟩

end Steps

section Runs

variable {clock : Nat} {log : List (WakingThread × Action)} {s : WakingThread}

theorem awake_start : (start clock).Awake := ⟨Or.inl rfl, Or.inl rfl⟩

theorem timed_start : (start clock).Timed where
  now := Nat.le_refl _
  apart := List.Pairwise.nil
  next := by simp [start]
  soon := Nat.le_add_right _ _
  waits := by simp [start]

theorem placed_start : (start clock).Placed where
  each := by
    intro call
    constructor
    · exact Or.inl rfl
    all_goals simp [start, waitsFor]
  direct := List.nodup_nil

/-- What every state of such a run is known to be. -/
structure Sound (s : WakingThread) : Prop where
  queued : s.thread.Queued
  awake : s.Awake
  timed : s.Timed
  placed : s.Placed

theorem Sound.step {t : WakingThread} {action : Action} (h : s.Sound) (hExclusive : Exclusive (s, action))
    (hStep : s.step action = some t) : t.Sound where
  queued := queued_step h.queued hStep
  awake := h.awake.step hStep
  timed := h.timed.step hStep
  placed := h.placed.step h.queued hExclusive hStep

theorem Sound.run (run : Runs WakingThread.step (start clock) log s) (hExclusive : ∀ entry ∈ log, Exclusive entry) :
    s.Sound := by
  have hStart : (start clock).Sound := ⟨EngineThread.queued_initial, awake_start, timed_start, placed_start⟩
  apply run.invariant_of Exclusive Sound hStart _ hExclusive
  exact fun _ _ _ h hEntry hStep => h.step hEntry hStep

theorem Sound.once (h : s.Sound) {call : Nat} (hInvoked : call ∈ s.invoked)
    (hReturned : s.thread.calls call = .returned) : (s.thread.ran ++ s.direct).count call = 1 := by
  have hRan : ∀ other ∈ s.thread.ran, other ∈ s.thread.pushed := by
    intro other hOther
    rw [h.queued.order]
    exact List.mem_append_left _ (List.mem_append_left _ hOther)
  apply List.count_eq_one_of_mem
  · apply List.nodup_append.mpr ⟨_, h.placed.direct, _⟩
    · have hNodup := h.queued.nodup
      rw [h.queued.order, List.append_assoc] at hNodup
      exact (List.nodup_append.mp hNodup).1
    · rintro other hOther _ hDirect rfl
      exact ((h.placed.each other).direct hDirect).2 (hRan other hOther)
  · exact List.mem_append.mpr ((h.placed.each call).served hInvoked hReturned)

end Runs

end WakingThread

end WinDV
