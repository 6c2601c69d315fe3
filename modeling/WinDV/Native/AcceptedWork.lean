import WinDV.Native.EngineThread

/-! Which accepted work is run. Tasks are run in the order they were queued and
never twice. A task whose `Post` had returned before the stop was requested is
lost exactly if the stop falls between a `TakeTask` that found nothing and the
look at the stop flag that follows it. -/
namespace WinDV.EngineThread

open Transition

/-- The task `Run` has taken and not finished. -/
def inHand : RunPc → List Nat
  | .runTask task => [task]
  | _ => []

/-- The call has pushed its task. -/
def hasPushed : PostPc → Bool
  | .settingWake _ | .awaiting | .returned => true
  | _ => false

/-- What holds in every state: where each pushed task is, that a call pushes at
most once, and whose task is due. -/
structure Queued (s : EngineThread) : Prop where
  order : s.pushed = s.ran ++ inHand s.run ++ s.tasks
  nodup : s.pushed.Nodup
  calls : ∀ call ∈ s.pushed, hasPushed (s.calls call) = true
  due : ∀ call ∈ s.due, call ∈ s.pushed ∧ s.PostReturned call
  stop : s.stopRequested = false ↔ s.destructor = .requestStop
  returned : s.run = .returned → s.stopRequested = true

/-- Past its last look at the queue `Run` leaves no due task in it. -/
def Clean (s : EngineThread) : Prop :=
  s.stopRequested = true → s.run = .checkStop ∨ s.run = .returned → ∀ call ∈ s.due, call ∉ s.tasks

/-- A stop is not requested while `Run` is between an empty `TakeTask` and the
stop check with a task in the queue whose `Post` has returned. -/
def StopsInTime (entry : EngineThread × Action) : Prop :=
  entry.2 = .destructor → entry.1.destructor = .requestStop → entry.1.run = .checkStop →
    ∀ call ∈ entry.1.tasks, ¬ entry.1.PostReturned call

section Steps

variable {s t : EngineThread}

/-- A call moves on; only a push touches the queue. -/
inductive CallMove (s : EngineThread) (call : Nat) : EngineThread → Prop where
  | pushed {invoked : Bool} (pc : s.calls call = .pushing invoked) :
      CallMove s call ({ s with tasks := s.tasks ++ [call], pushed := s.pushed ++ [call] }.setCall call
        (.settingWake invoked))
  | quiet {pc : PostPc} (pushed : hasPushed (s.calls call) = true → hasPushed pc = true)
      (returned : s.PostReturned call → pc = .awaiting ∨ pc = .returned) :
      CallMove s call (s.setCall call pc)

theorem callStep_move {call : Nat} {eventFailed : Bool} (h : s.callStep call eventFailed = some t) :
    CallMove s call t := by
  unfold callStep at h
  cases hPc : s.calls call with
  | notCalled | returned => simp [hPc] at h
  | checkInvoke | createEvent | runDirectly | checkPost =>
      simp only [hPc] at h
      cases h
      exact .quiet (by simp [hPc, hasPushed]) (by simp [PostReturned, hPc])
  | pushing invoked =>
      simp only [hPc] at h
      cases h
      exact .pushed hPc
  | settingWake invoked =>
      simp only [hPc] at h
      cases h
      refine .quiet (fun _ => ?_) (by simp [PostReturned, hPc])
      cases invoked <;> rfl
  | awaiting =>
      simp only [hPc] at h
      split_ifs at h
      cases h
      exact .quiet (fun _ => rfl) (fun _ => Or.inr rfl)

/-- A step of `Run`. -/
inductive RunMove (s : EngineThread) : EngineThread → Prop where
  | foundNone (pc : s.run = .takeTask) (tasks : s.tasks = []) : RunMove s { s with run := .checkStop }
  | foundTask {task : Nat} {rest : List Nat} (pc : s.run = .takeTask) (tasks : s.tasks = task :: rest) :
      RunMove s { s with tasks := rest, run := .runTask task }
  | ran {task : Nat} (pc : s.run = .runTask task) :
      RunMove s { s with ran := s.ran ++ [task], run := .takeTask }
  | leaves (pc : s.run = .checkStop) (stop : s.stopRequested = true) : RunMove s { s with run := .returned }
  | stays (pc : s.run = .checkStop) (stop : s.stopRequested = false) : RunMove s { s with run := .tick }
  | ticked (pc : s.run = .tick) : RunMove s { s with run := .wait }
  | woken (pc : s.run = .wait) : RunMove s { s with run := .takeTask }

theorem runStep_move (h : s.runStep = some t) : RunMove s t := by
  unfold runStep at h
  cases hPc : s.run with
  | returned => simp [hPc] at h
  | takeTask =>
      simp only [hPc] at h
      split at h
      · rename_i hTasks
        cases h
        exact .foundNone hPc hTasks
      · rename_i task rest hTasks
        cases h
        exact .foundTask hPc hTasks
  | runTask task =>
      simp only [hPc] at h
      cases h
      exact .ran hPc
  | checkStop =>
      simp only [hPc] at h
      cases h
      split_ifs with hStop
      · exact .leaves hPc hStop
      · exact .stays hPc (Bool.not_eq_true _ ▸ hStop)
  | tick =>
      simp only [hPc] at h
      cases h
      exact .ticked hPc
  | wait =>
      simp only [hPc] at h
      cases h
      exact .woken hPc

/-- A step of the destructor. -/
inductive DestructorMove (s : EngineThread) : EngineThread → Prop where
  | requestStop (pc : s.destructor = .requestStop) :
      DestructorMove s { s with
        stopRequested := true, destructor := .setWake, due := s.pushed.filter (s.PostReturned ·) }
  | setWake (pc : s.destructor = .setWake) : DestructorMove s { s with destructor := .join }
  | join (pc : s.destructor = .join) : DestructorMove s { s with destructor := .joined }

theorem destructorStep_move (h : s.destructorStep = some t) : DestructorMove s t := by
  unfold destructorStep at h
  cases hPc : s.destructor with
  | joined => simp [hPc] at h
  | requestStop =>
      simp only [hPc] at h
      cases h
      exact .requestStop hPc
  | setWake =>
      simp only [hPc] at h
      cases h
      exact .setWake hPc
  | join =>
      simp only [hPc] at h
      split_ifs at h
      cases h
      exact .join hPc

theorem setCall_calls (s : EngineThread) (call other : Nat) (pc : PostPc) :
    (s.setCall call pc).calls other = if other = call then pc else s.calls other := by
  exact Function.update_apply _ _ _ _

theorem setCall_self (s : EngineThread) (call : Nat) (pc : PostPc) :
    (s.setCall call pc).calls call = pc := by
  rw [setCall_calls, if_pos rfl]

theorem setCall_other (s : EngineThread) {call other : Nat} (pc : PostPc) (h : other ≠ call) :
    (s.setCall call pc).calls other = s.calls other := by
  rw [setCall_calls, if_neg h]

/-- A call changes only its own place and, in a push, the end of the queue. -/
theorem Queued.callMove {call : Nat} (h : s.Queued) (hMove : CallMove s call t) : t.Queued := by
  cases hMove with
  | @pushed invoked pc =>
      have hFresh : call ∉ s.pushed := fun hPushed => by
        have := h.calls call hPushed
        simp [pc, hasPushed] at this
      constructor
      case order =>
          show s.pushed ++ [call] = s.ran ++ inHand s.run ++ (s.tasks ++ [call])
          rw [h.order, List.append_assoc _ s.tasks]
      case nodup =>
          exact List.nodup_append.mpr ⟨h.nodup, by simp, by
            rintro other hOther _ hCall rfl
            exact hFresh (List.mem_singleton.mp hCall ▸ hOther)⟩
      case calls =>
          intro other hOther
          by_cases hSame : other = call
          · rw [hSame, setCall_self]
            rfl
          · rw [setCall_other _ _ hSame]
            have hOld : other ∈ s.pushed := by
              have hNew : other ∈ s.pushed ++ [call] := hOther
              simpa [hSame] using hNew
            exact h.calls other hOld
      case due =>
          intro other hDue
          obtain ⟨hPushed, hReturned⟩ := h.due other hDue
          have hOther : other ≠ call := fun hSame => hFresh (hSame ▸ hPushed)
          refine ⟨List.mem_append_left _ hPushed, ?_⟩
          rwa [PostReturned, setCall_other _ _ hOther]
      case stop => exact h.stop
      case returned => exact h.returned
  | @quiet pc pushed returned =>
      constructor
      case order => exact h.order
      case nodup => exact h.nodup
      case calls =>
          intro other hOther
          by_cases hSame : other = call
          · rw [hSame] at hOther ⊢
            rw [setCall_self]
            exact pushed (h.calls call hOther)
          · rw [setCall_other _ _ hSame]
            exact h.calls other hOther
      case due =>
          intro other hDue
          obtain ⟨hPushed, hReturned⟩ := h.due other hDue
          refine ⟨hPushed, ?_⟩
          by_cases hSame : other = call
          · rw [hSame] at hReturned ⊢
            rw [PostReturned, setCall_self]
            exact returned hReturned
          · rwa [PostReturned, setCall_other _ _ hSame]
      case stop => exact h.stop
      case returned => exact h.returned

/-- A step of `Run` moves the first task on, or only `Run` itself. -/
theorem Queued.runMove (h : s.Queued) (hMove : RunMove s t) : t.Queued := by
  have hOrder := h.order
  cases hMove with
  | foundNone pc tasks =>
      rw [pc] at hOrder
      exact { h with order := hOrder, returned := nofun }
  | foundTask pc tasks =>
      refine { h with order := ?_, returned := nofun }
      rw [hOrder, pc, tasks]
      simp [inHand]
  | ran pc =>
      refine { h with order := ?_, returned := nofun }
      rw [hOrder, pc]
      simp [inHand]
  | leaves pc stop =>
      rw [pc] at hOrder
      exact { h with order := hOrder, returned := fun _ => stop }
  | stays pc | ticked pc | woken pc =>
      rw [pc] at hOrder
      exact { h with order := hOrder, returned := nofun }

theorem Queued.destructorMove (h : s.Queued) (hMove : DestructorMove s t) : t.Queued := by
  cases hMove with
  | requestStop pc =>
      refine { h with due := ?_, stop := by simp, returned := fun _ => rfl }
      intro call hDue
      have hMem := List.mem_filter.mp hDue
      exact ⟨hMem.1, of_decide_eq_true hMem.2⟩
  | setWake pc | join pc =>
      have hStop : s.stopRequested ≠ false := fun hStop => by simp [h.stop.mp hStop] at pc
      exact { h with stop := by simp [hStop] }

/-- A call from its start on is a quiet move. -/
theorem step_cases {action : Action} (hStep : s.step action = some t) :
    (∃ call, action ≠ .destructor ∧ CallMove s call t) ∨ (action = .run ∧ RunMove s t) ∨
      (action = .destructor ∧ DestructorMove s t) := by
  cases action with
  | callPost call =>
      simp only [step] at hStep
      split_ifs at hStep with hPc
      cases hStep
      exact Or.inl ⟨call, nofun, .quiet (by simp [hPc, hasPushed]) (by simp [PostReturned, hPc])⟩
  | callInvoke call =>
      simp only [step] at hStep
      split_ifs at hStep with hPc
      cases hStep
      exact Or.inl ⟨call, nofun, .quiet (by simp [hPc, hasPushed]) (by simp [PostReturned, hPc])⟩
  | call call eventFailed => exact Or.inl ⟨call, nofun, callStep_move hStep⟩
  | run => exact Or.inr (Or.inl ⟨rfl, runStep_move hStep⟩)
  | destructor => exact Or.inr (Or.inr ⟨rfl, destructorStep_move hStep⟩)

theorem Queued.step {action : Action} (h : s.Queued) (hStep : s.step action = some t) : t.Queued := by
  rcases step_cases hStep with ⟨call, -, hMove⟩ | ⟨-, hRun⟩ | ⟨-, hDestructor⟩
  · exact h.callMove hMove
  · exact h.runMove hRun
  · exact h.destructorMove hDestructor

/-- What a call pushes late is not due. -/
theorem clean_callMove {call : Nat} (h : s.Queued) (hMove : CallMove s call t) : t.Clean ↔ s.Clean := by
  cases hMove with
  | quiet => exact Iff.rfl
  | @pushed invoked pc =>
      have hNotDue : call ∉ s.due := fun hDue => by
        have hReturned := (h.due call hDue).2
        simp [PostReturned, pc] at hReturned
      have hSame (other : Nat) (hDue : other ∈ s.due) : other ∈ s.tasks ++ [call] ↔ other ∈ s.tasks := by
        have hOther : other ≠ call := fun hSame => hNotDue (hSame ▸ hDue)
        simp [hOther]
      constructor
      · intro hClean hStop hPast other hDue hTask
        exact hClean hStop hPast other hDue ((hSame other hDue).mpr hTask)
      · intro hClean hStop hPast other hDue hTask
        exact hClean hStop hPast other hDue ((hSame other hDue).mp hTask)

/-- `Run` reaches the stop check with an empty queue, and drops nothing after. -/
theorem clean_runMove (hMove : RunMove s t) : t.Clean ↔ s.Clean := by
  cases hMove with
  | foundNone pc tasks => simp [Clean, pc, tasks]
  | foundTask pc | ran pc | ticked pc | woken pc => simp [Clean, pc]
  | leaves pc stop => simp [Clean, pc, stop]
  | stays pc stop => simp [Clean, stop]

/-- Only the request itself can leave a due task behind. -/
theorem clean_destructorMove (h : s.Queued) (hMove : DestructorMove s t) :
    t.Clean ↔ s.Clean ∧ StopsInTime (s, .destructor) := by
  cases hMove with
  | setWake pc | join pc => simp [Clean, StopsInTime, pc]
  | requestStop pc =>
      have hStop : s.stopRequested = false := h.stop.mpr pc
      have hRunning : s.run ≠ .returned := fun hReturned => by
        simp [h.returned hReturned] at hStop
      have hPushed (call : Nat) (hTask : call ∈ s.tasks) : call ∈ s.pushed := by
        rw [h.order]
        exact List.mem_append_right _ hTask
      have hClean : s.Clean := fun hRequested => by simp [hStop] at hRequested
      rw [and_iff_right hClean]
      constructor
      · intro hAfter _ _ hCheck call hTask hReturned
        refine hAfter rfl (Or.inl hCheck) call ?_ hTask
        exact List.mem_filter.mpr ⟨hPushed call hTask, decide_eq_true hReturned⟩
      · intro hInTime _ hPast call hDue hTask
        have hCheck : s.run = .checkStop := hPast.resolve_right hRunning
        exact hInTime rfl pc hCheck call hTask (of_decide_eq_true (List.mem_filter.mp hDue).2)

theorem clean_step {action : Action} (h : s.Queued) (hStep : s.step action = some t) :
    t.Clean ↔ s.Clean ∧ StopsInTime (s, action) := by
  rcases step_cases hStep with ⟨call, hAction, hMove⟩ | ⟨rfl, hRun⟩ | ⟨rfl, hDestructor⟩
  · have hInTime : StopsInTime (s, action) := fun hDestructor => absurd hDestructor hAction
    rw [clean_callMove h hMove, and_iff_left hInTime]
  · have hInTime : StopsInTime (s, .run) := nofun
    rw [clean_runMove hRun, and_iff_left hInTime]
  · exact clean_destructorMove h hDestructor

end Steps

/-- Before any call. -/
def initial : EngineThread := {}

theorem queued_initial : Queued initial where
  order := rfl
  nodup := List.nodup_nil
  calls := nofun
  due := nofun
  stop := by simp [initial]
  returned := nofun

/-- What is promised of the queue: its order, nothing twice, and when `Run` has
returned, everything that was accepted before the stop was requested. -/
structure RunsAcceptedWork (s : EngineThread) : Prop where
  in_order : s.ran <+: s.pushed
  once : s.pushed.Nodup
  complete : s.run = .returned → ∀ call ∈ s.due, call ∈ s.ran

/-- In a state where `Run` has returned, a due task has been run exactly if it
is not left in the queue. -/
theorem Queued.complete_iff {s : EngineThread} (h : s.Queued) (hReturned : s.run = .returned) :
    (∀ call ∈ s.due, call ∈ s.ran) ↔ s.Clean := by
  have hOrder := h.order
  rw [hReturned] at hOrder
  replace hOrder : s.pushed = s.ran ++ s.tasks := by simpa [inHand] using hOrder
  have hNodup := h.nodup
  rw [hOrder] at hNodup
  constructor
  · intro hRan _ _ call hDue hTask
    exact (List.nodup_append.mp hNodup).2.2 call (hRan call hDue) call hTask rfl
  · intro hClean call hDue
    have hPushed := (h.due call hDue).1
    rw [hOrder, List.mem_append] at hPushed
    exact hPushed.resolve_right (hClean (h.returned hReturned) (Or.inr hReturned) call hDue)

/-- Tasks are run in order and once in every run, and all accepted work is run
exactly if the stop comes in time. -/
theorem runs_accepted_work_iff {log : List (EngineThread × Action)} {s : EngineThread}
    (run : Runs step initial log s) :
    s.RunsAcceptedWork ↔ (s.run = .returned → ∀ entry ∈ log, StopsInTime entry) := by
  have hQueued : s.Queued := run.invariant Queued queued_initial fun _ _ _ h hStep => h.step hStep
  have hClean : s.Clean ↔ ∀ entry ∈ log, StopsInTime entry :=
    run.good_iff Queued Clean StopsInTime queued_initial (fun _ _ _ h hStep => h.step hStep) nofun
      fun _ _ _ h hStep => clean_step h hStep
  constructor
  · intro h hReturned
    rw [← hClean, ← hQueued.complete_iff hReturned]
    exact h.complete hReturned
  · intro h
    refine ⟨?_, hQueued.nodup, fun hReturned => ?_⟩
    · rw [hQueued.order, List.append_assoc]
      exact List.prefix_append _ _
    · rw [hQueued.complete_iff hReturned, hClean]
      exact h hReturned

/-- A task is queued and its `Post` returns before the stop is requested, and
the task is run. -/
theorem runs_accepted_work_one :
    ∃ log s, Runs step initial log s ∧ s.run = .returned ∧ s.due = [7] ∧ s.ran = [7] ∧
      (s.RunsAcceptedWork ↔ (s.run = .returned → ∀ entry ∈ log, StopsInTime entry)) := by
  obtain ⟨log, s, run, hTest⟩ := exec_witness step initial
    ([.callPost 7] ++ List.replicate 3 (.call 7 false) ++ [.destructor] ++ List.replicate 4 .run)
    (fun _ s => s.run == .returned && s.due == [7] && s.ran == [7]) (by decide)
  simp only [Bool.and_eq_true, beq_iff_eq] at hTest
  exact ⟨log, s, run, hTest.1.1, hTest.1.2, hTest.2, runs_accepted_work_iff run⟩

/-- `Run` finds the queue empty; a task is posted and its `Post` returns; the
stop is requested; `Run` sees it and returns. -/
theorem posted_task_never_run :
    ∃ log s, Runs step initial log s ∧ s.run = .returned ∧ s.due = [7] ∧ s.ran = [] ∧
      ¬ s.RunsAcceptedWork := by
  obtain ⟨log, s, run, hTest⟩ := exec_witness step initial
    ([.run, .callPost 7] ++ List.replicate 3 (.call 7 false) ++ [.destructor, .run])
    (fun _ s => s.run == .returned && s.due == [7] && s.ran == []) (by decide)
  simp only [Bool.and_eq_true, beq_iff_eq] at hTest
  obtain ⟨⟨hReturned, hDue⟩, hRan⟩ := hTest
  refine ⟨log, s, run, hReturned, hDue, hRan, fun h => ?_⟩
  have hMem := h.complete hReturned 7 (by simp [hDue])
  simp [hRan] at hMem

end WinDV.EngineThread
