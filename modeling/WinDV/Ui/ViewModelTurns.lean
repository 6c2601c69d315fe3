import WinDV.Ui.MainViewModel

/-! What the tasks of the window keep, whatever the order of their turns and whatever the
engine answers. -/
namespace WinDV

open Cooperative ViewTask

/-- A stop that is announced: the others are plain from the status text. -/
def StopReason.isAnnounced : StopReason → Bool
  | signalLost | diskFull => true
  | _ => false

/-- What is announced when a state is seen after another: that the engine has finished, when
it had not before. -/
def announcement (last state : EngineState) (reason : StopReason) : List StopReason :=
  if state = .finished && last ≠ .finished && reason.isAnnounced then [reason] else []

theorem stopMessage_isSome (settings : Settings) (reason : StopReason) :
    (stopMessage settings reason).isSome = reason.isAnnounced := by
  cases reason with
  | signalLost => rfl
  | diskFull => rfl
  | _ => rfl

/-- The announcements that belong to the states seen one after the other. -/
def announcements : EngineState → List (EngineState × StopReason) → List StopReason
  | _, [] => []
  | last, (state, reason) :: rest => announcement last state reason ++ announcements state rest

/-- The state that was seen last. -/
def lastSeen (start : EngineState) (observed : List (EngineState × StopReason)) : EngineState :=
  (observed.getLast?.map Prod.fst).getD start

theorem lastSeen_concat (start : EngineState) (observed : List (EngineState × StopReason))
    (seen : EngineState × StopReason) : lastSeen start (observed ++ [seen]) = seen.1 := by
  simp [lastSeen]

theorem lastSeen_cons (start : EngineState) (seen : EngineState × StopReason)
    (rest : List (EngineState × StopReason)) : lastSeen start (seen :: rest) = lastSeen seen.1 rest := by
  cases h : rest.getLast? with
  | none => simp [lastSeen, List.getLast?_cons, h]
  | some last => simp [lastSeen, List.getLast?_cons, h]

theorem announcements_concat (start : EngineState) (observed : List (EngineState × StopReason))
    (state : EngineState) (reason : StopReason) :
    announcements start (observed ++ [(state, reason)]) =
      announcements start observed ++ announcement (lastSeen start observed) state reason := by
  induction observed generalizing start with
  | nil => simp [announcements, lastSeen]
  | cons seen rest ih =>
      obtain ⟨first, why⟩ := seen
      rw [List.cons_append, announcements, ih, announcements, lastSeen_cons, List.append_assoc]

/-- What holds of the window whenever another task may have its turn. -/
structure ViewInvariant (locked : Bool) (v : ViewModel) : Prop where
  busy : v.isBusy = locked
  disposed : v.disposed = true → v.attached = false
  announced : v.announced = announcements .idle v.observed
  lastState : v.lastState = lastSeen .idle v.observed
  closeRequests : v.closeRequests + v.exitOnFinish.toNat ≤ v.exitRuns
  overflowed : v.overflowed = false

/-- A call with arguments that are there, and a pipeline that is built with the options of the
settings as they are. -/
def ViewModel.Proper (v : ViewModel) : EngineCall → Prop
  | .buildCapture device =>
      v.options = some v.currentOptions ∧ device = v.captureDevice ∧ isNullOrWhiteSpace device = false
  | .buildRecord files device =>
      v.options = some v.currentOptions ∧ device = v.recordDevice ∧
        buildRecordList v.settings.aviPrefix v.recordFiles v.settings.aviSuffix device = .ok files
  | .captureStart fileBase dateFormat suffixDigits _ =>
      fileBase ≠ [] ∧ (∃ file, fileBase = stringTrim file) ∧
        dateFormat = v.settings.dateTimeFormat ∧ suffixDigits = v.settings.suffixDigits
  | _ => True

/-- A call that is made by one task at a time. The list of devices is read at any time. The
deck is stopped when the window closes, whoever has `_busy`; with that call goes the one of the
Stop button, which is the same and which only a task with `_busy` makes. -/
def EngineCall.isExclusive : EngineCall → Bool
  | listDevices => false
  | transport .stop => false
  | _ => true

/-- The engine is there. -/
def ViewModel.HasEngine (v : ViewModel) : Prop := v.attached = true ∧ v.disposed = false

def viewContract : Contract ViewModel EngineCall where
  invariant := ViewInvariant
  readable := ViewModel.HasEngine
  allowed c v := v.HasEngine ∧ v.Proper c
  exclusive := EngineCall.isExclusive

namespace ViewTask

variable {α β : Type}

/-- A condition at the end of a part of a task: the invariant holds, and the lock is where it
was. -/
def Back (holds : Bool) (_ : Except EngineException α) (now locked : Bool) (v : ViewModel) : Prop :=
  now = holds ∧ (holds = true → locked = true) ∧ ViewInvariant locked v

/-- A part of a task that can be run wherever the invariant holds. -/
def Steady (holds : Bool) (task : ViewTask α) : Prop :=
  ∀ locked v, (holds = true → locked = true) → ViewInvariant locked v →
    viewContract.Safe (Back holds) holds locked v task

section Rules

variable {holds : Bool} {task : ViewTask α}

theorem steady_done (result : α) : Steady holds (.done result : ViewTask α) :=
  fun _ _ hLock hInv => ⟨rfl, hLock, hInv⟩

theorem steady_fail (e : EngineException) : Steady holds (.fail e : ViewTask α) :=
  fun _ _ hLock hInv => ⟨rfl, hLock, hInv⟩

theorem Steady.bind {next : α → ViewTask β} (h : Steady holds task) (hNext : ∀ result, Steady holds (next result)) :
    Steady holds (task >>= next) := by
  intro locked v hLock hInv
  apply (h locked v hLock hInv).bind
  · rintro result now lock later ⟨rfl, hLater, hInv⟩
    exact hNext result lock later hLater hInv
  · rintro e now lock later hBack
    exact hBack

theorem Steady.catching {handler : EngineException → ViewTask α} (h : Steady holds task)
    (hHandler : ∀ e, Steady holds (handler e)) : Steady holds (task.catching handler) := by
  intro locked v hLock hInv
  apply (h locked v hLock hInv).catching
  · rintro result now lock later hBack
    exact hBack
  · rintro e now lock later ⟨rfl, hLater, hInv⟩
    exact hHandler e lock later hLater hInv

theorem steady_look {next : ViewModel → ViewTask α} (h : ∀ v, Steady holds (next v)) :
    Steady holds (look >>= next) :=
  fun locked v hLock hInv => h v locked v hLock hInv

theorem steady_change {f : ViewModel → ViewModel} (h : ∀ locked v, ViewInvariant locked v → ViewInvariant locked (f v)) :
    Steady holds (change f) :=
  fun locked v hLock hInv => ⟨rfl, hLock, h locked v hInv⟩

theorem onlyIf_safe {condition : Bool} {task : ViewTask Unit} {locked : Bool} {v : ViewModel}
    (hLock : holds = true → locked = true) (hInv : ViewInvariant locked v)
    (h : condition = true → viewContract.Safe (Back holds) holds locked v task) :
    viewContract.Safe (Back holds) holds locked v (onlyIf condition task) := by
  cases condition with
  | true => exact h rfl
  | false => exact ⟨rfl, hLock, hInv⟩

theorem Steady.onlyIf {condition : Bool} {task : ViewTask Unit}
    (h : condition = true → Steady holds task) : Steady holds (onlyIf condition task) :=
  fun locked v hLock hInv => onlyIf_safe hLock hInv fun hCondition => h hCondition locked v hLock hInv

theorem Steady.ite {condition : Prop} [Decidable condition] {first second : ViewTask α}
    (hFirst : condition → Steady holds first) (hSecond : ¬ condition → Steady holds second) :
    Steady holds (if condition then first else second) := by
  by_cases h : condition
  · rw [if_pos h]
    exact hFirst h
  · rw [if_neg h]
    exact hSecond h

theorem steady_fork (event : ViewEvent) : Steady holds (fork event) :=
  fun _ _ _ hInv => ⟨hInv, fun _ _ hLater hInv => ⟨rfl, hLater, hInv⟩⟩

end Rules

/-- A request to close is one of a run with `-exit`, and the only one of it. -/
theorem closeWhenFinished_steady {holds : Bool} (s : EngineStatus) : Steady holds (closeWhenFinished s) := by
  intro locked v hLock hInv
  apply onlyIf_safe hLock hInv
  intro hFinished
  have hExit : v.exitOnFinish = true := (Bool.and_eq_true_iff.mp hFinished).2
  have hClosed : ViewInvariant locked { v with exitOnFinish := false, closeRequests := v.closeRequests + 1 } := by
    have hRequests := hInv.closeRequests
    rw [hExit] at hRequests
    exact { hInv with closeRequests := hRequests }
  exact ⟨hClosed, fun lock later hLater hInv => ⟨rfl, hLater, hInv⟩⟩

/-- A status that is seen is announced, if it is one of a stop that is new. -/
theorem noteStatus_safe {holds locked : Bool} {v : ViewModel} {update : ViewTask Unit} (s : EngineStatus)
    (hLock : holds = true → locked = true) (hInv : ViewInvariant locked v)
    (hUpdate : v.lastState ≠ .finished → ∀ later, ViewInvariant locked later → later.lastState = .finished →
      viewContract.Safe (Back holds) holds locked later update) :
    viewContract.Safe (Back holds) holds locked v (noteStatusThen update s) := by
  have hSeen : ViewInvariant locked { v.takeStatus s with
      lastState := s.state
      announced := v.announced ++ announcement v.lastState s.state s.stopReason } := by
    refine { hInv with announced := ?_, lastState := ?_ }
    · show _ = announcements .idle (v.observed ++ [(s.state, s.stopReason)])
      rw [announcements_concat, ← hInv.announced, ← hInv.lastState]
    · show _ = lastSeen .idle (v.observed ++ [(s.state, s.stopReason)])
      rw [lastSeen_concat]
  show viewContract.Safe (Back holds) holds locked { v.takeStatus s with lastState := s.state }
    (onlyIf (s.state = .finished && v.lastState ≠ .finished) (announceStopThen update s.stopReason))
  rw [onlyIf]
  split_ifs with hNew
  · have hOther : v.lastState ≠ .finished := by
      simpa using (Bool.and_eq_true_iff.mp hNew).2
    have hFinished : s.state = .finished := by
      simpa using (Bool.and_eq_true_iff.mp hNew).1
    show viewContract.Safe (Back holds) holds locked { v.takeStatus s with lastState := s.state }
      (announceThen update s.stopReason (stopMessage v.settings s.stopReason))
    have hSome := stopMessage_isSome v.settings s.stopReason
    rw [announcement, hNew, Bool.true_and] at hSeen
    cases hMessage : stopMessage v.settings s.stopReason with
    | none =>
        rw [hMessage] at hSome
        rw [← hSome, Option.isSome_none, if_neg Bool.false_ne_true, List.append_nil] at hSeen
        exact ⟨rfl, hLock, hSeen⟩
    | some message =>
        rw [hMessage] at hSome
        rw [← hSome, Option.isSome_some, if_pos rfl] at hSeen
        exact hUpdate hOther _ { hSeen with } hFinished
  · rw [announcement, Bool.eq_false_of_not_eq_true hNew, Bool.false_and, if_neg Bool.false_ne_true,
      List.append_nil] at hSeen
    exact ⟨rfl, hLock, hSeen⟩

/-- The engine a task finds is there. -/
theorem hasEngine {locked : Bool} {v : ViewModel} (hInv : ViewInvariant locked v) (hAttached : v.attached = true) :
    v.HasEngine := by
  refine ⟨hAttached, ?_⟩
  cases hDisposed : v.disposed with
  | false => rfl
  | true =>
      rw [hInv.disposed hDisposed] at hAttached
      cases hAttached

theorem updateStatusThen_safe {holds locked : Bool} {v : ViewModel} {update : ViewTask Unit}
    (hLock : holds = true → locked = true) (hInv : ViewInvariant locked v)
    (hUpdate : v.lastState ≠ .finished → ∀ later, ViewInvariant locked later → later.lastState = .finished →
      viewContract.Safe (Back holds) holds locked later update) :
    viewContract.Safe (Back holds) holds locked v (updateStatusThen update) := by
  apply onlyIf_safe hLock hInv
  intro hAttached
  refine ⟨hasEngine hInv hAttached, fun s => ?_⟩
  apply (noteStatus_safe s hLock hInv hUpdate).bind
  · rintro result now lock later ⟨rfl, hLater, hInv⟩
    exact closeWhenFinished_steady s lock later hLater hInv
  · exact fun _ _ _ _ hBack => hBack

/-- `UpdateStatus` calls itself at most once over. -/
theorem updateStatus_steady {holds : Bool} : Steady holds updateStatus := by
  intro locked v hLock hInv
  apply updateStatusThen_safe hLock hInv
  intro _ later hLater hSeen
  apply updateStatusThen_safe hLock hLater
  intro hOther
  exact absurd hSeen hOther

theorem showMessage_steady {holds : Bool} (title message : WString) : Steady holds (showMessage title message) := by
  apply Steady.bind
  · exact steady_change fun _ _ hInv => { hInv with }
  · exact fun _ => updateStatus_steady

/-- A call of the engine, if there is one. -/
theorem call_safe {holds locked : Bool} {v : ViewModel} {c : EngineCall} (hLock : holds = true → locked = true)
    (hInv : ViewInvariant locked v) (hProper : v.attached = true → v.Proper c)
    (hHolds : c.isExclusive = true → holds = true) :
    viewContract.Safe (Back holds) holds locked v (call c) := by
  show viewContract.Safe (Back holds) holds locked v
    ((if v.attached then .done () else .fail _ : ViewTask Unit).bind fun _ => await c)
  split_ifs with hAttached
  · refine ⟨hInv, ⟨hasEngine hInv hAttached, hProper hAttached⟩, hHolds, ?_⟩
    intro reply lock later hLater hInv
    cases reply with
    | ok result => exact ⟨rfl, hLater, hInv⟩
    | error e => exact ⟨rfl, hLater, hInv⟩
  · exact ⟨rfl, hLock, hInv⟩

theorem call_steady {c : EngineCall} (hProper : ∀ v : ViewModel, v.Proper c) : Steady true (call c) :=
  fun _ v hLock hInv => call_safe hLock hInv (fun _ => hProper v) fun _ => rfl

theorem applyOptions_keeps {locked : Bool} {v : ViewModel} (hInv : ViewInvariant locked v) :
    ViewInvariant locked v.applyOptions := by
  rw [ViewModel.applyOptions]
  split_ifs with hAttached
  · exact { hInv with }
  · exact hInv

theorem applyOptions_current {v : ViewModel} (hAttached : v.applyOptions.attached = true) :
    v.applyOptions.options = some v.applyOptions.currentOptions := by
  rw [ViewModel.applyOptions] at hAttached ⊢
  split_ifs with hEngine
  · rfl
  · rw [if_neg hEngine] at hAttached
    exact absurd hAttached hEngine

/-- The options are applied, and the pipeline is built with them. -/
theorem buildCapture_steady : Steady true buildCapture := by
  intro locked v hLock hInv
  show viewContract.Safe (Back true) true locked v.applyOptions
    (if isNullOrWhiteSpace v.applyOptions.captureDevice then .fail _
      else call (.buildCapture v.applyOptions.captureDevice))
  have hApplied := applyOptions_keeps hInv
  split_ifs with hBlank
  · exact ⟨rfl, hLock, hApplied⟩
  · apply call_safe hLock hApplied _ fun _ => rfl
    intro hAttached
    exact ⟨applyOptions_current hAttached, rfl, by simpa using hBlank⟩

theorem buildRecord_steady : Steady true buildRecord := by
  intro locked v hLock hInv
  have hApplied := applyOptions_keeps hInv
  have hList : ∀ list, buildRecordList v.applyOptions.settings.aviPrefix v.applyOptions.recordFiles
        v.applyOptions.settings.aviSuffix v.applyOptions.recordDevice = list →
      viewContract.Safe (Back true) true locked v.applyOptions (buildRecordWith v.applyOptions.recordDevice list) := by
    intro list hList
    cases list with
    | error message => exact ⟨rfl, hLock, hApplied⟩
    | ok files =>
        apply call_safe (c := .buildRecord files _) hLock hApplied _ fun _ => rfl
        intro hAttached
        exact ⟨applyOptions_current hAttached, rfl, hList⟩
  exact hList _ rfl

/-- Nothing is asked of an engine that is gone. -/
theorem engineStatus_steady {holds : Bool} {next : EngineStatus → ViewTask Unit}
    (hNext : ∀ s, Steady holds (next s)) : Steady holds (engine >>= fun _ => getStatus >>= next) := by
  intro locked v hLock hInv
  show viewContract.Safe (Back holds) holds locked v
    ((if v.attached then .done () else .fail _ : ViewTask Unit).bind fun _ => getStatus >>= next)
  split_ifs with hAttached
  · exact ⟨hasEngine hInv hAttached, fun s => hNext s locked v hLock hInv⟩
  · exact ⟨rfl, hLock, hInv⟩

theorem startTape_steady : Steady true startTape := by
  apply steady_look
  intro v
  apply Steady.onlyIf
  intro _
  apply engineStatus_steady
  intro s
  apply Steady.onlyIf
  intro _
  apply engineStatus_steady
  intro s
  apply Steady.onlyIf
  intro _
  exact call_steady (c := .transport .play) fun _ => trivial

theorem startCapture_steady (duration : Int64) : Steady true (startCapture duration) := by
  apply steady_look
  intro v
  apply Steady.ite
  · exact fun _ => steady_fail _
  intro hSome
  apply startTape_steady.bind
  intro _ locked v' hLock hInv
  apply call_safe (c := .captureStart _ _ _ duration) hLock hInv _ fun _ => rfl
  intro _
  exact ⟨fun hNil => hSome (by rw [hNil]; rfl), ⟨_, rfl⟩, rfl, rfl⟩

theorem initTool_steady (tool : Tool) : Steady true (initTool tool) := by
  cases tool with
  | capture =>
      apply buildCapture_steady.catching
      intro e
      apply Steady.ite
      · exact fun _ => steady_change fun _ _ hInv => { hInv with }
      · exact fun _ => steady_fail e
  | record => exact call_steady (c := .reset) fun _ => trivial

theorem initPipeline_steady : Steady true initPipeline := by
  apply Steady.bind
  · apply steady_change
    intro locked v hInv
    exact { hInv with closeRequests := le_trans (Nat.le_add_right _ _) hInv.closeRequests }
  intro _
  apply steady_look
  intro v
  apply (initTool_steady v.selectedTool).bind
  exact fun _ => updateStatus_steady

theorem recover_steady (resetOnError : Bool) (e : EngineException) : Steady true (recover resetOnError e) := by
  apply Steady.bind
  · apply Steady.onlyIf
    intro _
    exact initPipeline_steady.catching fun _ => steady_done ()
  · exact fun _ => showMessage_steady _ _

/-- What a task does with `_busy` keeps the contract when its action does, however that ends. -/
theorem run_steady {action : ViewTask Unit} (hAction : Steady true action) (resetOnError : Bool) :
    Steady false (run action resetOnError) := by
  apply steady_look
  intro v
  apply Steady.onlyIf
  intro _ locked v _ hInv
  refine ⟨rfl, hInv, fun later hLater => ?_⟩
  have hBusy : ViewInvariant true { later with isBusy := true } := { hLater with busy := rfl }
  have hBody : Steady true (((do change ViewModel.dismissError; action : ViewTask Unit)).catching
      (recover resetOnError)) := by
    apply Steady.catching
    · apply Steady.bind
      · exact steady_change fun _ _ hInv => { hInv with }
      · exact fun _ => hAction
    · exact recover_steady resetOnError
  apply (hBody true _ (fun _ => rfl) hBusy).finishing
  rintro result now lock v ⟨rfl, -, hInv⟩
  have hFree : ViewInvariant false { v with isBusy := false } := { hInv with busy := rfl }
  have hUpdate : Steady false updateStatus := updateStatus_steady
  refine ⟨rfl, ?_⟩
  show viewContract.Safe (Back false) false false { v with isBusy := false }
    (updateStatus.bind fun _ => Dialogue.ofExcept result)
  apply (hUpdate false _ nofun hFree).bind
  · rintro _ now lock v ⟨rfl, -, hInv⟩
    cases result with
    | ok _ => exact ⟨rfl, nofun, hInv⟩
    | error e => exact ⟨rfl, nofun, hInv⟩
  · exact fun _ _ _ _ hBack => hBack

theorem playRecord_steady (state : EngineState) : Steady true (playRecord state) := by
  have hStart : Steady true (call .recordStart) := call_steady (c := .recordStart) fun _ => trivial
  have hBuild : Steady true (buildRecord >>= fun _ => call .recordStart) :=
    buildRecord_steady.bind fun _ => hStart
  cases state with
  | recordPaused => exact hStart
  | recording => exact steady_done ()
  | _ => exact hBuild

theorem pauseRecord_steady (state : EngineState) : Steady true (pauseRecord state) := by
  cases state with
  | recording => exact call_steady (c := .recordStop) fun _ => trivial
  | recordPaused => exact call_steady (c := .recordStart) fun _ => trivial
  | _ => exact buildRecord_steady

theorem transport_steady (command : DeckCommand) : Steady true (call (.transport command)) :=
  call_steady (c := .transport command) fun _ => trivial

theorem captureStop_steady : Steady true (call .captureStop) :=
  call_steady (c := .captureStop) fun _ => trivial

/-- The buttons. -/
theorem play_steady : Steady false play := by
  apply run_steady
  apply steady_look
  intro v
  apply Steady.ite
  · exact fun _ => transport_steady .play
  · exact fun _ => playRecord_steady v.status.state

theorem pause_steady : Steady false pause := by
  apply run_steady
  apply steady_look
  intro v
  apply Steady.ite
  · exact fun _ => transport_steady .pause
  · exact fun _ => pauseRecord_steady v.status.state

theorem stop_steady : Steady false stop := by
  apply run_steady
  apply steady_look
  intro v
  apply Steady.ite
  · intro _
    apply Steady.bind
    · exact Steady.onlyIf fun _ => captureStop_steady
    · exact fun _ => transport_steady .stop
  · exact fun _ => initPipeline_steady

theorem rec_steady : Steady false ViewTask.rec := by
  apply run_steady
  apply steady_look
  intro v
  apply Steady.ite
  · exact fun _ => captureStop_steady
  · intro _
    apply Steady.bind
    · exact Steady.onlyIf fun _ => buildCapture_steady
    · exact fun _ => startCapture_steady 0

/-- A call that is made without `_busy`. -/
theorem await_safe {holds : Bool} {c : EngineCall} (hOther : c.isExclusive = false) {locked : Bool} {v : ViewModel}
    (hInv : ViewInvariant locked v) (hEngine : v.HasEngine) (hProper : v.Proper c) :
    viewContract.Safe (Back holds) holds locked v (await c) := by
  refine ⟨hInv, ⟨hEngine, hProper⟩, ?_, ?_⟩
  · intro hExclusive
    rw [show viewContract.exclusive c = c.isExclusive from rfl, hOther] at hExclusive
    cases hExclusive
  · intro reply lock later hLater hInv
    cases reply with
    | ok result => exact ⟨rfl, hLater, hInv⟩
    | error e => exact ⟨rfl, hLater, hInv⟩

theorem devicesListed_steady {holds : Bool} (answer : Except EngineException (List WString)) :
    Steady holds (devicesListed answer) := by
  cases answer with
  | error e => exact showMessage_steady _ _
  | ok devices => exact steady_change fun _ _ hInv => { hInv with }

theorem refreshDevices_steady : Steady false refreshDevices := by
  intro locked v hLock hInv
  apply onlyIf_safe hLock hInv
  intro hAttached
  have hList : viewContract.Safe (Back false) false locked v (await .listDevices) :=
    await_safe rfl hInv (hasEngine hInv hAttached) trivial
  have hAnswer : viewContract.Safe (Back false) false locked v (await .listDevices).attempt :=
    hList.attempt fun _ _ _ _ hBack => hBack
  apply hAnswer.bind
  · rintro answer now lock later ⟨rfl, hLater, hInv⟩
    exact devicesListed_steady answer lock later hLater hInv
  · exact fun _ _ _ _ hBack => hBack

theorem disconnect_steady (state : EngineState) : Steady false (disconnect state) := by
  apply Steady.bind
  · apply run_steady
    apply Steady.bind
    · exact Steady.onlyIf fun _ => captureStop_steady
    intro _
    apply Steady.bind
    · exact call_steady (c := .reset) fun _ => trivial
    · exact fun _ => steady_change fun _ _ hInv => { hInv with }
  · intro _
    apply steady_look
    intro v
    exact Steady.onlyIf fun _ => showMessage_steady _ _

theorem connect_steady (present : Bool) (state : EngineState) : Steady false (connect present state) := by
  apply steady_look
  intro v
  apply Steady.ite
  · exact fun _ => run_steady initPipeline_steady false
  · exact fun _ => Steady.onlyIf fun _ => disconnect_steady state

theorem devicesChanged_steady : Steady false devicesChanged := by
  apply steady_look
  intro before
  apply Steady.onlyIf
  intro _
  apply refreshDevices_steady.bind
  intro _
  apply steady_look
  intro v
  apply Steady.onlyIf
  intro _
  apply engineStatus_steady
  intro s
  exact connect_steady _ s.state

theorem withTool_keeps {locked : Bool} {v : ViewModel} (tool : Tool) (hInv : ViewInvariant locked v) :
    ViewInvariant locked (v.withTool tool) := by
  rw [ViewModel.withTool]
  split_ifs with hSame
  · exact hInv
  · exact { hInv with }

theorem beginRun_keeps {locked : Bool} {v : ViewModel} (commandLine : ParsedCommandLine) (tool : Tool)
    (hInv : ViewInvariant locked v) : ViewInvariant locked (v.beginRun commandLine tool) := by
  have hTool := withTool_keeps tool hInv
  have hSame : (v.withTool tool).closeRequests = v.closeRequests := by
    rw [ViewModel.withTool]
    split_ifs <;> rfl
  have hRequests : (v.withTool tool).closeRequests ≤ v.exitRuns := by
    rw [hSame]
    exact le_trans (Nat.le_add_right _ _) hInv.closeRequests
  exact { hTool with closeRequests := Nat.add_le_add_right hRequests _ }

theorem startJob_steady (commandLine : ParsedCommandLine) (mode : CommandLineMode) :
    Steady false (startJob commandLine mode) := by
  cases mode with
  | interactive => exact run_steady initPipeline_steady false
  | capture =>
      apply Steady.bind
      · exact steady_change fun _ _ hInv => { beginRun_keeps commandLine .capture hInv with }
      · exact fun _ => run_steady (buildCapture_steady.bind fun _ => startCapture_steady commandLine.duration) true
  | record =>
      apply Steady.bind
      · exact steady_change fun _ _ hInv => { beginRun_keeps commandLine .record hInv with }
      · exact fun _ => run_steady (buildRecord_steady.bind fun _ =>
          call_steady (c := .recordStart) fun _ => trivial) true

theorem selectTool_steady (tool : Tool) : Steady false (selectTool tool) := by
  apply steady_look
  intro v
  apply Steady.onlyIf
  intro _
  apply Steady.bind
  · exact steady_change fun _ _ hInv => withTool_keeps tool hInv
  · exact fun _ => Steady.onlyIf fun _ => steady_fork .initPipeline

theorem selectCaptureDevice_steady (device : WString) : Steady false (selectCaptureDevice device) := by
  apply steady_look
  intro v
  apply Steady.onlyIf
  intro _
  apply Steady.bind
  · exact steady_change fun _ _ hInv => { hInv with }
  · exact fun _ => Steady.onlyIf fun _ => steady_fork .initPipeline

theorem settingsSaved_steady (form : SettingsForm) : Steady false (settingsSaved form) := by
  apply steady_change
  intro locked v hInv
  cases (v.settings.saveClick form).toOption with
  | none => exact hInv
  | some settings => exact applyOptions_keeps { hInv with }

theorem shutdown_steady : Steady false shutdown := by
  intro locked v hLock hInv
  apply onlyIf_safe hLock hInv
  intro hControl
  have hAttached : v.attached = true := by
    simp only [Bool.and_eq_true] at hControl
    exact hControl.1.1.1
  have hStop : viewContract.Safe (Back false) false locked v (await (.transport .stop)) :=
    await_safe rfl hInv (hasEngine hInv hAttached) trivial
  apply hStop.catching
  · exact fun _ _ _ _ hBack => hBack
  · exact fun _ _ _ _ hBack => hBack

/-- The engine is let go of before it is disposed. -/
theorem closeWindow_steady : Steady false closeWindow := by
  apply steady_look
  intro v
  apply Steady.onlyIf
  intro _
  apply Steady.bind
  · exact steady_change fun _ _ hInv => { hInv with }
  intro _
  apply shutdown_steady.bind
  intro _ locked v hLock hInv
  exact ⟨rfl, hLock, { hInv with disposed := fun _ => rfl }⟩

end ViewTask

/-- Every task keeps the contract. -/
theorem view_kept : viewContract.Kept viewProgram := by
  intro event locked v hInv
  have hSteady : Steady false event.body := by
    cases event with
    | start commandLine => exact refreshDevices_steady.bind fun _ => startJob_steady commandLine commandLine.mode
    | initPipeline => exact run_steady initPipeline_steady false
    | playCommand => exact play_steady
    | pauseCommand => exact pause_steady
    | stopCommand => exact stop_steady
    | fastForwardCommand => exact run_steady (transport_steady .fastForward) true
    | rewindCommand => exact run_steady (transport_steady .rewind) true
    | recCommand => exact rec_steady
    | selectTool tool => exact selectTool_steady tool
    | selectCaptureDevice device => exact selectCaptureDevice_steady device
    | selectRecordDevice device => exact steady_change fun _ _ hInv => { hInv with }
    | setCaptureFile file => exact steady_change fun _ _ hInv => { hInv with }
    | setRecordFiles files => exact steady_change fun _ _ hInv => { hInv with }
    | setPreviewVolume volume =>
        apply steady_change
        intro _ v hInv
        split_ifs
        · exact hInv
        · exact applyOptions_keeps { hInv with }
    | setPreviewMuted muted =>
        apply steady_change
        intro _ v hInv
        split_ifs
        · exact hInv
        · exact applyOptions_keeps { hInv with }
    | refreshDevices => exact refreshDevices_steady
    | devicesChanged => exact devicesChanged_steady
    | updateStatus => exact updateStatus_steady
    | engineError message => exact (run_steady initPipeline_steady false).bind fun _ => showMessage_steady _ _
    | settingsSaved form => exact settingsSaved_steady form
    | dismissError => exact steady_change fun _ _ hInv => { hInv with }
    | closeWindow => exact closeWindow_steady
  apply (hSteady locked v nofun hInv).mono
  rintro result now lock later ⟨rfl, -, hInv⟩
  exact ⟨rfl, hInv⟩

namespace UiThread

open Transition

variable {settings : Settings} {b : UiThread}

theorem opened_invariant (settings : Settings) : ViewInvariant false (opened settings) :=
  ⟨rfl, nofun, rfl, rfl, Nat.le_refl 0, rfl⟩

theorem orderly (h : Reachable step (initial settings) b) : viewContract.Orderly b :=
  Contract.orderly_of_reachable view_kept (opened_invariant settings) h

/-- The pipeline is used by one task at a time. Whatever is clicked, plugged in or reported,
and however the engine answers: of the calls that build, start, stop or reset it, or move its
tape other than to stop it, at most one is out, and as long as one is no button can be pressed. When no task can go
on, the engine still owes an answer. -/
theorem pipeline_calls_take_turns (h : Reachable step (initial settings) b) :
    (b.outstanding.filter EngineCall.isExclusive).length ≤ 1 ∧
      (b.running = [] → (∃ c ∈ b.outstanding, c.isExclusive = true) →
        b.memory.canUseDeckButtons = false ∧ b.memory.canWind = false ∧ b.memory.canRec = false) ∧
      (b.running = [] → b.waiting ≠ [] → b.outstanding = [] →
        ∀ reply, ∃ later, b.step (.resume 0 reply) = some later) := by
  have hOrderly := orderly h
  have hFew : (b.outstanding.filter EngineCall.isExclusive).length ≤ b.locked.toNat := hOrderly.one_exclusive
  refine ⟨le_trans hFew b.locked.toNat_le, ?_, fun hIdle hLeft hNone => hOrderly.not_stuck hIdle hLeft hNone⟩
  rintro hIdle ⟨c, hOut, hExclusive⟩
  have hSome : 0 < (b.outstanding.filter EngineCall.isExclusive).length :=
    List.length_pos_of_mem (List.mem_filter.mpr ⟨hOut, hExclusive⟩)
  have hLocked : b.locked = true := by
    cases hLocked : b.locked with
    | true => rfl
    | false =>
        rw [hLocked, Bool.toNat_false] at hFew
        omega
  have hBusy : b.memory.isBusy = true := (hOrderly.idle hIdle).busy.trans hLocked
  rw [ViewModel.canUseDeckButtons, ViewModel.canWind, ViewModel.canRec, hBusy]
  exact ⟨rfl, rfl, rfl⟩

/-- The window of a session with a camcorder. -/
def withCamcorder : Settings := { captureDevice := wide "DV", captureFile := wide "tape" }

/-- The thread runs on for a number of steps. -/
def turns (s : EngineStatus) (n : Nat) : List (Move EngineStatus ViewEvent EngineReply) :=
  List.replicate n (.go s false)

/-- The tool is changed while the window is still connecting to the camcorder. -/
theorem pipeline_calls_take_turns_waiting : ∃ b : UiThread,
    (b.running = [] ∧ b.outstanding = [.buildCapture (wide "DV")] ∧ b.waiting.length = 2) ∧
      (b.outstanding.filter EngineCall.isExclusive).length ≤ 1 ∧ b.memory.canRec = false := by
  obtain ⟨log, b, run, hTest⟩ := exec_witness step (initial withCamcorder)
    (.start .initPipeline :: turns {} 10 ++ .start (.selectTool .record) :: turns {} 6)
    (fun _ b => b.running.isEmpty && (b.outstanding = [.buildCapture (wide "DV")] && b.waiting.length = 2))
    (by decide +kernel)
  simp only [Bool.and_eq_true, decide_eq_true_eq] at hTest
  obtain ⟨hIdle, hOut, hTwo⟩ := hTest
  have hNone : b.running = [] := List.isEmpty_iff.mp hIdle
  have hAll := pipeline_calls_take_turns ⟨log, run⟩
  refine ⟨b, ⟨hNone, hOut, hTwo⟩, hAll.1, (hAll.2.1 hNone ⟨.buildCapture (wide "DV"), ?_, rfl⟩).2.2⟩
  rw [hOut]
  exact List.mem_singleton_self _

/-- A call is made with the engine there and with what it needs: a device, a name, a list of
files; a pipeline is built with the options of the settings and the tool as they are at that
moment; and a call that needs `_busy` is made by the task that has it. -/
theorem calls_are_proper (h : Reachable step (initial settings) b) {c : EngineCall} (hCall : b.calling = some c) :
    b.memory.attached = true ∧ b.memory.disposed = false ∧ b.memory.Proper c ∧
      (c.isExclusive = true → ∃ turn, b.running.head? = some turn ∧ turn.holds = true) := by
  obtain ⟨⟨hEngine, hProper⟩, hHolds⟩ := (orderly h).calling_allowed hCall
  exact ⟨hEngine.1, hEngine.2, hProper, hHolds⟩

/-- The camcorder is connected. -/
theorem calls_are_proper_connecting : ∃ b : UiThread, b.calling = some (.buildCapture (wide "DV")) ∧
    b.memory.Proper (.buildCapture (wide "DV")) := by
  obtain ⟨log, b, run, hTest⟩ := exec_witness step (initial withCamcorder)
    (.start .initPipeline :: turns {} 9) (fun _ b => b.calling = some (.buildCapture (wide "DV")))
    (by decide +kernel)
  have hCall := of_decide_eq_true hTest
  exact ⟨b, hCall, (calls_are_proper ⟨log, run⟩ hCall).2.2.1⟩

/-- What the window says and does on its own. Between two turns of its tasks: an end of the
tape or a full disk has been announced exactly as often as the engine was seen to come to
such a stop, however often it was looked at; the window was asked to close at most once for
each run with `-exit`; and an engine that is disposed is not there any more for any task. What
`InstallUpdateAsync` asks of the window is not among these tasks. -/
theorem stops_announced_once (h : Reachable step (initial settings) b) (hIdle : b.running = []) :
    b.memory.announced = announcements .idle b.memory.observed ∧
      b.memory.closeRequests ≤ b.memory.exitRuns ∧
      (b.memory.disposed = true → b.memory.attached = false) ∧ b.memory.overflowed = false := by
  have hInv := (orderly h).idle hIdle
  exact ⟨hInv.announced, le_trans (Nat.le_add_right _ _) hInv.closeRequests, hInv.disposed, hInv.overflowed⟩

/-- The status is looked at twice after the tape has ended. -/
theorem stops_announced_once_twice : ∃ b : UiThread,
    (b.running = [] ∧ b.memory.observed.length = 3) ∧ b.memory.announced = announcements .idle b.memory.observed ∧
      b.memory.announced = [.signalLost] := by
  obtain ⟨log, b, run, hTest⟩ := exec_witness step (initial withCamcorder)
    (.start .updateStatus :: turns { state := .finished, stopReason := .signalLost } 16 ++
      .start .updateStatus :: turns { state := .finished, stopReason := .signalLost } 7)
    (fun _ b => b.running.isEmpty && (b.memory.observed.length = 3 && b.memory.announced = [.signalLost]))
    (by decide +kernel)
  simp only [Bool.and_eq_true, decide_eq_true_eq] at hTest
  obtain ⟨hIdle, hSeen, hOnce⟩ := hTest
  have hNone : b.running = [] := List.isEmpty_iff.mp hIdle
  exact ⟨b, ⟨hNone, hSeen⟩, (stops_announced_once ⟨log, run⟩ hNone).1, hOnce⟩

end UiThread

end WinDV
