import WinDV.Core.TransportLogic
import WinDV.Library.Cooperative
import WinDV.Native.ErrorText
import WinDV.Ui.SettingsView

/-! The main window's state and commands. Every action is a task of the UI thread; it runs
until it waits for the engine or for `_busy`, and then others have their turn. The engine is
taken as it comes: a call returns or fails, and a status is any status. -/
namespace WinDV

open Cooperative

/-- `EngineStatus`, as far as anything but a display depends on it. -/
structure EngineStatus where
  state : EngineState := .idle
  deckMode : DeckMode := .unknown
  canControlDeck : Bool := false
  stopReason : StopReason := .none
  deriving DecidableEq, Repr

/-- The asynchronous calls of `DvEngine`. -/
inductive EngineCall where
  | listDevices
  | reset
  | buildCapture (device : WString)
  | captureStart (fileBase dateFormat : WString) (suffixDigits : Int32) (duration : Int64)
  | captureStop
  | transport (command : DeckCommand)
  | buildRecord (files device : WString)
  | recordStart
  | recordStop
  deriving DecidableEq, Repr

/-- What a call returns, when it does. -/
def EngineCall.Result : EngineCall → Type
  | listDevices => List WString
  | _ => Unit

/-- A call fails with an `EngineException`, if it fails. -/
abbrev EngineReply (c : EngineCall) : Type := Except EngineException c.Result

/-- The fields of `MainViewModel` and of `MainWindow`. `options` is what the engine was last
sent. `observed` to `overflowed` are not in the source: the states that were polled, the
reasons that were announced, how often a run with `-exit` began and how often the window was
asked to close, and whether `UpdateStatus` called itself more than once over. -/
structure ViewModel where
  settings : Settings := {}
  attached : Bool := true
  selectedTool : Tool := .capture
  captureDevice : WString := []
  recordDevice : WString := []
  captureFile : WString := []
  recordFiles : WString := []
  previewVolume : Int32 := 100
  previewMuted : Bool := false
  devices : List WString := []
  presentDevices : List WString := []
  status : EngineStatus := {}
  lastState : EngineState := .idle
  isBusy : Bool := false
  isLive : Bool := false
  canControlDeck : Bool := false
  hasError : Bool := false
  errorTitle : WString := wide "Something went wrong"
  errorMessage : WString := []
  waitingForDevice : Bool := false
  exitOnFinish : Bool := false
  closing : Bool := false
  disposed : Bool := false
  options : Option EngineOptions := none
  observed : List (EngineState × StopReason) := []
  announced : List StopReason := []
  exitRuns : Nat := 0
  closeRequests : Nat := 0
  overflowed : Bool := false

/-- What begins a task: the window, the user, a timer, the engine, or another task. -/
inductive ViewEvent where
  | start (commandLine : ParsedCommandLine)
  | initPipeline
  | playCommand
  | pauseCommand
  | stopCommand
  | fastForwardCommand
  | rewindCommand
  | recCommand
  | selectTool (tool : Tool)
  | selectCaptureDevice (device : WString)
  | selectRecordDevice (device : WString)
  | setCaptureFile (file : WString)
  | setRecordFiles (files : WString)
  | setPreviewVolume (volume : Int32)
  | setPreviewMuted (muted : Bool)
  | refreshDevices
  | devicesChanged
  | updateStatus
  | engineError (message : WString)
  | settingsSaved (form : SettingsForm)
  | dismissError
  | closeWindow

/-- A task of the UI thread, or a part of one. -/
abbrev ViewTask (α : Type) := Task EngineException ViewModel EngineStatus ViewEvent EngineReply α

namespace ViewTask

def look : ViewTask ViewModel := .ask .look .done

def change (f : ViewModel → ViewModel) : ViewTask Unit := .ask (.change f) .done

/-- An `if` without `else`. -/
def onlyIf (condition : Bool) (task : ViewTask Unit) : ViewTask Unit :=
  if condition then task else .done ()

/-- `GetStatus`. -/
def getStatus : ViewTask EngineStatus := .ask .poll .done

/-- A task that is started and not waited for. -/
def fork (event : ViewEvent) : ViewTask Unit := .ask (.fork event) .done

/-- `await` of a call. -/
def await (c : EngineCall) : ViewTask c.Result := .ask (.call c) fun reply => Dialogue.ofExcept reply

/-- `Engine`, which throws when there is none. -/
def engine : ViewTask Unit := do
  if (← look).attached then return ()
  else .fail ⟨wide "The DV engine is not running.", false⟩

/-- `await Engine.…`. -/
def call (c : EngineCall) : ViewTask c.Result := do
  engine
  await c

end ViewTask

open ViewTask

namespace ViewModel

/-- The preview audio the engine is sent. -/
def audio (v : ViewModel) : PreviewAudio where
  volume := v.previewVolume
  muted := v.previewMuted

/-- The options of the settings and the tool. -/
def currentOptions (v : ViewModel) : EngineOptions := v.settings.engineOptions v.selectedTool v.audio

/-- `ApplyOptions`. -/
def applyOptions (v : ViewModel) : ViewModel :=
  if v.attached then { v with options := some v.currentOptions } else v

/-- `DismissError`. -/
def dismissError (v : ViewModel) : ViewModel := { v with hasError := false, errorMessage := [] }

/-- `CanUseDeckButtons`. -/
def canUseDeckButtons (v : ViewModel) : Bool := !v.isBusy && (v.selectedTool = .record || v.canControlDeck)

/-- `CanWind`. -/
def canWind (v : ViewModel) : Bool := !v.isBusy && v.selectedTool = .capture && v.canControlDeck

/-- `CanRec`. -/
def canRec (v : ViewModel) : Bool := !v.isBusy && v.selectedTool = .capture && v.isLive

/-- The value of `SelectedTool`, with what `OnSelectedToolChanged` keeps of it. -/
def withTool (v : ViewModel) (tool : Tool) : ViewModel :=
  if v.selectedTool = tool then v
  else { v with
    selectedTool := tool
    settings := { v.settings with selectedTool := tool.toInt } }

/-- The lists after `RefreshDevicesAsync`: the saved choices stay selectable. -/
def refreshed (v : ViewModel) (devices : List WString) : ViewModel :=
  { v with
    presentDevices := devices
    devices := [v.captureDevice, v.recordDevice].foldl (fun devices saved =>
      if 0 < saved.length && !devices.contains saved then devices ++ [saved] else devices) devices }

/-- `Detach`. -/
def detach (v : ViewModel) : ViewModel :=
  { v with
    settings := v.settings.detach {
      tool := v.selectedTool
      captureDevice := v.captureDevice
      recordDevice := v.recordDevice
      captureFile := v.captureFile
      recordFiles := v.recordFiles
      previewVolume := v.previewVolume
      previewMuted := v.previewMuted
      workingDirectory := v.settings.workingDirectory }
    attached := false }

/-- What a command line changes before its run. -/
def beginRun (v : ViewModel) (commandLine : ParsedCommandLine) (tool : Tool) : ViewModel :=
  { v.withTool tool with
    exitOnFinish := commandLine.exitOnFinish
    exitRuns := v.exitRuns + commandLine.exitOnFinish.toNat }

/-- What `UpdateStatus` takes from a status. -/
def takeStatus (v : ViewModel) (s : EngineStatus) : ViewModel :=
  { v with
    status := s
    isLive := s.state = .capturePaused || s.state = .capturing || s.state = .finished
    canControlDeck := s.canControlDeck
    observed := v.observed ++ [(s.state, s.stopReason)] }

end ViewModel

/-- The message of `AnnounceStop`, for the reasons that have one. -/
def stopMessage (settings : Settings) : StopReason → Option (WString × WString)
  | .signalLost => some (wide "Capture finished",
      wide "No video arrived for " ++ toWString settings.signalLossSeconds.toInt.toNat ++
        wide " seconds (end of the tape?), so the capture was stopped and the file saved.")
  | .diskFull => some (wide "Capture stopped: the disk is almost full",
      wide "The capture was stopped and the file saved before the disk filled up. Free up some space, " ++
        wide "or choose another drive, then press REC to continue.")
  | _ => none

namespace ViewTask

/-- `ShowMessage`, which updates the status. -/
def showMessageThen (update : ViewTask Unit) (title message : WString) : ViewTask Unit := do
  change fun v => { v with errorTitle := title, errorMessage := message, hasError := true }
  update

/-- An announcement, if there is a message. -/
def announceThen (update : ViewTask Unit) (reason : StopReason) : Option (WString × WString) → ViewTask Unit
  | some (title, message) => do
      change fun v => { v with announced := v.announced ++ [reason] }
      showMessageThen update title message
  | none => return ()

/-- `AnnounceStop`. -/
def announceStopThen (update : ViewTask Unit) (reason : StopReason) : ViewTask Unit := do
  announceThen update reason (stopMessage (← look).settings reason)

/-- The first part of `UpdateStatus`: the status is taken over, and a stop is announced. -/
def noteStatusThen (update : ViewTask Unit) (s : EngineStatus) : ViewTask Unit := do
  change (·.takeStatus s)
  let last := (← look).lastState
  change fun v => { v with lastState := s.state }
  onlyIf (s.state = .finished && last ≠ .finished) (announceStopThen update s.stopReason)

/-- The last part of `UpdateStatus`: a run with `-exit` closes the window at its end. -/
def closeWhenFinished (s : EngineStatus) : ViewTask Unit := do
  onlyIf (s.state = .finished && (← look).exitOnFinish) do
    change fun v => { v with exitOnFinish := false, closeRequests := v.closeRequests + 1 }
    fork .closeWindow

/-- The body of `UpdateStatus`, with the call of itself through `AnnounceStop`. -/
def updateStatusThen (update : ViewTask Unit) : ViewTask Unit := do
  onlyIf (← look).attached do
    let s ← getStatus
    noteStatusThen update s
    closeWhenFinished s

/-- `UpdateStatus`. The call of itself announces nothing more. -/
def updateStatus : ViewTask Unit :=
  updateStatusThen (updateStatusThen (change fun v => { v with overflowed := true }))

/-- `ShowMessage`. -/
def showMessage (title message : WString) : ViewTask Unit := showMessageThen updateStatus title message

/-- `ShowError`. -/
def showError (message : WString) : ViewTask Unit := showMessage (wide "Something went wrong") message

/-- `BuildCaptureAsync`. -/
def buildCapture : ViewTask Unit := do
  change ViewModel.applyOptions
  let v ← look
  if isNullOrWhiteSpace v.captureDevice then .fail ⟨wide "Choose a DV device first.", false⟩
  else call (.buildCapture v.captureDevice)

/-- What `InitPipelineAsync` does for a tool. A device that is not there is no error. -/
def initTool : Tool → ViewTask Unit
  | .capture => buildCapture.catching fun e =>
      if e.deviceNotFound then change fun v => { v with waitingForDevice := true } else .fail e
  | .record => call .reset

/-- `InitPipelineAsync`. -/
def initPipeline : ViewTask Unit := do
  change fun v => { v with exitOnFinish := false, waitingForDevice := false }
  initTool (← look).selectedTool
  updateStatus

/-- The first part of `StartCaptureAsync`: the tape is started if it is to be. -/
def startTape : ViewTask Unit := do
  onlyIf (← look).settings.deckControl do
    engine
    onlyIf (← getStatus).canControlDeck do
      engine
      onlyIf ((← getStatus).deckMode ≠ .playing) (call (.transport .play))

/-- `StartCaptureAsync`. -/
def startCapture (duration : Int64) : ViewTask Unit := do
  let v ← look
  if (stringTrim v.captureFile).length = 0 then
    .fail ⟨wide "Choose where to save the capture first.", false⟩
  else
    startTape
    let now ← look
    call (.captureStart (stringTrim v.captureFile) now.settings.dateTimeFormat now.settings.suffixDigits duration)

/-- The end of `BuildRecordAsync`, with the list it has made. -/
def buildRecordWith (device : WString) : Except WString WString → ViewTask Unit
  | .error message => .fail ⟨message, false⟩
  | .ok list => call (.buildRecord list device)

/-- `BuildRecordAsync`. -/
def buildRecord : ViewTask Unit := do
  change ViewModel.applyOptions
  let v ← look
  buildRecordWith v.recordDevice
    (buildRecordList v.settings.aviPrefix v.recordFiles v.settings.aviSuffix v.recordDevice)

/-- What `RunAsync` does about an error. -/
def recover (resetOnError : Bool) (e : EngineException) : ViewTask Unit := do
  onlyIf resetOnError (initPipeline.catching fun _ => return ())
  showError e.message

/-- The end of `RunAsync`, however it comes to it. -/
def leave : ViewTask Unit := do
  change fun v => { v with isBusy := false }
  .ask .release .done
  updateStatus

/-- `RunAsync`. -/
def run (action : ViewTask Unit) (resetOnError : Bool := true) : ViewTask Unit := do
  onlyIf (← look).attached do
    .ask .acquire .done
    change fun v => { v with isBusy := true }
    ((do change ViewModel.dismissError; action : ViewTask Unit).catching (recover resetOnError)).finishing leave

/-- What Play does on the record tool: idle or finished, it starts over. -/
def playRecord : EngineState → ViewTask Unit
  | .recordPaused => call .recordStart
  | .recording => return ()
  | _ => do
      buildRecord
      call .recordStart

/-- `PlayAsync`. -/
def play : ViewTask Unit := run do
  let v ← look
  if v.selectedTool = .capture then call (.transport .play) else playRecord v.status.state

/-- What Pause does on the record tool: without a pipeline, it cues up the first frame. -/
def pauseRecord : EngineState → ViewTask Unit
  | .recording => call .recordStop
  | .recordPaused => call .recordStart
  | _ => buildRecord

/-- `PauseAsync`. -/
def pause : ViewTask Unit := run do
  let v ← look
  if v.selectedTool = .capture then call (.transport .pause) else pauseRecord v.status.state

/-- `StopAsync`. -/
def stop : ViewTask Unit := run do
  let v ← look
  if v.selectedTool = .capture then
    onlyIf (v.status.state = .capturing) (call .captureStop)
    call (.transport .stop)
  else initPipeline

/-- `RecAsync`. -/
def rec : ViewTask Unit := run do
  let v ← look
  if v.status.state = .capturing then call .captureStop
  else
    onlyIf (v.status.state = .idle || v.status.state = .finished) buildCapture
    startCapture 0

/-- What `RefreshDevicesAsync` makes of the answer. -/
def devicesListed : Except EngineException (List WString) → ViewTask Unit
  | .error e => showError e.message
  | .ok devices => change (·.refreshed devices)

/-- `RefreshDevicesAsync`. -/
def refreshDevices : ViewTask Unit := do
  onlyIf (← look).attached do
    let answer ← (await .listDevices).attempt
    devicesListed answer

/-- What is said about a device that is gone. -/
def disconnectedMessage (state : EngineState) (tool : Tool) : WString :=
  match state with
  | .capturing => wide "The capture was stopped and the file saved. Turn the camcorder back on " ++
      wide "and WinDV reconnects by itself; then press REC to carry on."
  | .recording => wide "Recording to tape was stopped. Turn the camcorder back on, then press Play " ++
      wide "to record again."
  | _ =>
      if tool = .capture then wide "Turn it back on and WinDV reconnects by itself."
      else wide "Turn it back on before recording to tape."

/-- `DisconnectAsync`. -/
def disconnect (state : EngineState) : ViewTask Unit := do
  run do
    onlyIf (state = .capturing) (call .captureStop)
    call .reset
    change fun v => { v with waitingForDevice := v.selectedTool = .capture }
  let v ← look
  onlyIf (!v.hasError)
    (showMessage (wide "The camcorder was disconnected") (disconnectedMessage state v.selectedTool))

/-- What `OnDevicesChangedAsync` does about a device that has come or gone. -/
def connect (present : Bool) (state : EngineState) : ViewTask Unit := do
  if present && state = .idle && (← look).selectedTool = .capture then run initPipeline false
  else onlyIf (!present && state ≠ .idle) (disconnect state)

/-- `OnDevicesChangedAsync`. -/
def devicesChanged : ViewTask Unit := do
  let before ← look
  onlyIf (before.attached && !before.isBusy) do
    refreshDevices
    let v ← look
    let device := if v.selectedTool = .capture then v.captureDevice else v.recordDevice
    onlyIf (0 < device.length) do
      engine
      let s ← getStatus
      connect (v.presentDevices.contains device) s.state

/-- The end of `StartAsync`: the pipeline, or the job of the command line. -/
def startJob (commandLine : ParsedCommandLine) : CommandLineMode → ViewTask Unit
  | .interactive => run initPipeline false
  | .capture => do
      change fun v => { v.beginRun commandLine .capture with captureFile := commandLine.files }
      run do
        buildCapture
        startCapture commandLine.duration
  | .record => do
      change fun v => { v.beginRun commandLine .record with recordFiles := commandLine.files }
      run do
        buildRecord
        call .recordStart

/-- `StartAsync`. -/
def start (commandLine : ParsedCommandLine) : ViewTask Unit := do
  refreshDevices
  startJob commandLine commandLine.mode

/-- The setter of `SelectedTool`, with `OnSelectedToolChanged`. -/
def selectTool (tool : Tool) : ViewTask Unit := do
  let v ← look
  onlyIf (v.selectedTool ≠ tool) do
    change (·.withTool tool)
    onlyIf v.attached (fork .initPipeline)

/-- The setter of `CaptureDevice`, with `OnCaptureDeviceChanged`. -/
def selectCaptureDevice (device : WString) : ViewTask Unit := do
  let v ← look
  onlyIf (v.captureDevice ≠ device) do
    change fun v => { v with captureDevice := device }
    onlyIf (v.selectedTool = .capture && v.attached && 0 < device.length) (fork .initPipeline)

/-- `Save_Click` and `ApplySettings`, without the check for updates. -/
def settingsSaved (form : SettingsForm) : ViewTask Unit :=
  change fun v => (v.settings.saveClick form).toOption.elim v fun settings => { v with settings := settings }.applyOptions

/-- `ShutdownAsync`. -/
def shutdown : ViewTask Unit := do
  let v ← look
  onlyIf (v.attached && v.selectedTool = .capture && v.canControlDeck && v.settings.deckControl)
    ((await (.transport .stop)).catching fun _ => return ())

/-- `ShutdownAndCloseAsync`, without the file of the settings. -/
def closeWindow : ViewTask Unit := do
  onlyIf (!(← look).closing) do
    change fun v => { v with closing := true }
    shutdown
    change ViewModel.detach
    change fun v => { v with disposed := true }

end ViewTask

/-- What each event begins. -/
def ViewEvent.body : ViewEvent → ViewTask Unit
  | start commandLine => ViewTask.start commandLine
  | initPipeline => run ViewTask.initPipeline false
  | playCommand => play
  | pauseCommand => pause
  | stopCommand => stop
  | fastForwardCommand => run (call (.transport .fastForward))
  | rewindCommand => run (call (.transport .rewind))
  | recCommand => ViewTask.rec
  | selectTool tool => ViewTask.selectTool tool
  | selectCaptureDevice device => ViewTask.selectCaptureDevice device
  | selectRecordDevice device => change fun v => { v with recordDevice := device }
  | setCaptureFile file => change fun v => { v with captureFile := file }
  | setRecordFiles files => change fun v => { v with recordFiles := files }
  | setPreviewVolume volume => change fun v =>
      if v.previewVolume = volume then v else { v with previewVolume := volume }.applyOptions
  | setPreviewMuted muted => change fun v =>
      if v.previewMuted = muted then v else { v with previewMuted := muted }.applyOptions
  | refreshDevices => ViewTask.refreshDevices
  | devicesChanged => ViewTask.devicesChanged
  | updateStatus => ViewTask.updateStatus
  | engineError message => do
      run ViewTask.initPipeline false
      showError message
  | settingsSaved form => ViewTask.settingsSaved form
  | dismissError => change ViewModel.dismissError
  | closeWindow => ViewTask.closeWindow

/-- Whether a button can be pressed; everything else comes at any time. -/
def ViewModel.admits (v : ViewModel) : ViewEvent → Bool
  | .playCommand | .pauseCommand | .stopCommand => v.canUseDeckButtons
  | .fastForwardCommand | .rewindCommand => v.canWind
  | .recCommand => v.canRec
  | _ => true

/-- The tasks of the window. -/
def viewProgram : Program EngineException ViewModel EngineStatus ViewEvent EngineReply where
  body := ViewEvent.body
  admits := ViewModel.admits

/-- The UI thread. -/
abbrev UiThread := Board EngineException ViewModel EngineStatus ViewEvent EngineReply

namespace UiThread

/-- The window as it comes up with its settings. -/
def opened (settings : Settings) : ViewModel where
  settings := settings
  selectedTool := if settings.selectedTool = 1 then .record else .capture
  captureDevice := settings.captureDevice
  recordDevice := settings.recordDevice
  captureFile := settings.captureFile
  recordFiles := settings.recordFile
  previewVolume := settings.previewVolume
  previewMuted := settings.previewMuted

/-- A step of the thread. -/
abbrev step : UiThread → Move EngineStatus ViewEvent EngineReply → Option UiThread := Board.step viewProgram

/-- Before anything has happened. -/
def initial (settings : Settings) : UiThread where
  memory := opened settings

end UiThread

end WinDV
