import WinDV.Engine.Types
import WinDV.Native.RecordFiles
import WinDV.Ui.SettingsStore

/-! The settings over a session: the settings screen, the tools, closing and starting
again; and what the engine makes of the options that are sent to it. -/
namespace WinDV

/-- `Tool`. -/
inductive Tool where
  | capture
  | record
  deriving DecidableEq, Repr

/-- `(int)tool`. -/
def Tool.toInt : Tool → Int32
  | .capture => 0
  | .record => 1

theorem Tool.toInt_range (tool : Tool) : 0 ≤ tool.toInt ∧ tool.toInt ≤ 1 := by
  cases tool with
  | capture => decide
  | record => decide

/-- The controls of the settings screen. A number box holds its value as it is rounded, or
nothing; an index is -1 if nothing is selected. -/
structure SettingsForm where
  deckControl : Bool
  aviTypeIndex : Int32
  threshold : Option Int32
  maxFrames : Option Int32
  everyNth : Option Int32
  signalLoss : Bool
  signalLossSeconds : Option Int32
  dateFormat : WString
  digitsIndex : Int32
  prefixText : WString
  suffixText : WString
  recordPreview : Bool
  checkForUpdates : Bool
  deriving DecidableEq, Repr

/-- `ReadNumber`. -/
def readNumber (box : Option Int32) (minimum fallback : Int32) : Int32 :=
  box.elim fallback fun value => max minimum value

/-- `string.Trim`. -/
def stringTrim (text : WString) : WString := Separated.trim isWhiteSpace text

/-- `Save_Click`: the settings that are kept, or what is said about the form. -/
def Settings.saveClick (s : Settings) (form : SettingsForm) : Except WString Settings :=
  if isValidTimeFormat form.dateFormat then
    .ok { { s with
      deckControl := form.deckControl
      type2Avi := form.aviTypeIndex = 1
      discontinuityThreshold := readNumber form.threshold 0 s.discontinuityThreshold
      maxAviFrames := readNumber form.maxFrames 10 s.maxAviFrames
      everyNth := readNumber form.everyNth 1 s.everyNth
      signalLossSeconds :=
        if form.signalLoss then
          min (readNumber form.signalLossSeconds 1 defaultSignalLossSeconds) 3600
        else 0 }.useDateTimeFormat form.dateFormat with
      suffixDigits := max form.digitsIndex 0
      aviPrefix := stringTrim form.prefixText
      aviSuffix := stringTrim form.suffixText
      recordPreview := form.recordPreview
      checkForUpdates := form.checkForUpdates }
  else .error (wide "The date format has an invalid % code.")

/-- What `Detach` and `ShutdownAndCloseAsync` put into the settings. -/
structure ClosingView where
  tool : Tool
  captureDevice : WString
  recordDevice : WString
  captureFile : WString
  recordFiles : WString
  previewVolume : Int32
  previewMuted : Bool
  workingDirectory : WString
  deriving DecidableEq, Repr

/-- `Detach`, and the working directory of `ShutdownAndCloseAsync`. -/
def Settings.detach (s : Settings) (view : ClosingView) : Settings :=
  { s with
    selectedTool := view.tool.toInt
    captureDevice := view.captureDevice
    recordDevice := view.recordDevice
    captureFile := view.captureFile
    recordFile := view.recordFiles
    previewVolume := view.previewVolume
    previewMuted := view.previewMuted
    workingDirectory := view.workingDirectory }

/-- What changes the settings while WinDV runs, and its end with the next start. -/
inductive SettingsAction where
  | saveClick (form : SettingsForm)
  | selectTool (tool : Tool)
  | saveWindowPlacement (x y width height : Int32)
  | updateChecked (now : Int64) (tag : WString)
  | dismissUpdate
  | close (view : ClosingView)
  deriving DecidableEq, Repr

/-- The settings in memory, and the registry. -/
structure SettingsSession where
  settings : Settings
  registry : Registry

namespace SettingsSession

/-- A start over what is in the registry. -/
def start (registry : Registry) : SettingsSession := ⟨Settings.load registry, registry⟩

def step (session : SettingsSession) : SettingsAction → SettingsSession
  | .saveClick form => { session with settings := (session.settings.saveClick form).toOption.getD session.settings }
  | .selectTool tool => { session with settings := { session.settings with selectedTool := tool.toInt } }
  | .saveWindowPlacement x y width height =>
      { session with settings := { session.settings with
          windowX := x
          windowY := y
          windowWidth := width
          windowHeight := height } }
  | .updateChecked now tag =>
      { session with settings := { session.settings with lastUpdateCheck := now, latestRelease := tag } }
  | .dismissUpdate =>
      { session with settings := { session.settings with
          dismissedRelease := session.settings.latestRelease } }
  | .close view => start ((session.settings.detach view).save session.registry)

def run (session : SettingsSession) (actions : List SettingsAction) : SettingsSession :=
  actions.foldl step session

end SettingsSession

/-- What the controls allow: five digit entries, one line of text, a slider from 0 to 100. -/
def SettingsAction.Possible : SettingsAction → Prop
  | .saveClick form => form.digitsIndex ≤ 4 ∧ wchar '\n' ∉ form.dateFormat
  | .close view => 0 ≤ view.previewVolume ∧ view.previewVolume ≤ 100
  | _ => True

/-- The date formats a sequence of actions brings into use. -/
def formatsUsed (actions : List SettingsAction) : List WString :=
  actions.filterMap fun
    | .saveClick form => if isValidTimeFormat form.dateFormat then some form.dateFormat else none
    | _ => none

namespace Settings

/-- The format in use, and its history. -/
def formats (s : Settings) : RecentlyUsed.Memory WString := ⟨s.dateTimeFormat, s.dateTimeFormatHistory⟩

/-- Every format but the empty one is kept. -/
def isKept (format : WString) : Bool := 0 < format.length

theorem useDateTimeFormat_formats (s : Settings) (format : WString) :
    (s.useDateTimeFormat format).formats = s.formats.use isKept maxFormatHistory format := by
  have hHistory : ((if 0 < s.dateTimeFormat.length then [s.dateTimeFormat] else []) ++
        s.dateTimeFormatHistory).filter (fun f => decide (0 < f.length) && decide (f ≠ format)) =
      (s.dateTimeFormat :: s.dateTimeFormatHistory).filter fun f => isKept f && decide (f ≠ format) := by
    split_ifs with hSome
    · rfl
    · rw [List.filter_cons_of_neg (by simp [isKept, hSome])]
      rfl
  rw [formats, useDateTimeFormat, hHistory]
  rfl

/-- The settings are in range, and the format in use is one line. -/
structure Kept (s : Settings) : Prop where
  valid : s.Valid
  oneLine : wchar '\n' ∉ s.dateTimeFormat

theorem readNumber_le {box : Option Int32} {minimum fallback : Int32} (h : minimum ≤ fallback) :
    minimum ≤ readNumber box minimum fallback := by
  cases box with
  | none => exact h
  | some value => exact le_max_left _ _

/-- The history after a use is made of earlier formats. -/
theorem mem_useDateTimeFormat {s : Settings} {format f : WString}
    (h : f ∈ (s.useDateTimeFormat format).dateTimeFormatHistory) :
    (f = s.dateTimeFormat ∨ f ∈ s.dateTimeFormatHistory) ∧ f ≠ [] := by
  have hUsed : f ∈ (s.formats.use isKept maxFormatHistory format).history := by
    rw [← useDateTimeFormat_formats]
    exact h
  obtain ⟨hMem, hKept, -⟩ := RecentlyUsed.mem_past.mp (List.mem_of_mem_take hUsed)
  refine ⟨List.mem_cons.mp hMem, ?_⟩
  rintro rfl
  cases hKept

/-- A form is accepted exactly if its format is valid. -/
theorem saveClick_accepted (s : Settings) (form : SettingsForm) :
    (∃ kept, s.saveClick form = .ok kept) ↔ isValidTimeFormat form.dateFormat = true := by
  rw [saveClick]
  by_cases hFormat : isValidTimeFormat form.dateFormat = true
  · rw [if_pos hFormat]
    exact Iff.intro (fun _ => hFormat) fun _ => Exists.intro _ rfl
  · rw [if_neg hFormat]
    refine Iff.intro ?_ fun h => absurd h hFormat
    rintro ⟨kept, hKept⟩
    cases hKept

/-- A form that is accepted brings its format into use. -/
theorem saveClick_formats {s kept : Settings} {form : SettingsForm} (hSave : s.saveClick form = .ok kept) :
    kept.formats = s.formats.use isKept maxFormatHistory form.dateFormat := by
  have hFormat := (s.saveClick_accepted form).mp ⟨kept, hSave⟩
  rw [saveClick, if_pos hFormat] at hSave
  obtain rfl := Except.ok.inj hSave
  exact useDateTimeFormat_formats _ _

/-- It keeps the settings in range. -/
theorem saveClick_inRange {s kept : Settings} {form : SettingsForm} (h : s.InRange)
    (hPossible : (SettingsAction.saveClick form).Possible) (hSave : s.saveClick form = .ok kept) :
    kept.InRange := by
  have hFormat := (s.saveClick_accepted form).mp ⟨kept, hSave⟩
  rw [saveClick, if_pos hFormat] at hSave
  obtain rfl := Except.ok.inj hSave
  refine ⟨h.selectedTool, h.previewVolume, readNumber_le h.discontinuityThreshold,
    readNumber_le h.maxAviFrames, readNumber_le h.everyNth, ?_, ?_⟩
  · exact ⟨le_max_right _ _, max_le hPossible.1 (by decide)⟩
  · have hSeconds : 1 ≤ readNumber form.signalLossSeconds 1 defaultSignalLossSeconds :=
      readNumber_le (by decide)
    simp only [useDateTimeFormat]
    split_ifs
    · exact ⟨le_min (le_trans (by decide) hSeconds) (by decide), min_le_right _ _⟩
    · exact ⟨le_refl 0, by decide⟩

/-- It keeps the formats lines. -/
theorem saveClick_kept {s kept : Settings} {form : SettingsForm} (h : s.Kept)
    (hPossible : (SettingsAction.saveClick form).Possible) (hSave : s.saveClick form = .ok kept) :
    kept.Kept := by
  have hInRange := saveClick_inRange h.valid.toInRange hPossible hSave
  have hFormat := (s.saveClick_accepted form).mp ⟨kept, hSave⟩
  rw [saveClick, if_pos hFormat] at hSave
  obtain rfl := Except.ok.inj hSave
  refine ⟨{ hInRange with dateTimeFormatHistory := fun f hf => ?_ }, hPossible.2⟩
  obtain ⟨hMem, hSome⟩ := mem_useDateTimeFormat hf
  refine ⟨?_, hSome⟩
  rcases hMem with rfl | hOld
  · exact h.oneLine
  · exact (h.valid.dateTimeFormatHistory f hOld).1

end Settings

namespace SettingsSession

open Settings

theorem detach_inRange {s : Settings} (h : s.InRange) {view : ClosingView}
    (hPossible : (SettingsAction.close view).Possible) : (s.detach view).InRange :=
  { h with selectedTool := view.tool.toInt_range, previewVolume := hPossible }

/-- One action keeps the settings in range. -/
theorem step_inRange {session : SettingsSession} {action : SettingsAction} (h : session.settings.InRange)
    (hPossible : action.Possible) : (session.step action).settings.InRange := by
  cases action with
  | saveClick form =>
      show ((session.settings.saveClick form).toOption.getD session.settings).InRange
      cases hSave : session.settings.saveClick form with
      | error message => exact h
      | ok kept => exact saveClick_inRange h hPossible hSave
  | selectTool tool => exact { h with selectedTool := tool.toInt_range }
  | saveWindowPlacement x y width height => exact { h with }
  | updateChecked now tag => exact { h with }
  | dismissUpdate => exact { h with }
  | close view => exact (load_valid _).toInRange

/-- So does a whole session. -/
theorem run_inRange {session : SettingsSession} (h : session.settings.InRange)
    {actions : List SettingsAction} (hPossible : ∀ action ∈ actions, action.Possible) :
    (session.run actions).settings.InRange := by
  induction actions generalizing session with
  | nil => exact h
  | cons action rest ih =>
      have hNext := step_inRange h (hPossible action List.mem_cons_self)
      exact ih hNext fun other hOther => hPossible other (List.mem_cons_of_mem _ hOther)

/-- Closing and starting again loses nothing. -/
theorem step_close {session : SettingsSession} (h : session.settings.Kept) {view : ClosingView}
    (hPossible : (SettingsAction.close view).Possible) :
    (session.settings.detach view).Kept ∧
      (session.step (.close view)).settings = session.settings.detach view := by
  have hInRange := detach_inRange h.valid.toInRange hPossible
  have hDetached : (session.settings.detach view).Valid :=
    { hInRange with dateTimeFormatHistory := h.valid.dateTimeFormatHistory }
  exact ⟨⟨hDetached, h.oneLine⟩, (load_save_iff hInRange _).mpr hDetached⟩

/-- One action keeps the settings in range; it brings a format into use, or leaves the formats. -/
theorem step_kept {session : SettingsSession} {action : SettingsAction} (h : session.settings.Kept)
    (hPossible : action.Possible) :
    (session.step action).settings.Kept ∧ (session.step action).settings.formats =
      session.settings.formats.useAll isKept maxFormatHistory (formatsUsed [action]) := by
  have hRange := h.valid
  cases action with
  | saveClick form =>
      cases hSave : session.settings.saveClick form with
      | error message =>
          have hInvalid : isValidTimeFormat form.dateFormat = false := by
            rw [← Bool.not_eq_true, ← session.settings.saveClick_accepted form, hSave]
            rintro ⟨kept, hKept⟩
            cases hKept
          simp only [step, hSave, formatsUsed, List.filterMap_cons, hInvalid, Bool.false_eq_true, if_false,
            List.filterMap_nil]
          exact ⟨h, rfl⟩
      | ok kept =>
          have hFormat := (session.settings.saveClick_accepted form).mp ⟨kept, hSave⟩
          simp only [step, hSave, formatsUsed, List.filterMap_cons, hFormat, if_true, List.filterMap_nil]
          exact ⟨saveClick_kept h hPossible hSave, saveClick_formats hSave⟩
  | selectTool tool =>
      exact ⟨⟨{ hRange with selectedTool := tool.toInt_range }, h.oneLine⟩, rfl⟩
  | saveWindowPlacement x y width height => exact ⟨⟨{ hRange with }, h.oneLine⟩, rfl⟩
  | updateChecked now tag => exact ⟨⟨{ hRange with }, h.oneLine⟩, rfl⟩
  | dismissUpdate => exact ⟨⟨{ hRange with }, h.oneLine⟩, rfl⟩
  | close view =>
      obtain ⟨hDetached, hLoaded⟩ := step_close h hPossible
      rw [hLoaded]
      exact ⟨hDetached, rfl⟩

theorem formatsUsed_cons (action : SettingsAction) (rest : List SettingsAction) :
    formatsUsed (action :: rest) = formatsUsed [action] ++ formatsUsed rest := by
  rw [formatsUsed, formatsUsed, formatsUsed, ← List.filterMap_append]
  rfl

/-- A whole session keeps the settings in range, and the formats are those it has used. -/
theorem run_kept {session : SettingsSession} (h : session.settings.Kept) {actions : List SettingsAction}
    (hPossible : ∀ action ∈ actions, action.Possible) :
    (session.run actions).settings.Kept ∧ (session.run actions).settings.formats =
      session.settings.formats.useAll isKept maxFormatHistory (formatsUsed actions) := by
  induction actions generalizing session with
  | nil => exact ⟨h, rfl⟩
  | cons action rest ih =>
      obtain ⟨hKept, hFormats⟩ := step_kept h (hPossible action List.mem_cons_self)
      obtain ⟨hRest, hAll⟩ := ih hKept fun other hOther => hPossible other (List.mem_cons_of_mem _ hOther)
      refine ⟨hRest, ?_⟩
      rw [formatsUsed_cons, RecentlyUsed.Memory.useAll_append, ← hFormats]
      exact hAll

end SettingsSession

/-- `EngineOptions`. -/
structure EngineOptions where
  type2Avi : Bool
  discontinuityThreshold : Int32
  maxAviFrames : Int32
  everyNth : Int32
  recordPreview : Bool
  deckFollowsPipeline : Bool
  signalLossSeconds : Int32
  previewVolume : Int32
  previewMuted : Bool
  deriving DecidableEq, Repr

/-- `windv_options`. -/
structure NativeOptions where
  type2AVI : Int32
  discontinuityThreshold : Int32
  maxAVIFrames : Int32
  everyNth : Int32
  recordPreview : Int32
  deckFollowsPipeline : Int32
  signalLossSeconds : Int32
  previewVolume : Int32
  previewMuted : Int32
  deriving DecidableEq, Repr

/-- `value ? 1 : 0`. -/
def nativeBool (value : Bool) : Int32 := if value then 1 else 0

/-- `value != 0`. -/
def fromNativeBool (value : Int32) : Bool := value ≠ 0

/-- `DvEngine.SetOptions`. -/
def EngineOptions.toNative (options : EngineOptions) : NativeOptions where
  type2AVI := nativeBool options.type2Avi
  discontinuityThreshold := options.discontinuityThreshold
  maxAVIFrames := options.maxAviFrames
  everyNth := options.everyNth
  recordPreview := nativeBool options.recordPreview
  deckFollowsPipeline := nativeBool options.deckFollowsPipeline
  signalLossSeconds := options.signalLossSeconds
  previewVolume := options.previewVolume
  previewMuted := nativeBool options.previewMuted

/-- `m_previewVolume` and `m_previewMuted`. -/
structure PreviewAudio where
  volume : Int32
  muted : Bool
  deriving DecidableEq, Repr

/-- `windv_set_options`: what is stored in the engine. -/
def windvSetOptions (options : NativeOptions) : Options × PreviewAudio :=
  ({ type2AVI := fromNativeBool options.type2AVI
     discontinuityThreshold := max 0 options.discontinuityThreshold
     maxAVIFrames := max 10 options.maxAVIFrames
     everyNth := max 1 options.everyNth
     recordPreview := fromNativeBool options.recordPreview
     DVctrl := fromNativeBool options.deckFollowsPipeline
     signalLossSeconds := max 0 options.signalLossSeconds },
    { volume := clamp options.previewVolume 0 100, muted := fromNativeBool options.previewMuted })

/-- What `ApplyOptions` sends for a tool and the preview's audio. -/
def Settings.engineOptions (s : Settings) (tool : Tool) (audio : PreviewAudio) : EngineOptions where
  type2Avi := s.type2Avi
  discontinuityThreshold := s.discontinuityThreshold
  maxAviFrames := s.maxAviFrames
  everyNth := s.everyNth
  recordPreview := s.recordPreview
  deckFollowsPipeline := tool = .record ∧ s.deckControl = true
  signalLossSeconds := s.signalLossSeconds
  previewVolume := audio.volume
  previewMuted := audio.muted

theorem fromNativeBool_nativeBool (value : Bool) : fromNativeBool (nativeBool value) = value := by
  cases value with
  | true => rfl
  | false => rfl

/-- Options in range are stored as they were sent. -/
theorem windvSetOptions_inRange {s : Settings} (h : s.InRange) (tool : Tool) {audio : PreviewAudio}
    (hVolume : 0 ≤ audio.volume ∧ audio.volume ≤ 100) :
    windvSetOptions (s.engineOptions tool audio).toNative =
      ({ type2AVI := s.type2Avi
         discontinuityThreshold := s.discontinuityThreshold
         maxAVIFrames := s.maxAviFrames
         everyNth := s.everyNth
         recordPreview := s.recordPreview
         DVctrl := tool = .record ∧ s.deckControl = true
         signalLossSeconds := s.signalLossSeconds }, audio) := by
  simp only [windvSetOptions, EngineOptions.toNative, Settings.engineOptions, fromNativeBool_nativeBool,
    max_eq_right h.discontinuityThreshold, max_eq_right h.maxAviFrames, max_eq_right h.everyNth,
    max_eq_right h.signalLossSeconds.1, clamp_self hVolume]

section Session

open Settings

/-- A settings screen with numbers out of range. -/
def narrowForm : SettingsForm where
  deckControl := true
  aviTypeIndex := 0
  threshold := none
  maxFrames := some 3
  everyNth := some 2
  signalLoss := true
  signalLossSeconds := some 9000
  dateFormat := wide "%Y"
  digitsIndex := -1
  prefixText := wide " a.avi "
  suffixText := []
  recordPreview := false
  checkForUpdates := true

/-- A window with nothing entered. -/
def emptyView : ClosingView where
  tool := .capture
  captureDevice := []
  recordDevice := []
  captureFile := []
  recordFiles := []
  previewVolume := 0
  previewMuted := false
  workingDirectory := []

/-- With another format saved once, a format of several lines is lost at the next start. -/
theorem lines_lost {registry : Registry} (hLine : wchar '\n' ∈ (load registry).dateTimeFormat) :
    ∃ actions : List SettingsAction, (∀ action ∈ actions, action.Possible) ∧
      let session := (SettingsSession.start registry).run actions
      ∀ view, (SettingsAction.close view).Possible →
        (session.step (.close view)).settings ≠ session.settings.detach view := by
  have hPossible : (SettingsAction.saveClick narrowForm).Possible := ⟨by decide, by decide +kernel⟩
  obtain ⟨kept, hSave⟩ := ((load registry).saveClick_accepted narrowForm).mpr (by decide +kernel)
  have hSession : ((SettingsSession.start registry).run [.saveClick narrowForm]).settings = kept := by
    show ((load registry).saveClick narrowForm).toOption.getD (load registry) = kept
    rw [hSave]
    rfl
  refine ⟨[.saveClick narrowForm], by simpa using hPossible, ?_⟩
  intro session view hView
  have hInRange : session.settings.InRange := by
    rw [hSession]
    exact saveClick_inRange (load_valid registry).toInRange hPossible hSave
  have hHistory : (load registry).dateTimeFormat ∈ session.settings.dateTimeFormatHistory := by
    have hUsable : isKept (load registry).dateTimeFormat = true :=
      decide_eq_true (List.length_pos_of_mem hLine)
    have hOther : (load registry).dateTimeFormat ≠ narrowForm.dateFormat := by
      intro hSame
      rw [hSame] at hLine
      exact absurd hLine hPossible.2
    rw [hSession]
    show _ ∈ kept.formats.history
    rw [saveClick_formats hSave]
    exact (load registry).formats.mem_use hUsable hOther 9
  intro hSame
  have hValid := (load_save_iff (SettingsSession.detach_inRange hInRange hView) _).mp hSame
  exact (hValid.dateTimeFormatHistory _ hHistory).1 hLine

/-- In a session of any length, with any number of restarts, whatever the registry held at
its start: the settings stay in range, and what the engine stores is what they say, with the
deck following only when the tool is the recorder and deck control is on. Closing and starting
again never loses any of them exactly if the format in the registry was one line. -/
theorem session_settings (registry : Registry) :
    (∀ actions, (∀ action ∈ actions, action.Possible) →
      let s := ((SettingsSession.start registry).run actions).settings
      s.InRange ∧ ∀ tool (audio : PreviewAudio), 0 ≤ audio.volume ∧ audio.volume ≤ 100 →
        windvSetOptions (s.engineOptions tool audio).toNative =
          ({ type2AVI := s.type2Avi
             discontinuityThreshold := s.discontinuityThreshold
             maxAVIFrames := s.maxAviFrames
             everyNth := s.everyNth
             recordPreview := s.recordPreview
             DVctrl := tool = .record ∧ s.deckControl = true
             signalLossSeconds := s.signalLossSeconds }, audio)) ∧
    ((∀ actions, (∀ action ∈ actions, action.Possible) →
        let session := (SettingsSession.start registry).run actions
        ∀ view, (SettingsAction.close view).Possible →
          (session.step (.close view)).settings = session.settings.detach view) ↔
      wchar '\n' ∉ (load registry).dateTimeFormat) := by
  have hLoaded : (SettingsSession.start registry).settings.Valid := load_valid registry
  constructor
  · intro actions hPossible s
    have hInRange : s.InRange := SettingsSession.run_inRange hLoaded.toInRange hPossible
    exact ⟨hInRange, fun tool audio hVolume => windvSetOptions_inRange hInRange tool hVolume⟩
  · constructor
    · intro hSame hLine
      obtain ⟨actions, hPossible, hLost⟩ := lines_lost hLine
      have hView : (SettingsAction.close emptyView).Possible := ⟨by decide, by decide⟩
      exact hLost emptyView hView (hSame actions hPossible emptyView hView)
    · intro hLine actions hPossible session view hView
      have hKept := (SettingsSession.run_kept ⟨hLoaded, hLine⟩ hPossible).1
      exact (SettingsSession.step_close hKept hView).2

theorem session_settings_narrow :
    let registry : Registry := Function.update (fun _ => none) (.capture, wide "EveryNth") (some (.text (wide "-7")))
    let session := (SettingsSession.start registry).run [.saveClick narrowForm, .selectTool .record]
    session.settings.InRange ∧ session.settings.signalLossSeconds = 3600 ∧
      (session.step (.close emptyView)).settings = session.settings.detach emptyView := by
  intro registry session
  have hPossible : ∀ action ∈ [SettingsAction.saveClick narrowForm, .selectTool .record], action.Possible := by
    intro action hAction
    rcases List.mem_cons.mp hAction with rfl | hRest
    · exact ⟨by decide, by decide +kernel⟩
    · obtain rfl := List.mem_singleton.mp hRest
      exact trivial
  obtain ⟨hAll, hSame⟩ := session_settings registry
  refine ⟨(hAll _ hPossible).1, by decide +kernel, ?_⟩
  exact hSame.mpr (by decide +kernel) _ hPossible emptyView ⟨by decide, by decide⟩

/-- From a registry whose format is one line: until a form is accepted, the date formats on offer
are those of the registry. From then on they are those of the whole past, over any number of
restarts: most recent first, each once, without the empty one and the one in use, and at most ten.
With formats that are not empty nothing that was used is missing before the ten are reached. -/
theorem session_formats (registry : Registry) (hFormat : wchar '\n' ∉ (load registry).dateTimeFormat)
    (actions : List SettingsAction) (hPossible : ∀ action ∈ actions, action.Possible) :
    let s := ((SettingsSession.start registry).run actions).settings
    (formatsUsed actions = [] → s.formats = (load registry).formats) ∧
      ∀ (used : List WString) (last : WString), formatsUsed actions = used ++ [last] →
        let earlier := RecentlyUsed.past isKept
          (used.reverse ++ (load registry).dateTimeFormat :: (load registry).dateTimeFormatHistory) last
        s.dateTimeFormat = last ∧ s.dateTimeFormatHistory <+: earlier ∧
          s.dateTimeFormatHistory.length ≤ maxFormatHistory ∧ s.dateTimeFormatHistory.Nodup ∧
          ((∀ format ∈ used, format ≠ []) → s.dateTimeFormatHistory = earlier.take maxFormatHistory) := by
  intro s
  have hStart : (SettingsSession.start registry).settings.Kept := ⟨load_valid registry, hFormat⟩
  have hFormats : s.formats = _ := (SettingsSession.run_kept hStart hPossible).2
  constructor
  · intro hNone
    rw [hFormats, hNone]
    rfl
  · intro used last hUsed earlier
    rw [hUsed] at hFormats
    have hCurrent : s.dateTimeFormat = last := by
      show s.formats.current = last
      rw [hFormats, RecentlyUsed.Memory.useAll_current]
    have hPrefix : s.formats.history <+: earlier := by
      rw [hFormats]
      exact RecentlyUsed.Memory.useAll_prefix _ used last
    have hLength : s.formats.history.length ≤ maxFormatHistory := by
      rw [hFormats, RecentlyUsed.Memory.useAll_concat]
      exact List.length_take_le _ _
    refine ⟨hCurrent, hPrefix, hLength, (RecentlyUsed.past_nodup _ last).sublist hPrefix.sublist, ?_⟩
    intro hSome
    show s.formats.history = _
    rw [hFormats]
    apply RecentlyUsed.Memory.useAll_take
    intro format hUse
    exact decide_eq_true (List.length_pos_iff.mpr (hSome format hUse))

/-- The default format, another one, and back to the year. -/
theorem session_formats_year :
    let forms := [SettingsAction.saveClick { narrowForm with dateFormat := wide "%m" }, .saveClick narrowForm]
    let s := ((SettingsSession.start fun _ => none).run forms).settings
    s.dateTimeFormat = wide "%Y" ∧ s.dateTimeFormatHistory.Nodup ∧
      s.dateTimeFormatHistory.head? = some (wide "%m") := by
  intro forms s
  have hPossible : ∀ action ∈ forms, action.Possible := by
    intro action hAction
    rcases List.mem_cons.mp hAction with rfl | hRest
    · exact ⟨by decide, by decide +kernel⟩
    · obtain rfl := List.mem_singleton.mp hRest
      exact ⟨by decide, by decide +kernel⟩
  obtain ⟨-, hAll⟩ := session_formats (fun _ => none) (by decide +kernel) forms hPossible
  obtain ⟨hCurrent, -, -, hNodup, -⟩ := hAll [wide "%m"] (wide "%Y") (by decide +kernel)
  exact ⟨hCurrent, hNodup, by decide +kernel⟩

end Session

end WinDV
