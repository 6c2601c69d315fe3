import WinDV.Library.Separated
import WinDV.Native.ErrorText
import WinDV.Ui.MainViewModel

/-! The list of devices, from the enumeration over the buffer to the window, and back from a
choice to the device. Devices come and go meanwhile: every try to read the list enumerates anew. -/
namespace WinDV

open GrowingBuffer

/-- What an enumeration finds of a device: its friendly name and its device path, where the
property bag can be read and holds a string. -/
structure VideoDevice where
  friendlyName : Option WString
  devicePath : Option WString := none
  deriving DecidableEq, Repr

/-- What an enumeration of the devices finds, or the text of its exception. -/
abbrev Enumeration := Except WString (List VideoDevice)

section Engine

variable (cf : CaseFold)

/-- The path without the front that stands for the local machine. -/
def withoutPrefix (devicePath : WString) : WString :=
  if 4 ≤ devicePath.length ∧
      (devicePath.take 4 = wide "\\\\?\\" ∨ devicePath.take 4 = wide "##?#") then devicePath.drop 4
  else devicePath

/-- `IsDVDevicePath`. -/
def isDVDevicePath (devicePath : WString) : Bool :=
  [wide "avc#", wide "61883#"].any fun bus =>
    bus.length ≤ (withoutPrefix devicePath).length && wcsnicmpEqual cf (withoutPrefix devicePath) bus bus.length

/-- The devices that `ForEachVideoDevice` visits, by name. -/
def visited (devices : List VideoDevice) : List (WString × VideoDevice) :=
  devices.filterMap fun device => device.friendlyName.map fun name => (name, device)

/-- `GetVideoDeviceList`. -/
def getVideoDeviceList (devices : List VideoDevice) : List WString :=
  let all := (visited devices).map Prod.fst
  let dv := ((visited devices).filter fun entry => isDVDevicePath cf (entry.2.devicePath.getD [])).map Prod.fst
  if dv = [] then all else dv

/-- How `FindVideoDevice` ends. -/
inductive FoundDevice where
  | opened (device : VideoDevice)
  | cannotOpen (device : VideoDevice)
  | notFound
  deriving DecidableEq, Repr

/-- `FindVideoDevice`, with the devices that can be opened. -/
def findVideoDevice (opens : VideoDevice → Bool) (devices : List VideoDevice) (device : WString) : FoundDevice :=
  match (visited devices).find? (·.1 = device) with
  | some found => if opens found.2 then .opened found.2 else .cannotOpen found.2
  | none => .notFound

end Engine

section Interop

variable (cf : CaseFold)

/-- The list in one text. -/
def deviceText (names : List WString) : WString := names.foldl (Separated.appendPart (wchar '\n')) []

/-- What `windv_list_devices` returns and leaves behind its pointers. -/
structure DeviceAnswer where
  result : NativeResult
  needed : Int32 := 0
  text : WString
  deriving DecidableEq, Repr

/-- How the action of the call ends. -/
def Enumeration.action : Enumeration → ActionEnd
  | .ok _ => .returned
  | .error message => .dshowError message false

/-- What the action leaves in `list`. -/
def Enumeration.text : Enumeration → WString
  | .ok devices => deviceText (getVideoDeviceList cf devices)
  | .error _ => []

/-- `windv_list_devices`. -/
def windvListDevices (enumeration : Enumeration) (s : ErrorPlaces) (buffer : WString) : DeviceAnswer × ErrorPlaces :=
  let call := s.call enumeration.action
  if call.1 ≠ .ok then ({ result := call.1, text := buffer }, call.2)
  else
    let copy := copyOut (enumeration.text cf) buffer
    ({ result := if (buffer.length : Int) < copy.1.toInt then .bufferTooSmall else .ok
       needed := copy.1
       text := copy.2 }, call.2)

/-- Between the tries: the places of an error, and the enumerations so far. -/
structure DeviceTries where
  places : ErrorPlaces := {}
  tries : Nat := 0
  deriving DecidableEq, Repr

variable (enumerations : Nat → Enumeration)

/-- One turn of the loop of `ListDevicesAsync`. -/
def listDevicesTry (s : DeviceTries) (length : Nat) :
    Attempt (Except EngineException (List WString)) × DeviceTries :=
  let (answer, places) := windvListDevices cf (enumerations s.tries) s.places (List.replicate length 0)
  if answer.result = .bufferTooSmall then
    (.tooSmall answer.needed.toInt.toNat, { places := places, tries := s.tries + 1 })
  else
    let (thrown, places) := places.check answer.result
    (.done (match thrown with
        | some e => .error e
        | none => .ok (Separated.parts (wchar '\n') (answer.text.take (answer.needed.toInt - 1).toNat))),
      { places := places, tries := s.tries + 1 })

theorem windvListDevices_tooSmall {cf : CaseFold} {enumeration : Enumeration} {places : ErrorPlaces}
    {buffer : WString} (h : (windvListDevices cf enumeration places buffer).1.result = .bufferTooSmall) :
    (buffer.length : Int) < (windvListDevices cf enumeration places buffer).1.needed.toInt := by
  unfold windvListDevices at h ⊢
  by_cases hCall : (places.call enumeration.action).1 = .ok
  · simp only [hCall, ne_eq, not_true_eq_false, if_false] at h ⊢
    by_contra hFits
    rw [if_neg hFits] at h
    cases h
  · simp only [ne_eq, hCall, not_false_eq_true, if_true] at h
    unfold ErrorPlaces.call at h
    split at h
    · cases h
    · dsimp only at h
      split_ifs at h
    · cases h
    · cases h

theorem listDevicesTry_grows (s : DeviceTries) (length needed : Nat)
    (h : (listDevicesTry cf enumerations s length).1 = .tooSmall needed) : length < needed ∧ needed ≤ 2 ^ 31 := by
  simp only [listDevicesTry] at h
  split_ifs at h with hTooSmall
  have hMore := windvListDevices_tooSmall hTooSmall
  have hLt := (windvListDevices cf (enumerations s.tries) s.places (List.replicate length 0)).1.needed.toInt_lt
  have hNeeded := Attempt.tooSmall.inj h
  rw [List.length_replicate] at hMore
  omega

def listDevicesFiller : Filler DeviceTries (Except EngineException (List WString)) where
  limit := 2 ^ 31
  fill := listDevicesTry cf enumerations
  grows := listDevicesTry_grows cf enumerations

/-- `DvEngine.ListDevicesAsync`. -/
def listDevicesAsync (places : ErrorPlaces) : Except EngineException (List WString) × DeviceTries :=
  (listDevicesFiller cf enumerations).read 4096 { places := places }

end Interop

section Engine

variable {cf : CaseFold} {devices : List VideoDevice} {name : WString}

/-- The listed names are names of devices that are there. -/
theorem getVideoDeviceList_sublist : (getVideoDeviceList cf devices).Sublist ((visited devices).map Prod.fst) := by
  rw [getVideoDeviceList]
  split_ifs
  · exact List.Sublist.refl _
  · exact List.filter_sublist.map Prod.fst

theorem mem_visited {device : VideoDevice} :
    (name, device) ∈ visited devices ↔ device ∈ devices ∧ device.friendlyName = some name := by
  simp only [visited, List.mem_filterMap, Option.map_eq_some_iff, Prod.mk.injEq]
  constructor
  · rintro ⟨other, hMember, text, hName, rfl, rfl⟩
    exact ⟨hMember, hName⟩
  · rintro ⟨hMember, hName⟩
    exact ⟨device, hMember, name, hName, rfl, rfl⟩

/-- A listed name finds a device of that name. -/
theorem find_listed (opens : VideoDevice → Bool) (h : name ∈ getVideoDeviceList cf devices) :
    ∃ device ∈ devices, device.friendlyName = some name ∧
      findVideoDevice opens devices name = if opens device then .opened device else .cannotOpen device := by
  obtain ⟨entry, hEntry, hName⟩ := List.mem_map.mp (getVideoDeviceList_sublist.subset h)
  rw [findVideoDevice]
  cases hFind : (visited devices).find? (·.1 = name) with
  | none =>
      have hNot := List.find?_eq_none.mp hFind entry hEntry
      exact absurd (decide_eq_true hName) hNot
  | some found =>
      obtain ⟨text, device⟩ := found
      have hText : text = name := by simpa using List.find?_some hFind
      subst hText
      obtain ⟨hMember, hDevice⟩ := mem_visited.mp (List.mem_of_find?_eq_some hFind)
      exact ⟨device, hMember, hDevice, rfl⟩

end Engine

section Window

/-- The choices that the window keeps: what is listed comes first, as it is, and behind it, once,
each saved choice that is not listed. -/
structure Choices (v : ViewModel) (names choices : List WString) : Prop where
  saved : ∃ behind, choices = names ++ behind ∧ behind.Nodup ∧ ∀ choice,
    choice ∈ behind ↔ choice ≠ [] ∧ choice ∉ names ∧ (choice = v.captureDevice ∨ choice = v.recordDevice)

/-- A choice is only added where it is missing. -/
theorem keepSaved (names behind : List WString) (hNodup : behind.Nodup) (saved : WString) :
    ∃ more, (if 0 < saved.length && !(names ++ behind).contains saved then names ++ behind ++ [saved]
        else names ++ behind) = names ++ more ∧ more.Nodup ∧
      ∀ choice, choice ∈ more ↔ choice ∈ behind ∨ choice = saved ∧ choice ≠ [] ∧ choice ∉ names := by
  split_ifs with hMissing
  · simp only [Bool.and_eq_true, decide_eq_true_eq, Bool.not_eq_true', List.contains_eq_mem,
      decide_eq_false_iff_not, List.mem_append, not_or] at hMissing
    obtain ⟨hSome, hName, hBehind⟩ := hMissing
    refine ⟨behind ++ [saved], List.append_assoc _ _ _, ?_, fun choice => ?_⟩
    · rw [List.nodup_append']
      exact ⟨hNodup, List.nodup_singleton saved, by simpa using hBehind⟩
    · rw [List.mem_append, List.mem_singleton]
      constructor
      · rintro (hOld | rfl)
        · exact Or.inl hOld
        · exact Or.inr ⟨rfl, List.ne_nil_of_length_pos hSome, hName⟩
      · rintro (hOld | ⟨hSame, -⟩)
        · exact Or.inl hOld
        · exact Or.inr hSame
  · refine ⟨behind, rfl, hNodup, fun choice => ⟨Or.inl, ?_⟩⟩
    rintro (hOld | ⟨rfl, hSome, hName⟩)
    · exact hOld
    · by_contra hBehind
      apply hMissing
      simp [List.length_pos_iff.mpr hSome, hName, hBehind]

theorem refreshed_choices (v : ViewModel) (names : List WString) : Choices v names (v.refreshed names).devices := by
  obtain ⟨first, hFirst, hNodup, hCapture⟩ := keepSaved names [] List.nodup_nil v.captureDevice
  obtain ⟨behind, hBehind, hAll, hRecord⟩ := keepSaved names first hNodup v.recordDevice
  refine ⟨behind, ?_, hAll, fun choice => ?_⟩
  · rw [← hBehind, ← hFirst, List.append_nil]
    rfl
  · rw [hRecord, hCapture]
    simp only [List.not_mem_nil, false_or]
    tauto

/-- What is asked leaves the devices and the choices of the window as they are. -/
def LeavesChoices : Cooperative.Request ViewModel EngineStatus EngineCall ViewEvent → Prop
  | .change f => ∀ v, (f v).devices = v.devices ∧ (f v).presentDevices = v.presentDevices ∧
      (f v).captureDevice = v.captureDevice ∧ (f v).recordDevice = v.recordDevice
  | .fork event => event = .closeWindow
  | .call _ => False
  | _ => True

/-- The window shows the message of an exception, and leaves the choices as they are. -/
structure ShowsError (e : EngineException) (task : ViewTask Unit) : Prop where
  shown : ∃ next, task = .ask (.change fun v => { v with
    errorTitle := wide "Something went wrong"
    errorMessage := e.message
    hasError := true }) next
  leaves : task.Asks LeavesChoices

open Dialogue ViewTask

theorem onlyIf_leaves (condition : Bool) {task : ViewTask Unit} (h : task.Asks LeavesChoices) :
    (onlyIf condition task).Asks LeavesChoices := by
  cases condition with
  | true => exact h
  | false => exact trivial

theorem showMessageThen_leaves {update : ViewTask Unit} (h : update.Asks LeavesChoices) (title message : WString) :
    (showMessageThen update title message).Asks LeavesChoices :=
  ⟨fun _ => ⟨rfl, rfl, rfl, rfl⟩, fun _ => h⟩

theorem updateStatusThen_leaves {update : ViewTask Unit} (h : update.Asks LeavesChoices) :
    (updateStatusThen update).Asks LeavesChoices := by
  refine ⟨trivial, fun v => onlyIf_leaves _ ⟨trivial, fun s => ?_⟩⟩
  have hNote : (noteStatusThen update s).Asks LeavesChoices := by
    refine ⟨fun _ => ⟨rfl, rfl, rfl, rfl⟩, fun _ => ⟨trivial, fun _ => ⟨fun _ => ⟨rfl, rfl, rfl, rfl⟩, fun _ => ?_⟩⟩⟩
    refine onlyIf_leaves _ ⟨trivial, fun now => ?_⟩
    show (announceThen update s.stopReason (stopMessage now.settings s.stopReason)).Asks LeavesChoices
    cases stopMessage now.settings s.stopReason with
    | none => exact trivial
    | some text => exact ⟨fun _ => ⟨rfl, rfl, rfl, rfl⟩, fun _ => showMessageThen_leaves h _ _⟩
  refine hNote.bind fun _ => ⟨trivial, fun now => onlyIf_leaves _ ?_⟩
  exact ⟨fun _ => ⟨rfl, rfl, rfl, rfl⟩, fun _ => ⟨rfl, fun _ => trivial⟩⟩

theorem updateStatus_leaves : updateStatus.Asks LeavesChoices := by
  apply updateStatusThen_leaves
  apply updateStatusThen_leaves
  exact ⟨fun _ => ⟨rfl, rfl, rfl, rfl⟩, fun _ => trivial⟩

theorem devicesListed_error (e : EngineException) : ShowsError e (devicesListed (.error e)) where
  shown := ⟨_, rfl⟩
  leaves := showMessageThen_leaves updateStatus_leaves _ _

end Window

section Arrival

variable {cf : CaseFold} {enumerations : Nat → Enumeration} {s : DeviceTries}

/-- The names of a list, but for the empty ones, come out of its text again. -/
theorem parts_deviceText {devices : List VideoDevice}
    (hNames : ∀ device ∈ devices, ∀ name, device.friendlyName = some name → wchar '\n' ∉ name) :
    Separated.parts (wchar '\n') (deviceText (getVideoDeviceList cf devices)) =
      (getVideoDeviceList cf devices).filter (· ≠ []) := by
  apply Separated.parts_foldl_appendPart
  intro name hName
  obtain ⟨⟨text, device⟩, hVisited, rfl⟩ := List.mem_map.mp (getVideoDeviceList_sublist.subset hName)
  obtain ⟨hMember, hDevice⟩ := mem_visited.mp hVisited
  exact hNames device hMember text hDevice

/-- A try that enumerates leaves the places of an error as they were. -/
theorem listDevicesTry_ok {devices : List VideoDevice} (hRunning : s.places.engineError ≠ none)
    (hOk : enumerations s.tries = .ok devices)
    (hSize : (deviceText (getVideoDeviceList cf devices)).length + 1 < 2 ^ 31)
    (hNames : ∀ device ∈ devices, ∀ name, device.friendlyName = some name → wchar '\n' ∉ name) (length : Nat) :
    listDevicesTry cf enumerations s length =
      (if (deviceText (getVideoDeviceList cf devices)).length + 1 ≤ length then
          .done (.ok ((getVideoDeviceList cf devices).filter (· ≠ [])))
        else .tooSmall ((deviceText (getVideoDeviceList cf devices)).length + 1),
        { places := s.places, tries := s.tries + 1 }) := by
  have hParts : Separated.parts (wchar '\n') (deviceText (getVideoDeviceList cf devices)) = _ := parts_deviceText hNames
  have hAnswer : windvListDevices cf (enumerations s.tries) s.places (List.replicate length 0) =
      ({ result := if (length : Int) < (neededSize (deviceText (getVideoDeviceList cf devices))).toInt then
           .bufferTooSmall else .ok
         needed := neededSize (deviceText (getVideoDeviceList cf devices))
         text := (copyOut (deviceText (getVideoDeviceList cf devices)) (List.replicate length 0)).2 }, s.places) := by
    have hCopy : (copyOut (deviceText (getVideoDeviceList cf devices)) (List.replicate length 0)).1 =
        neededSize (deviceText (getVideoDeviceList cf devices)) := rfl
    rw [hOk]
    simp [windvListDevices, ErrorPlaces.call, hRunning, Enumeration.action, Enumeration.text, hCopy]
  rw [listDevicesTry, hAnswer]
  generalize deviceText (getVideoDeviceList cf devices) = text at hSize hParts ⊢
  have hNeeded := neededSize_of_lt hSize
  by_cases hFits : text.length + 1 ≤ length
  · have hNot : ¬ (length : Int) < (neededSize text).toInt := by omega
    have hTaken : (copyOut text (List.replicate length 0)).2.take ((neededSize text).toInt - 1).toNat = text := by
      have hIndex : ((neededSize text).toInt - 1).toNat = (neededSize text).toInt.toNat - 1 := by omega
      rw [hIndex, copyOut_take text _ (by rw [List.length_replicate]; omega), copied_of_lt hSize]
    rw [if_neg hNot, if_pos hFits]
    show (Attempt.done (Except.ok (Separated.parts (wchar '\n')
      ((copyOut text (List.replicate length 0)).2.take ((neededSize text).toInt - 1).toNat))), _) = _
    rw [hTaken, hParts]
  · have hTooSmall : (length : Int) < (neededSize text).toInt := by omega
    rw [if_pos hTooSmall, if_neg hFits]
    show (Attempt.tooSmall (neededSize text).toInt.toNat, _) = _
    rw [hNeeded]
    rfl

/-- A try whose enumeration throws ends with the exception of a failed call. -/
theorem listDevicesTry_error {message : WString} (hRunning : s.places.engineError ≠ none)
    (hError : enumerations s.tries = .error message) (length : Nat) :
    ∃ e, (listDevicesTry cf enumerations s length).1 = .done (.error e) ∧
      (listDevicesTry cf enumerations s length).2.tries = s.tries + 1 ∧ e.deviceNotFound = false ∧
      ((s.places.setError message).check .failed).1 = some e := by
  have hAnswer : windvListDevices cf (enumerations s.tries) s.places (List.replicate length 0) =
      ({ result := .failed, text := List.replicate length 0 }, s.places.setError message) := by
    rw [hError]
    simp [windvListDevices, ErrorPlaces.call, hRunning, Enumeration.action]
  rw [listDevicesTry, hAnswer]
  exact ⟨_, rfl, rfl, rfl, rfl⟩

/-- What the last enumeration has to do with what arrives: its listed names, each of which finds
a device of that name among the enumerated ones, and which the window offers with the saved
choices behind them; or an error with the text of its exception, as far as a text can reach the
user, and with the choices left alone. -/
def Arrives (cf : CaseFold) (places : ErrorPlaces) :
    Enumeration → Except EngineException (List WString) → Prop
  | .ok devices, arrived =>
      arrived = .ok ((getVideoDeviceList cf devices).filter (· ≠ [])) ∧
        (∀ name ∈ getVideoDeviceList cf devices, ∀ opens, ∃ device ∈ devices, device.friendlyName = some name ∧
          findVideoDevice opens devices name = if opens device then .opened device else .cannotOpen device) ∧
        ViewTask.devicesListed arrived =
          ViewTask.change (·.refreshed ((getVideoDeviceList cf devices).filter (· ≠ []))) ∧
        ∀ v : ViewModel, Choices v ((getVideoDeviceList cf devices).filter (· ≠ []))
          (v.refreshed ((getVideoDeviceList cf devices).filter (· ≠ []))).devices
  | .error message, arrived =>
      ∃ e, arrived = .error e ∧ e.deviceNotFound = false ∧
        (message ≠ [] → message.length < 512 → e.message = message) ∧
        (∀ text, (places.setError message).Fits text → e.message = text) ∧
        ((∀ text, ¬ (places.setError message).Fits text) →
          e.message = wide "The DV engine reported an error (Failed).") ∧
        ShowsError e (ViewTask.devicesListed arrived)

theorem arrives_error {places : ErrorPlaces} {message : WString} {e : EngineException}
    (hCause : e.deviceNotFound = false) (hCheck : ((places.setError message).check .failed).1 = some e) :
    Arrives cf places (.error message) (.error e) := by
  obtain ⟨hReaches, hNone⟩ := ErrorPlaces.check_message hCheck
  refine ⟨e, rfl, hCause, ?_, hReaches, hNone, devicesListed_error e⟩
  exact fun hSome hShort => hReaches message (ErrorPlaces.fits_setError hSome hShort)

/-- What one try can do: end with what has to arrive of its enumeration, or, with nothing changed
but the count of the tries, ask for a buffer that has room for the names. -/
theorem listDevicesTry_cases (hRunning : s.places.engineError ≠ none)
    (hNames : ∀ devices, enumerations s.tries = .ok devices →
      ∀ device ∈ devices, ∀ name, device.friendlyName = some name → wchar '\n' ∉ name)
    (hSize : ∀ devices, enumerations s.tries = .ok devices →
      (deviceText (getVideoDeviceList cf devices)).length + 1 < 2 ^ 31) (length : Nat) :
    (∃ value next, listDevicesTry cf enumerations s length = (.done value, next) ∧
      next.tries = s.tries + 1 ∧ Arrives cf s.places (enumerations s.tries) value) ∨
    ∃ devices, enumerations s.tries = .ok devices ∧
      length < (deviceText (getVideoDeviceList cf devices)).length + 1 ∧
      listDevicesTry cf enumerations s length =
        (.tooSmall ((deviceText (getVideoDeviceList cf devices)).length + 1),
          { places := s.places, tries := s.tries + 1 }) := by
  cases hEnumeration : enumerations s.tries with
  | ok devices =>
      have hTry := listDevicesTry_ok hRunning hEnumeration (hSize _ hEnumeration) (hNames _ hEnumeration) length
      split_ifs at hTry with hFits
      · refine Or.inl ⟨_, _, hTry, rfl, rfl, ?_, rfl, fun v => refreshed_choices v _⟩
        exact fun name hName opens => find_listed opens hName
      · exact Or.inr ⟨devices, rfl, Nat.not_le.mp hFits, hTry⟩
  | error message =>
      obtain ⟨e, hDone, hTries, hCause, hCheck⟩ := listDevicesTry_error hRunning hEnumeration length
      exact Or.inl ⟨_, _, Prod.ext hDone rfl, hTries, arrives_error hCause hCheck⟩

/-- Devices may come and go between the tries to read the list: what arrives is that of the
last enumeration, whole; and if nothing changes there are two at most. -/
theorem device_list_arrives (cf : CaseFold) (enumerations : Nat → Enumeration) (places : ErrorPlaces)
    (hRunning : places.engineError ≠ none)
    (hNames : ∀ n devices, enumerations n = .ok devices →
      ∀ device ∈ devices, ∀ name, device.friendlyName = some name → wchar '\n' ∉ name)
    (hSize : ∀ n devices, enumerations n = .ok devices →
      (deviceText (getVideoDeviceList cf devices)).length + 1 < 2 ^ 31) :
    (∃ n, (listDevicesAsync cf enumerations places).2.tries = n + 1 ∧
      Arrives cf places (enumerations n) (listDevicesAsync cf enumerations places).1) ∧
    ((∀ n, enumerations n = enumerations 0) → (listDevicesAsync cf enumerations places).2.tries ≤ 2) := by
  have hTry := fun (s : DeviceTries) (hPlaces : s.places = places) (length : Nat) =>
    @listDevicesTry_cases cf enumerations s (by rw [hPlaces]; exact hRunning) (hNames s.tries) (hSize s.tries) length
  have hGrow : ∀ (s : DeviceTries) length needed next, s.places = places →
      (listDevicesFiller cf enumerations).fill s length = (.tooSmall needed, next) → next.places = places := by
    intro s length needed next hPlaces hFill
    rcases hTry s hPlaces length with ⟨value, after, hEnds, -⟩ | ⟨devices, -, -, hGrows⟩
    · cases hFill.symm.trans hEnds
    · cases hFill.symm.trans hGrows
      exact hPlaces
  have hDone : ∀ (s : DeviceTries) length value next, s.places = places →
      (listDevicesFiller cf enumerations).fill s length = (.done value, next) →
      ∃ n, next.tries = n + 1 ∧ Arrives cf places (enumerations n) value := by
    intro s length value next hPlaces hFill
    rcases hTry s hPlaces length with ⟨arrived, after, hEnds, hTries, hArrives⟩ | ⟨devices, -, -, hGrows⟩
    · cases hFill.symm.trans hEnds
      exact ⟨s.tries, hTries, hPlaces ▸ hArrives⟩
    · cases hFill.symm.trans hGrows
  refine ⟨Filler.read_rule hGrow hDone rfl, fun hSteady => ?_⟩
  rw [listDevicesAsync]
  rcases hTry { places := places } rfl 4096 with ⟨value, after, hEnds, hTries, -⟩ | ⟨devices, hOk, -, hGrows⟩
  · rw [Filler.read_done hEnds, hTries]
    exact Nat.le_succ 1
  · -- The second try enumerates the same devices, and the buffer has room for them.
    rw [Filler.read_tooSmall hGrows]
    rcases hTry { places := places, tries := 0 + 1 } rfl
        ((deviceText (getVideoDeviceList cf devices)).length + 1) with
      ⟨value, after, hEnds, hTries, -⟩ | ⟨others, hOthers, hLess, -⟩
    · rw [Filler.read_done hEnds, hTries]
    · obtain rfl := Except.ok.inj (hOk.symm.trans ((hSteady 1).symm.trans hOthers))
      exact absurd hLess (lt_irrefl _)

/-- A camcorder on the FireWire bus and a webcam. -/
def plugged : List VideoDevice :=
  [⟨some (wide "Webcam"), some (wide "\\\\?\\usb#vid")⟩, ⟨some (wide "Canon"), some (wide "\\\\?\\AVC#ven")⟩]

/-- Only the camcorder arrives. -/
theorem device_list_arrives_camcorder :
    (listDevicesAsync .ascii (fun _ => .ok plugged) {}).1 = .ok [wide "Canon"] := by
  have hNames : ∀ device ∈ plugged, ∀ name, device.friendlyName = some name → wchar '\n' ∉ name := by
    intro device hDevice name hName
    rcases List.mem_cons.mp hDevice with rfl | hRest
    · cases hName
      decide
    · obtain rfl := List.mem_singleton.mp hRest
      cases hName
      decide
  obtain ⟨⟨n, -, hArrives, -⟩, -⟩ := device_list_arrives .ascii (fun _ => .ok plugged) {} nofun
    (fun _ devices hOk => by cases hOk; exact hNames) (fun _ devices hOk => by cases hOk; decide)
  rw [hArrives]
  decide

end Arrival

end WinDV
