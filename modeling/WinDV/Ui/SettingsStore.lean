import WinDV.Core.TimeFormat
import WinDV.Library.RecentlyUsed
import WinDV.Library.Separated
import WinDV.Library.Wrapping

/-! The settings, and the part of the registry they live in. Reading takes whatever is
there and puts it into range; writing stores every setting under the name it is read by. -/
namespace WinDV

/-- The four keys below `KeyPath`. -/
inductive RegistryKey where
  | mainWindow
  | capture
  | record
  | updates
  deriving DecidableEq, Repr

/-- What `GetValue` returns: a `REG_DWORD`, a `REG_QWORD`, a `REG_SZ`, or something else. -/
inductive RegistryValue where
  | dword (value : Int32)
  | qword (value : Int64)
  | text (value : WString)
  | other
  deriving DecidableEq, Repr

/-- The values, by key and name. A key that does not exist has none. Windows takes names that
differ only in their case for the same; there are none among those that are used here. -/
abbrev Registry := RegistryKey × WString → Option RegistryValue

/-- White space of a number's text. -/
def isNumberBlank (c : WChar) : Bool := c = wchar ' ' || (9 ≤ c && c ≤ 13)

/-- `TryParse` of an integer type with the bounds `low` and `high`: blanks around it, a
sign, digits, and nulls at the end. -/
def tryParse (low high : Int) (text : WString) : Option Int :=
  let body := text.dropWhile isNumberBlank
  let unsigned := if body.head? = some (wchar '-') ∨ body.head? = some (wchar '+') then body.tail else body
  let digits := unsigned.takeWhile isDigit
  let rest := ((unsigned.dropWhile isDigit).dropWhile isNumberBlank)
  let size : Int := Decimal.value (digits.map digitValue)
  let value := if body.head? = some (wchar '-') then -size else size
  if digits.isEmpty || rest.any (· ≠ 0) then none
  else if low ≤ value ∧ value ≤ high then some value
  else none

/-- `int.TryParse`. -/
def intTryParse (text : WString) : Option Int32 := (tryParse (-2 ^ 31) (2 ^ 31 - 1) text).map .ofInt

/-- `long.TryParse`. -/
def longTryParse (text : WString) : Option Int64 := (tryParse (-2 ^ 63) (2 ^ 63 - 1) text).map .ofInt

/-- `GetInt`. -/
def getInt (registry : Registry) (key : RegistryKey) (name : String) (fallback : Int32) : Int32 :=
  match registry (key, wide name) with
  | some (.dword value) => value
  | some (.text text) => (intTryParse text).getD fallback
  | _ => fallback

/-- `GetLong`. -/
def getLong (registry : Registry) (key : RegistryKey) (name : String) (fallback : Int64) : Int64 :=
  match registry (key, wide name) with
  | some (.qword value) => value
  | some (.dword value) => value.toInt64
  | some (.text text) => (longTryParse text).getD fallback
  | _ => fallback

/-- `GetString`. -/
def getString (registry : Registry) (key : RegistryKey) (name : String) (fallback : WString) : WString :=
  match registry (key, wide name) with
  | some (.text text) => text
  | _ => fallback

/-- `Math.Clamp`. -/
def clamp (value low high : Int32) : Int32 := max low (min value high)

def defaultDevice : WString := wide "Microsoft DV Camera and VCR"

def defaultFormatHistory : WString :=
  wide "%y-%m-%d_%H-%M-%S\n%Y-%m-%d_%H-%M\n%Y-%m-%d_%H-%M-%S\n%Y%m%d-%H%M%S\n%a_%H-%M-%S"

/-- `MaxFormatHistory`. -/
def maxFormatHistory : Nat := 10

/-- `DefaultSignalLossSeconds`. -/
def defaultSignalLossSeconds : Int32 := 10

/-- `SettingsStore`. -/
structure Settings where
  windowX : Int32 := 0
  windowY : Int32 := 0
  windowWidth : Int32 := 0
  windowHeight : Int32 := 0
  deckControl : Bool := false
  selectedTool : Int32 := 0
  workingDirectory : WString := wide "."
  previewVolume : Int32 := 100
  previewMuted : Bool := false
  captureDevice : WString := defaultDevice
  captureFile : WString := []
  type2Avi : Bool := true
  discontinuityThreshold : Int32 := 1
  maxAviFrames : Int32 := 25 * 60 * 15
  everyNth : Int32 := 1
  dateTimeFormat : WString := wide "%y-%m-%d_%H-%M"
  dateTimeFormatHistory : List WString := []
  suffixDigits : Int32 := 2
  signalLossSeconds : Int32 := 0
  recordDevice : WString := defaultDevice
  recordFile : WString := []
  aviPrefix : WString := []
  aviSuffix : WString := []
  recordPreview : Bool := true
  checkForUpdates : Bool := true
  lastUpdateCheck : Int64 := 0
  latestRelease : WString := []
  dismissedRelease : WString := []
  deriving DecidableEq, Repr

namespace Settings

/-- `Load`. -/
def load (registry : Registry) : Settings where
  windowX := getInt registry .mainWindow "X" 0
  windowY := getInt registry .mainWindow "Y" 0
  windowWidth := getInt registry .mainWindow "W" 0
  windowHeight := getInt registry .mainWindow "H" 0
  deckControl := getInt registry .mainWindow "DVControlEnabled" 0 > 0
  selectedTool := clamp (getInt registry .mainWindow "SelectedTool" 0) 0 1
  workingDirectory := getString registry .mainWindow "WorkingDirectory" (wide ".")
  previewVolume := clamp (getInt registry .mainWindow "PreviewVolume" 100) 0 100
  previewMuted := getInt registry .mainWindow "PreviewMuted" 0 > 0
  captureDevice := getString registry .capture "DVDevice" defaultDevice
  captureFile := getString registry .capture "File" []
  type2Avi := getInt registry .capture "Type2AVI" 1 > 0
  discontinuityThreshold := max 0 (getInt registry .capture "DiscontinuityThreshold" 1)
  maxAviFrames := max 10 (getInt registry .capture "MaxAVIFrames" (25 * 60 * 15))
  everyNth := max 1 (getInt registry .capture "EveryNth" 1)
  dateTimeFormat := getString registry .capture "DateTimeFormat" (wide "%y-%m-%d_%H-%M")
  dateTimeFormatHistory := Separated.parts (wchar '\n')
    (getString registry .capture "DateTimeFormatHistory" defaultFormatHistory)
  suffixDigits := clamp (getInt registry .capture "SuffixDigits" 2) 0 4
  signalLossSeconds := clamp (getInt registry .capture "StopOnSignalLoss" 0) 0 3600
  recordDevice := getString registry .record "DVDevice" defaultDevice
  recordFile := getString registry .record "File" []
  aviPrefix := getString registry .record "AVIPrefix" []
  aviSuffix := getString registry .record "AVISuffix" []
  recordPreview := getInt registry .record "Preview" 1 > 0
  checkForUpdates := getInt registry .updates "CheckForUpdates" 1 > 0
  lastUpdateCheck := getLong registry .updates "LastCheck" 0
  latestRelease := getString registry .updates "LatestRelease" []
  dismissedRelease := getString registry .updates "DismissedRelease" []

/-- `value ? 1 : 0`. -/
def flag (value : Bool) : RegistryValue := .dword (if value then 1 else 0)

/-- What `Save` writes, in its order. -/
def entries (s : Settings) : List ((RegistryKey × WString) × RegistryValue) :=
  [((.mainWindow, wide "X"), .dword s.windowX),
    ((.mainWindow, wide "Y"), .dword s.windowY),
    ((.mainWindow, wide "W"), .dword s.windowWidth),
    ((.mainWindow, wide "H"), .dword s.windowHeight),
    ((.mainWindow, wide "DVControlEnabled"), flag s.deckControl),
    ((.mainWindow, wide "SelectedTool"), .dword s.selectedTool),
    ((.mainWindow, wide "WorkingDirectory"), .text s.workingDirectory),
    ((.mainWindow, wide "PreviewVolume"), .dword s.previewVolume),
    ((.mainWindow, wide "PreviewMuted"), flag s.previewMuted),
    ((.capture, wide "DVDevice"), .text s.captureDevice),
    ((.capture, wide "File"), .text s.captureFile),
    ((.capture, wide "Type2AVI"), flag s.type2Avi),
    ((.capture, wide "DiscontinuityThreshold"), .dword s.discontinuityThreshold),
    ((.capture, wide "MaxAVIFrames"), .dword s.maxAviFrames),
    ((.capture, wide "EveryNth"), .dword s.everyNth),
    ((.capture, wide "DateTimeFormat"), .text s.dateTimeFormat),
    ((.capture, wide "DateTimeFormatHistory"), .text ([wchar '\n'].intercalate s.dateTimeFormatHistory)),
    ((.capture, wide "SuffixDigits"), .dword s.suffixDigits),
    ((.capture, wide "StopOnSignalLoss"), .dword s.signalLossSeconds),
    ((.record, wide "DVDevice"), .text s.recordDevice),
    ((.record, wide "File"), .text s.recordFile),
    ((.record, wide "AVIPrefix"), .text s.aviPrefix),
    ((.record, wide "AVISuffix"), .text s.aviSuffix),
    ((.record, wide "Preview"), flag s.recordPreview),
    ((.updates, wide "CheckForUpdates"), flag s.checkForUpdates),
    ((.updates, wide "LastCheck"), .qword s.lastUpdateCheck),
    ((.updates, wide "LatestRelease"), .text s.latestRelease),
    ((.updates, wide "DismissedRelease"), .text s.dismissedRelease)]

/-- `SetValue`. -/
def setValue (registry : Registry) (entry : (RegistryKey × WString) × RegistryValue) : Registry :=
  Function.update registry entry.1 (some entry.2)

/-- `Save`. -/
def save (s : Settings) (registry : Registry) : Registry := s.entries.foldl setValue registry

/-- `UseDateTimeFormat`. -/
def useDateTimeFormat (s : Settings) (format : WString) : Settings :=
  let history := (if 0 < s.dateTimeFormat.length then [s.dateTimeFormat] else []) ++ s.dateTimeFormatHistory
  { s with
    dateTimeFormatHistory :=
      ((history.filter fun f => decide (0 < f.length) && decide (f ≠ format)).eraseDups).take maxFormatHistory
    dateTimeFormat := format }

/-- The ranges of the settings. -/
structure InRange (s : Settings) : Prop where
  selectedTool : 0 ≤ s.selectedTool ∧ s.selectedTool ≤ 1
  previewVolume : 0 ≤ s.previewVolume ∧ s.previewVolume ≤ 100
  discontinuityThreshold : 0 ≤ s.discontinuityThreshold
  maxAviFrames : 10 ≤ s.maxAviFrames
  everyNth : 1 ≤ s.everyNth
  suffixDigits : 0 ≤ s.suffixDigits ∧ s.suffixDigits ≤ 4
  signalLossSeconds : 0 ≤ s.signalLossSeconds ∧ s.signalLossSeconds ≤ 3600

/-- Settings in range. A history entry is one line. -/
structure Valid (s : Settings) : Prop extends s.InRange where
  dateTimeFormatHistory : ∀ f ∈ s.dateTimeFormatHistory, wchar '\n' ∉ f ∧ f ≠ []

end Settings

theorem clamp_range (value : Int32) {low high : Int32} (h : low ≤ high) :
    low ≤ clamp value low high ∧ clamp value low high ≤ high :=
  ⟨le_max_left _ _, max_le h (min_le_right _ _)⟩

theorem clamp_self {value low high : Int32} (h : low ≤ value ∧ value ≤ high) :
    clamp value low high = value := by
  rw [clamp, min_eq_left h.2, max_eq_right h.1]

namespace Settings

/-- Whatever the registry holds, what is loaded is in range. -/
theorem load_valid (registry : Registry) : (load registry).Valid where
  selectedTool := clamp_range _ (by decide)
  previewVolume := clamp_range _ (by decide)
  discontinuityThreshold := le_max_left _ _
  maxAviFrames := le_max_left _ _
  everyNth := le_max_left _ _
  dateTimeFormatHistory := fun _ h => Separated.mem_parts h
  suffixDigits := clamp_range _ (by decide)
  signalLossSeconds := clamp_range _ (by decide)

/-- The names under which settings are stored. -/
def names : List (RegistryKey × WString) := ({} : Settings).entries.map Prod.fst

theorem names_nodup : names.Nodup := by decide +kernel

theorem entries_names (s : Settings) : s.entries.map Prod.fst = names := rfl

section Save

variable {registry : Registry} {entries : List ((RegistryKey × WString) × RegistryValue)}

/-- A name that is not written to keeps its value. -/
theorem foldl_setValue_other {name : RegistryKey × WString} (h : name ∉ entries.map Prod.fst) :
    entries.foldl setValue registry name = registry name := by
  induction entries generalizing registry with
  | nil => rfl
  | cons entry rest ih =>
      rw [List.map_cons, List.mem_cons, not_or] at h
      rw [List.foldl_cons, ih h.2, setValue, Function.update_of_ne h.1]

/-- A name that is written to once has the value that was written. -/
theorem foldl_setValue_get (hNodup : (entries.map Prod.fst).Nodup) {i : Nat} {name : RegistryKey × WString}
    {value : RegistryValue} (h : entries[i]? = some (name, value)) :
    entries.foldl setValue registry name = some value := by
  induction entries generalizing registry i with
  | nil => simp at h
  | cons entry rest ih =>
      rw [List.map_cons, List.nodup_cons] at hNodup
      rw [List.foldl_cons]
      cases i with
      | zero =>
          obtain rfl := Option.some.inj h
          rw [foldl_setValue_other hNodup.1, setValue, Function.update_self]
      | succ i => exact ih hNodup.2 h

variable {s : Settings} {i : Nat} {key : RegistryKey} {name : String}

theorem save_get {value : RegistryValue} (h : s.entries[i]? = some ((key, wide name), value)) :
    s.save registry (key, wide name) = some value :=
  foldl_setValue_get (by rw [entries_names]; exact names_nodup) h

theorem getInt_save {value fallback : Int32} (i : Nat) (h : s.entries[i]? = some ((key, wide name), .dword value)) :
    getInt (s.save registry) key name fallback = value := by
  rw [getInt, save_get h]

theorem getFlag_save {value : Bool} {fallback : Int32} (i : Nat)
    (h : s.entries[i]? = some ((key, wide name), flag value)) :
    decide (getInt (s.save registry) key name fallback > 0) = value := by
  rw [getInt_save i h]
  cases value with
  | true => rfl
  | false => rfl

theorem getString_save {value fallback : WString} (i : Nat)
    (h : s.entries[i]? = some ((key, wide name), .text value)) :
    getString (s.save registry) key name fallback = value := by
  rw [getString, save_get h]

end Save

/-- The history as the lines of its text. -/
def relined (s : Settings) : Settings :=
  { s with
    dateTimeFormatHistory :=
      Separated.parts (wchar '\n') ([wchar '\n'].intercalate s.dateTimeFormatHistory) }

/-- Saved settings come back, over whatever was in the registry before, with the history as
lines. -/
theorem load_save {s : Settings} (h : s.InRange) (registry : Registry) : load (s.save registry) = s.relined := by
  have hLong : getLong (s.save registry) .updates "LastCheck" 0 = s.lastUpdateCheck := by
    rw [getLong, save_get (i := 25) rfl]
  rw [load, getInt_save 0 rfl, getInt_save 1 rfl, getInt_save 2 rfl, getInt_save 3 rfl, getFlag_save 4 rfl,
    getInt_save 5 rfl, getString_save 6 rfl, getInt_save 7 rfl, getFlag_save 8 rfl, getString_save 9 rfl,
    getString_save 10 rfl, getFlag_save 11 rfl, getInt_save 12 rfl, getInt_save 13 rfl, getInt_save 14 rfl,
    getString_save 15 rfl, getString_save 16 rfl, getInt_save 17 rfl, getInt_save 18 rfl,
    getString_save 19 rfl, getString_save 20 rfl, getString_save 21 rfl, getString_save 22 rfl,
    getFlag_save 23 rfl, getFlag_save 24 rfl, hLong, getString_save 26 rfl, getString_save 27 rfl,
    clamp_self h.selectedTool, clamp_self h.previewVolume, max_eq_right h.discontinuityThreshold,
    max_eq_right h.maxAviFrames, max_eq_right h.everyNth, clamp_self h.suffixDigits,
    clamp_self h.signalLossSeconds]
  rfl

/-- They are what was saved exactly if each entry of the history is one line. -/
theorem load_save_iff {s : Settings} (h : s.InRange) (registry : Registry) :
    load (s.save registry) = s ↔ s.Valid := by
  rw [load_save h]
  constructor
  · intro hSame
    refine { h with dateTimeFormatHistory := fun f hf => ?_ }
    rw [← hSame] at hf
    exact Separated.mem_parts hf
  · intro hValid
    rw [relined, Separated.parts_intercalate hValid.dateTimeFormatHistory]

/-- The registry as a store of settings: whatever it holds, what is loaded is in range, and
settings in range are read back exactly as they were saved, over whatever was there before;
nothing under another name is touched. -/
theorem settings_round_trip (registry : Registry) :
    (load registry).Valid ∧ (∀ s : Settings, s.Valid → load (s.save registry) = s) ∧
      ∀ (s : Settings) (name : RegistryKey × WString), name ∉ names → s.save registry name = registry name := by
  refine ⟨load_valid registry, fun s hs => (load_save_iff hs.toInRange registry).mpr hs, fun s name hName => ?_⟩
  exact foldl_setValue_other (by rw [entries_names]; exact hName)

end Settings

end WinDV
