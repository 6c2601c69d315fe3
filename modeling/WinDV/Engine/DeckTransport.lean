import Mathlib.Data.List.Nodup
import WinDV.Core.TransportLogic

/-! `DVTransport`: what a deck is told for a button, and how what it reports is
read. A deck that does what it is told stands as a VCR with these buttons would. -/
namespace WinDV

/-- What `put_Mode` is called with. -/
inductive EdMode where
  | play
  | freeze
  | stop
  | ff
  | rew
  | playFastestFwd
  | playFastestRev
  | record
  | recordFreeze
  deriving DecidableEq, Repr

/-- The numbers of the SDK: `ED_BASE` and the `ED_MODE_*` that are used, which are below the
shuttle and trick-play modes. -/
structure EdCodes where
  base : Int
  stop : Int
  play : Int
  freeze : Int
  ff : Int
  rew : Int
  record : Int
  recordFreeze : Int
  distinct : [stop, play, freeze, ff, rew, record, recordFreeze].Nodup
  below : ∀ code ∈ [stop, play, freeze, ff, rew, record, recordFreeze], code < base + 933

namespace EdCodes

variable (ed : EdCodes)

def kModePlayFastestFwd : Int := ed.base + 933

def kModePlayFastestRev : Int := ed.base + 935

def kModePlaySlowestFwd : Int := ed.base + 934

def kModePlaySlowestRev : Int := ed.base + 936

def kModeRewFastest : Int := ed.base + 938

def kModeRevPlay : Int := ed.base + 939

def kModePlaySlowFwdFirst : Int := ed.base + 1001

def kModePlaySlowFwdLast : Int := ed.base + 1006

def kModePlayFastFwdFirst : Int := ed.base + 1007

def kModePlayFastFwdLast : Int := ed.base + 1012

def kModePlaySlowRevFirst : Int := ed.base + 1013

def kModePlaySlowRevLast : Int := ed.base + 1018

def kModePlayFastRevFirst : Int := ed.base + 1019

def kModePlayFastRevLast : Int := ed.base + 1024

def kModeReverseFreeze : Int := ed.base + 1025

def kModePlaySlowFwdX : Int := ed.base + 1026

def kModePlayFastFwdX : Int := ed.base + 1027

def kModePlaySlowRevX : Int := ed.base + 1028

def kModePlayFastRevX : Int := ed.base + 1029

end EdCodes

/-- `InRange`. -/
def inRange (mode first last : Int) : Bool := first ≤ mode && mode ≤ last

/-- `ToDeckMode`. -/
def toDeckMode (ed : EdCodes) (mode : Int) : DeckMode :=
  if mode = ed.stop then .stopped
  else if mode = ed.play ∨ mode = ed.kModePlaySlowestFwd ∨ mode = ed.kModePlaySlowFwdX then .playing
  else if mode = ed.freeze ∨ mode = ed.kModeReverseFreeze then .paused
  else if mode = ed.ff then .fastForward
  else if mode = ed.rew ∨ mode = ed.kModeRewFastest then .rewind
  else if mode = ed.kModePlayFastestFwd ∨ mode = ed.kModePlayFastFwdX then .cueForward
  else if mode = ed.kModePlayFastestRev ∨ mode = ed.kModePlaySlowestRev ∨ mode = ed.kModePlayFastRevX ∨
      mode = ed.kModePlaySlowRevX ∨ mode = ed.kModeRevPlay then .cueReverse
  else if mode = ed.record then .recording
  else if mode = ed.recordFreeze then .recordPaused
  else if inRange mode ed.kModePlaySlowFwdFirst ed.kModePlaySlowFwdLast then .playing
  else if inRange mode ed.kModePlayFastFwdFirst ed.kModePlayFastFwdLast then .cueForward
  else if inRange mode ed.kModePlaySlowRevFirst ed.kModePlaySlowRevLast ∨
      inRange mode ed.kModePlayFastRevFirst ed.kModePlayFastRevLast then .cueReverse
  else .unknown

/-- `DVTransport::Mode`, with the answer of `get_Mode`, which may fail. -/
def transportMode (ed : EdCodes) (attached : Bool) (mode : Option Int) : DeckMode :=
  if attached then mode.elim .unknown (toDeckMode ed) else .unknown

/-- The calls of `put_Mode` for a request. -/
def DeckRequest.puts : DeckRequest → List EdMode
  | none => []
  | play => [.play]
  | freeze => [.freeze]
  | playThenFreeze => [.play, .freeze]
  | stop => [.stop]
  | windForward => [.ff]
  | windReverse => [.rew]
  | cueForward => [.playFastestFwd]
  | cueReverse => [.playFastestRev]

/-- `DVTransport::Command`. -/
def transportCommand (ed : EdCodes) (attached : Bool) (mode : Option Int) (command : DeckCommand) :
    List EdMode :=
  if attached then (resolveDeckCommand command (transportMode ed attached mode)).puts else []

/-- `CtrlStop`, `CtrlPlay`, `CtrlPause`, `CtrlRecord` and `CtrlRecPause`. -/
inductive DeckControl where
  | stop
  | play
  | pause
  | record
  | recPause
  deriving DecidableEq, Repr

/-- The calls of `put_Mode` for it. -/
def DeckControl.puts : DeckControl → List EdMode
  | stop => [.stop]
  | play => [.play]
  | pause => [.play, .freeze]
  | record => [.record]
  | recPause => [.recordFreeze]

section Vcr

/-- What a VCR does, as its user sees it. -/
inductive Vcr where
  | stopped
  | playing
  | paused
  | winding (forward : Bool)
  | searching (forward : Bool)
  | recording
  | recordPaused
  deriving DecidableEq, Repr

namespace Vcr

/-- There is a picture. -/
def hasPicture : Vcr → Bool
  | playing | paused | searching _ => true
  | _ => false

def isRecording (vcr : Vcr) : Bool := vcr = recording || vcr = recordPaused

/-- Its buttons: winding becomes a search where there is a picture, a second Pause resumes,
and a recording can only be stopped. -/
def press (vcr : Vcr) (command : DeckCommand) : Vcr :=
  if vcr.isRecording then if command = .stop then stopped else vcr
  else
    match command with
    | .play => playing
    | .pause => if vcr = paused then playing else paused
    | .stop => stopped
    | .fastForward => if vcr.hasPicture then searching true else winding true
    | .rewind => if vcr.hasPicture then searching false else winding false

/-- A deck that does what it is told. Only a picture can be frozen. -/
def obey (vcr : Vcr) : EdMode → Vcr
  | .play => playing
  | .freeze => if vcr.hasPicture then paused else vcr
  | .stop => stopped
  | .ff => winding true
  | .rew => winding false
  | .playFastestFwd => searching true
  | .playFastestRev => searching false
  | .record => recording
  | .recordFreeze => recordPaused

/-- How the mode is read. -/
def deckMode : Vcr → DeckMode
  | stopped => .stopped
  | playing => .playing
  | paused => .paused
  | winding true => .fastForward
  | winding false => .rewind
  | searching true => .cueForward
  | searching false => .cueReverse
  | recording => .recording
  | recordPaused => .recordPaused

/-- The number of the SDK for it. A search is only asked for at full speed. -/
def label (ed : EdCodes) : Vcr → Option Int
  | stopped => some ed.stop
  | playing => some ed.play
  | paused => some ed.freeze
  | winding true => some ed.ff
  | winding false => some ed.rew
  | searching _ => none
  | recording => some ed.record
  | recordPaused => some ed.recordFreeze

/-- The shuttle and trick-play modes of its family, by their distance from `ED_BASE`: a deck
that plays may do so slowly, and a search may have any speed. -/
def Shuttles : Vcr → Int → Prop
  | playing, shuttle => shuttle = 934 ∨ shuttle = 1026 ∨ 1001 ≤ shuttle ∧ shuttle ≤ 1006
  | paused, shuttle => shuttle = 1025
  | winding false, shuttle => shuttle = 938
  | searching true, shuttle => shuttle = 933 ∨ shuttle = 1027 ∨ 1007 ≤ shuttle ∧ shuttle ≤ 1012
  | searching false, shuttle =>
      shuttle = 935 ∨ shuttle = 936 ∨ shuttle = 939 ∨ shuttle = 1028 ∨ shuttle = 1029 ∨
        1013 ≤ shuttle ∧ shuttle ≤ 1024
  | _, _ => False

/-- The numbers a deck may report: not always the one it was given, but one of its family. -/
def Reports (ed : EdCodes) (vcr : Vcr) (code : Int) : Prop :=
  vcr.label ed = some code ∨ ∃ shuttle, code = ed.base + shuttle ∧ vcr.Shuttles shuttle

end Vcr

variable {ed : EdCodes} {vcr : Vcr}

/-- The modes that a deck is put in are below those it makes up itself. -/
theorem EdCodes.low (ed : EdCodes) :
    ed.stop < ed.base + 933 ∧ ed.play < ed.base + 933 ∧ ed.freeze < ed.base + 933 ∧ ed.ff < ed.base + 933 ∧
      ed.rew < ed.base + 933 ∧ ed.record < ed.base + 933 ∧ ed.recordFreeze < ed.base + 933 := by
  have hBelow := ed.below
  simp only [List.mem_cons, List.not_mem_nil, or_false, forall_eq_or_imp, forall_eq] at hBelow
  exact hBelow

/-- A mode that the deck was put in is none of those it makes up itself. -/
theorem EdCodes.apart (ed : EdCodes) {code shuttle : Int} (hCode : code < ed.base + 933) (h : 933 ≤ shuttle) :
    code ≠ ed.base + shuttle := by omega

/-- The labels of the `switch` that the deck was put in are read as they are. -/
theorem toDeckMode_low (ed : EdCodes) :
    toDeckMode ed ed.stop = .stopped ∧ toDeckMode ed ed.play = .playing ∧ toDeckMode ed ed.freeze = .paused ∧
      toDeckMode ed ed.ff = .fastForward ∧ toDeckMode ed ed.rew = .rewind ∧
      toDeckMode ed ed.record = .recording ∧ toDeckMode ed ed.recordFreeze = .recordPaused := by
  obtain ⟨hStop, hPlay, hFreeze, hFf, hRew, hRecord, hRecordFreeze⟩ := ed.low
  have hDistinct := ed.distinct
  simp only [List.nodup_cons, List.mem_cons, List.not_mem_nil, or_false, not_or] at hDistinct
  obtain ⟨⟨hStopPlay, hStopFreeze, hStopFf, hStopRew, hStopRecord, hStopPaused⟩,
    ⟨hPlayFreeze, hPlayFf, hPlayRew, hPlayRecord, hPlayPaused⟩,
    ⟨hFreezeFf, hFreezeRew, hFreezeRecord, hFreezePaused⟩, ⟨hFfRew, hFfRecord, hFfPaused⟩,
    ⟨hRewRecord, hRewPaused⟩, hRecordPaused, -⟩ := hDistinct
  simp only [toDeckMode, EdCodes.kModePlaySlowestFwd, EdCodes.kModePlaySlowFwdX, EdCodes.kModeReverseFreeze,
    EdCodes.kModeRewFastest, EdCodes.kModePlayFastestFwd, EdCodes.kModePlayFastFwdX, EdCodes.kModePlayFastestRev,
    EdCodes.kModePlaySlowestRev, EdCodes.kModePlayFastRevX, EdCodes.kModePlaySlowRevX, EdCodes.kModeRevPlay]
  refine ⟨if_pos trivial, ?_, ?_, ?_, ?_, ?_, ?_⟩
  · simp [Ne.symm hStopPlay]
  · simp [Ne.symm hStopFreeze, Ne.symm hPlayFreeze, ed.apart hFreeze]
  · simp [Ne.symm hStopFf, Ne.symm hPlayFf, Ne.symm hFreezeFf, ed.apart hFf]
  · simp [Ne.symm hStopRew, Ne.symm hPlayRew, Ne.symm hFreezeRew, Ne.symm hFfRew, ed.apart hRew]
  · simp [Ne.symm hStopRecord, Ne.symm hPlayRecord, Ne.symm hFreezeRecord, Ne.symm hFfRecord,
      Ne.symm hRewRecord, ed.apart hRecord]
  · simp [Ne.symm hStopPaused, Ne.symm hPlayPaused, Ne.symm hFreezePaused, Ne.symm hFfPaused,
      Ne.symm hRewPaused, Ne.symm hRecordPaused, ed.apart hRecordFreeze]

/-- The others are read by their distance from `ED_BASE`. -/
theorem toDeckMode_high (ed : EdCodes) {shuttle : Int} (h : 933 ≤ shuttle) :
    toDeckMode ed (ed.base + shuttle) =
      if shuttle = 934 ∨ shuttle = 1026 then .playing
      else if shuttle = 1025 then .paused
      else if shuttle = 938 then .rewind
      else if shuttle = 933 ∨ shuttle = 1027 then .cueForward
      else if shuttle = 935 ∨ shuttle = 936 ∨ shuttle = 1029 ∨ shuttle = 1028 ∨ shuttle = 939 then .cueReverse
      else if 1001 ≤ shuttle ∧ shuttle ≤ 1006 then .playing
      else if 1007 ≤ shuttle ∧ shuttle ≤ 1012 then .cueForward
      else if 1013 ≤ shuttle ∧ shuttle ≤ 1018 ∨ 1019 ≤ shuttle ∧ shuttle ≤ 1024 then .cueReverse
      else .unknown := by
  obtain ⟨hStop, hPlay, hFreeze, hFf, hRew, hRecord, hRecordFreeze⟩ := ed.low
  simp only [toDeckMode, inRange, EdCodes.kModePlayFastestFwd, EdCodes.kModePlayFastestRev,
    EdCodes.kModePlaySlowestFwd, EdCodes.kModePlaySlowestRev, EdCodes.kModeRewFastest, EdCodes.kModeRevPlay,
    EdCodes.kModePlaySlowFwdFirst, EdCodes.kModePlaySlowFwdLast, EdCodes.kModePlayFastFwdFirst,
    EdCodes.kModePlayFastFwdLast, EdCodes.kModePlaySlowRevFirst, EdCodes.kModePlaySlowRevLast,
    EdCodes.kModePlayFastRevFirst, EdCodes.kModePlayFastRevLast, EdCodes.kModeReverseFreeze,
    EdCodes.kModePlaySlowFwdX, EdCodes.kModePlayFastFwdX, EdCodes.kModePlaySlowRevX, EdCodes.kModePlayFastRevX,
    Bool.and_eq_true, decide_eq_true_eq, Int.add_right_inj, Int.add_le_add_iff_left,
    (ed.apart hStop h).symm, (ed.apart hPlay h).symm, (ed.apart hFreeze h).symm, (ed.apart hFf h).symm,
    (ed.apart hRew h).symm, (ed.apart hRecord h).symm, (ed.apart hRecordFreeze h).symm, if_false, false_or]

theorem toDeckMode_shuttles {shuttle : Int} (h : vcr.Shuttles shuttle) :
    toDeckMode ed (ed.base + shuttle) = vcr.deckMode := by
  have hHigh : 933 ≤ shuttle := by
    rcases vcr with _ | _ | _ | (_ | _) | (_ | _) | _ | _ <;> simp only [Vcr.Shuttles] at h <;> omega
  rw [toDeckMode_high ed hHigh]
  rcases vcr with _ | _ | _ | (_ | _) | (_ | _) | _ | _ <;> simp only [Vcr.Shuttles] at h <;>
    split_ifs <;> first | rfl | omega

/-- A number of its family is read as the mode. -/
theorem toDeckMode_reports {code : Int} (h : vcr.Reports ed code) : toDeckMode ed code = vcr.deckMode := by
  obtain ⟨hStop, hPlay, hFreeze, hFf, hRew, hRecord, hRecordFreeze⟩ := toDeckMode_low ed
  rcases h with hLabel | ⟨shuttle, rfl, hShuttle⟩
  · rcases vcr with _ | _ | _ | (_ | _) | _ | _ | _ <;> cases hLabel
    · exact hStop
    · exact hPlay
    · exact hFreeze
    · exact hRew
    · exact hFf
    · exact hRecord
    · exact hRecordFreeze
  · exact toDeckMode_shuttles hShuttle

/-- What a press puts a deck in that does what it is told. -/
def Vcr.pressed (ed : EdCodes) (vcr : Vcr) (press : DeckCommand × Int) : Vcr :=
  (transportCommand ed true (some press.2) press.1).foldl Vcr.obey vcr

/-- A run of presses, each with what the deck reports before it. -/
def Vcr.run (ed : EdCodes) (vcr : Vcr) (presses : List (DeckCommand × Int)) : Vcr :=
  presses.foldl (Vcr.pressed ed) vcr

/-- The deck reports truly all along. -/
def Vcr.ReportsAll (ed : EdCodes) : Vcr → List (DeckCommand × Int) → Prop
  | _, [] => True
  | vcr, press :: rest => vcr.Reports ed press.2 ∧ (vcr.pressed ed press).ReportsAll ed rest

theorem transportMode_reports {code : Int} (h : vcr.Reports ed code) :
    transportMode ed true (some code) = vcr.deckMode := toDeckMode_reports h

/-- A press does what the button of the VCR does. -/
theorem pressed_eq {press : DeckCommand × Int} (h : vcr.Reports ed press.2) :
    vcr.pressed ed press = vcr.press press.1 := by
  obtain ⟨command, code⟩ := press
  have hMode := transportMode_reports h
  simp only at hMode
  simp only [Vcr.pressed, transportCommand, hMode, if_true]
  rcases vcr with _ | _ | _ | (_ | _) | (_ | _) | _ | _ <;> cases command <;> rfl

theorem Vcr.ReportsAll.append {presses more : List (DeckCommand × Int)} (h : vcr.ReportsAll ed (presses ++ more)) :
    vcr.ReportsAll ed presses ∧ (vcr.run ed presses).ReportsAll ed more := by
  induction presses generalizing vcr with
  | nil => exact ⟨trivial, h⟩
  | cons press rest ih =>
      obtain ⟨hReports, hRest⟩ := h
      obtain ⟨hFirst, hMore⟩ := ih hRest
      exact ⟨⟨hReports, hFirst⟩, hMore⟩

theorem Vcr.run_eq {presses : List (DeckCommand × Int)} (h : vcr.ReportsAll ed presses) :
    vcr.run ed presses = (presses.map Prod.fst).foldl Vcr.press vcr := by
  induction presses generalizing vcr with
  | nil => rfl
  | cons press rest ih =>
      obtain ⟨hReports, hRest⟩ := h
      rw [List.map_cons, List.foldl_cons, ← pressed_eq hReports, ← ih hRest]
      rfl

/-- No button records, whatever is reported; and where a recording is reported only Stop does
anything. -/
theorem transportCommand_safe {attached : Bool} {mode : Option Int} {command : DeckCommand} {put : EdMode}
    (hPut : put ∈ transportCommand ed attached mode command) :
    put ≠ .record ∧ put ≠ .recordFreeze ∧
      (transportMode ed attached mode = .recording ∨ transportMode ed attached mode = .recordPaused →
        command = .stop ∧ put = .stop) := by
  rw [transportCommand] at hPut
  split_ifs at hPut with hAttached
  · generalize transportMode ed attached mode = current at hPut ⊢
    revert put
    cases current <;> cases command <;> decide
  · cases hPut

/-- A deck that does what it is told and reports truly, under any presses of the buttons,
stands as a VCR with these buttons would; and none of them records. -/
theorem deck_is_a_vcr (ed : EdCodes) (vcr : Vcr) (presses : List (DeckCommand × Int))
    (h : vcr.ReportsAll ed presses) :
    vcr.run ed presses = (presses.map Prod.fst).foldl Vcr.press vcr ∧
      ∀ before press after, presses = before ++ press :: after →
        ∀ put ∈ transportCommand ed true (some press.2) press.1, put ≠ .record ∧ put ≠ .recordFreeze ∧
          ((vcr.run ed before).isRecording = true → press.1 = .stop ∧ put = .stop) := by
  refine ⟨Vcr.run_eq h, ?_⟩
  rintro before press after rfl put hPut
  obtain ⟨-, hReports, -⟩ := h.append
  obtain ⟨hRecord, hPaused, hStop⟩ := transportCommand_safe hPut
  refine ⟨hRecord, hPaused, fun hRecording => hStop ?_⟩
  rw [transportMode_reports hReports]
  generalize vcr.run ed before = current at hRecording
  rw [Vcr.isRecording, Bool.or_eq_true, decide_eq_true_eq, decide_eq_true_eq] at hRecording
  rcases hRecording with rfl | rfl
  · exact Or.inl rfl
  · exact Or.inr rfl

/-- Numbers for concrete runs. -/
def EdCodes.plain : EdCodes where
  base := 4096
  stop := 4297
  play := 4296
  freeze := 4298
  ff := 4300
  rew := 4301
  record := 4302
  recordFreeze := 4304
  distinct := by decide
  below := by decide

/-- Play, a search that is reported as the fastest of its family, and a pause of it. -/
theorem deck_is_a_vcr_search :
    Vcr.run .plain .stopped [(.play, 4297), (.fastForward, 4296), (.pause, 4096 + 1012)] = .paused := by
  have hFastest : (Vcr.searching true).Shuttles 1012 := Or.inr (Or.inr (by decide))
  have hReports : Vcr.ReportsAll .plain .stopped [(.play, 4297), (.fastForward, 4296), (.pause, 4096 + 1012)] :=
    ⟨Or.inl rfl, Or.inl rfl, Or.inr ⟨1012, rfl, hFastest⟩, trivial⟩
  exact (deck_is_a_vcr .plain .stopped _ hReports).1

end Vcr

end WinDV
