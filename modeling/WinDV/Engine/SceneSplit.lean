import WinDV.Engine.FrameInHand
import WinDV.Library.Segmentation
import WinDV.Library.Wrapping

/-! How a capture is cut into files: where a file starts, which of its frames
it gets, and the time it is named after. -/
namespace WinDV

open Segmentation

/-- The options the cut depends on, with a positive length and a positive step. -/
structure SplitSettings where
  discontinuityThreshold : Int
  maxAVIFrames : Nat
  everyNth : Nat
  maxAVIFrames_pos : 0 < maxAVIFrames
  everyNth_pos : 0 < everyNth

/-- The options of the engine have these values. -/
structure SplitSettings.Are (settings : SplitSettings) (options : Options) : Prop where
  discontinuityThreshold : options.discontinuityThreshold.toInt = settings.discontinuityThreshold
  maxAVIFrames : options.maxAVIFrames.toInt = settings.maxAVIFrames
  everyNth : options.everyNth.toInt = settings.everyNth

/-- The last valid recording time in a sequence of frames, after one that is inherited. -/
def lastValidTime (env : Environment) (inherited : Int) (frames : List Frame) : Int :=
  frames.foldl (fun last frame =>
    if 0 < recordingTime env frame then recordingTime env frame else last) inherited

/-- The first valid recording time in a file, or what its first frame has instead. -/
def firstValidTime (env : Environment) (frames : List Frame) : Int :=
  ((frames.map (recordingTime env)).find? fun time => 0 < time).getD
    ((frames.map (recordingTime env)).headD 0)

/-- The frame's valid recording time is too far from the last valid one before it. -/
def NewScene (settings : SplitSettings) (env : Environment) (lastValid : Int) (frame : Frame) :
    Prop :=
  0 < settings.discontinuityThreshold ∧ 0 < recordingTime env frame ∧ 0 < lastValid ∧
    settings.discontinuityThreshold < |recordingTime env frame - lastValid|

/-- A frame starts a file after the frames before it, of which those in `part`
are those of the current file. -/
def StartsFile (settings : SplitSettings) (env : Environment) (inherited : Int)
    (before part : List Frame) (frame : Frame) : Prop :=
  (everyNth settings.everyNth part).length = settings.maxAVIFrames ∨
    NewScene settings env (lastValidTime env inherited before) frame

/-- What has been written for the frames of one file. -/
structure FileOf (settings : SplitSettings) (env : Environment) (part : List Frame)
    (writer : AVIWriter) : Prop where
  frames : writer.frames = everyNth settings.everyNth part
  not_empty : 1 ≤ writer.frames.length
  not_too_long : writer.frames.length ≤ settings.maxAVIFrames
  dvTime : writer.dvTime = firstValidTime env part

variable {settings : SplitSettings} {env : Environment} {inherited : Int} {part : List Frame}
  {frame : Frame} {writer : AVIWriter}

theorem lastValidTime_concat (frames : List Frame) :
    lastValidTime env inherited (frames ++ [frame]) =
      if 0 < recordingTime env frame then recordingTime env frame
      else lastValidTime env inherited frames := by
  rw [lastValidTime, List.foldl_append]
  rfl

theorem firstValidTime_singleton : firstValidTime env [frame] = recordingTime env frame := by
  unfold firstValidTime
  by_cases h : 0 < recordingTime env frame
  · simp [h]
  · simp [h]

/-- The first valid time is filled in from the first frame that has one. -/
theorem firstValidTime_concat (hPart : part ≠ []) :
    firstValidTime env (part ++ [frame]) =
      if 0 < recordingTime env frame ∧ firstValidTime env part ≤ 0 then recordingTime env frame
      else firstValidTime env part := by
  obtain ⟨first, rest, rfl⟩ := List.exists_cons_of_ne_nil hPart
  unfold firstValidTime
  rw [List.map_append, List.find?_append]
  cases hFind : ((first :: rest).map (recordingTime env)).find? fun time => 0 < time with
  | some time =>
      have hTime : 0 < time := by simpa using List.find?_some hFind
      rw [if_neg (fun h => absurd h.2 (not_le.mpr hTime))]
      rfl
  | none =>
      have hFirst : recordingTime env first ≤ 0 := by
        simpa using List.find?_eq_none.mp hFind (recordingTime env first) (by simp)
      by_cases hFrame : 0 < recordingTime env frame
      · simp [hFrame, hFirst]
      · simp [hFrame]

/-- A file starts with its first frame. -/
theorem FileOf.start (hFrames : writer.frames = []) (hTime : writer.dvTime = recordingTime env frame) :
    FileOf settings env [frame]
      ((writer.handleFrame frame).stampTime (recordingTime env frame)) where
  frames := by simp [AVIWriter.handleFrame, hFrames]
  not_empty := by simp [AVIWriter.handleFrame]
  not_too_long := by
    have := settings.maxAVIFrames_pos
    simp only [AVIWriter.stampTime_frames, AVIWriter.handleFrame, hFrames]
    exact this
  dvTime := by
    rw [firstValidTime_singleton, AVIWriter.stampTime]
    split_ifs
    · rfl
    · exact hTime

theorem FileOf.part_ne_nil (h : FileOf settings env part writer) : part ≠ [] := by
  rintro rfl
  have hLength := h.not_empty
  rw [h.frames] at hLength
  exact absurd hLength (by simp [everyNth])

theorem FileOf.stampTime (h : FileOf settings env part writer) :
    (writer.stampTime (recordingTime env frame)).dvTime = firstValidTime env (part ++ [frame]) := by
  rw [firstValidTime_concat h.part_ne_nil, ← h.dvTime, AVIWriter.stampTime]
  split_ifs
  · rfl
  · rfl

/-- A file that is not full takes a frame at one of its positions. -/
theorem FileOf.write (h : FileOf settings env part writer)
    (notFull : (everyNth settings.everyNth part).length ≠ settings.maxAVIFrames)
    (nth : part.length % settings.everyNth = 0) :
    FileOf settings env (part ++ [frame])
      ((writer.handleFrame frame).stampTime (recordingTime env frame)) where
  frames := by
    rw [AVIWriter.stampTime_frames, everyNth_concat, if_pos nth, ← h.frames]
    rfl
  not_empty := by simp [AVIWriter.handleFrame]
  not_too_long := by
    have hLength := h.not_too_long
    rw [← h.frames] at notFull
    simp only [AVIWriter.stampTime_frames, AVIWriter.handleFrame, List.length_append,
      List.length_singleton]
    omega
  dvTime := by
    rw [← h.stampTime]
    unfold AVIWriter.stampTime AVIWriter.handleFrame
    split_ifs
    · rfl
    · rfl

/-- The other frames only may give it its time. -/
theorem FileOf.pass (h : FileOf settings env part writer) (notNth : part.length % settings.everyNth ≠ 0) :
    FileOf settings env (part ++ [frame]) (writer.stampTime (recordingTime env frame)) where
  frames := by
    rw [AVIWriter.stampTime_frames, everyNth_concat, if_neg notNth, List.append_nil, h.frames]
  not_empty := by simpa using h.not_empty
  not_too_long := by simpa using h.not_too_long
  dvTime := h.stampTime

namespace CaptureLocals

variable {l : CaptureLocals}

/-- The last valid time is that of the last frame, if that has one. -/
def TimeTracked (l : CaptureLocals) : Prop := 0 < l.dvTime → l.lastValidDVTime = l.dvTime

theorem TimeTracked.track (h : l.TimeTracked) (newDVTime : Int) : (l.track newDVTime).TimeTracked := by
  unfold CaptureLocals.track
  by_cases hSame : newDVTime = l.dvTime
  · rw [if_pos hSame]
    exact h
  · rw [if_neg hSame]
    by_cases hValid : 0 < newDVTime
    · rw [if_pos hValid]
      exact fun _ => rfl
    · rw [if_neg hValid]
      exact fun hNow => absurd hNow hValid

theorem TimeTracked.track_lastValid (h : l.TimeTracked) (newDVTime : Int) :
    (l.track newDVTime).lastValidDVTime =
      if 0 < newDVTime then newDVTime else l.lastValidDVTime := by
  unfold CaptureLocals.track
  by_cases hSame : newDVTime = l.dvTime
  · rw [if_pos hSame]
    split_ifs with hValid
    · exact (h (hSame ▸ hValid)).trans hSame.symm
    · rfl
  · rw [if_neg hSame]
    split_ifs <;> rfl

/-- The jump is measured from the last valid time, over any frames without one. -/
theorem TimeTracked.jump_iff (h : l.TimeTracked) {threshold : Int} (hThreshold : 0 < threshold)
    (newDVTime : Int) : threshold < (l.track newDVTime).deltaDVTime ↔
      0 < newDVTime ∧ 0 < l.lastValidDVTime ∧ threshold < |newDVTime - l.lastValidDVTime| := by
  unfold CaptureLocals.track
  by_cases hSame : newDVTime = l.dvTime
  · rw [if_pos hSame]
    refine iff_of_false (not_lt.mpr hThreshold.le) ?_
    rintro ⟨hValid, -, hJump⟩
    rw [h (hSame ▸ hValid), hSame, sub_self, abs_zero] at hJump
    exact absurd hJump (not_lt.mpr hThreshold.le)
  · rw [if_neg hSame]
    by_cases hValid : 0 < newDVTime
    · by_cases hLast : 0 < l.lastValidDVTime
      · simp [hValid, hLast]
      · simp [hValid, hLast, hThreshold.le]
    · simp [hValid, hThreshold.le]

end CaptureLocals

end WinDV
