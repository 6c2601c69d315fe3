import WinDV.Engine.SplitRuns

/-! Which frames a capture keeps when only the length of its files cuts it. A
file is full with the last frame it keeps, and the next frame starts a file in
which the loop counts anew. -/
namespace WinDV

open Transition Segmentation

/-- How many frames of the capture a full file covers. -/
def SplitSettings.fileSpan (settings : SplitSettings) : Nat :=
  partLength settings.maxAVIFrames settings.everyNth

/-- The positions in the capture at which a frame is kept. -/
abbrev SplitSettings.Keeps (settings : SplitSettings) (i : Nat) : Prop :=
  i % settings.fileSpan % settings.everyNth = 0

/-- None of the frames is a new scene after those before it. -/
def NoNewScene (settings : SplitSettings) (env : Environment) (inherited : Int)
    (frames : List Frame) : Prop :=
  ∀ before frame, before ++ [frame] <+: frames →
    ¬ NewScene settings env (lastValidTime env inherited before) frame

variable {settings : SplitSettings} {env : Environment} {inherited : Int} {start w : World}
  {handled pending frames : List Frame} {parts : List (List Frame)} {saved : List SavedFile}

/-- A writer without frames has written none. -/
theorem World.started_frames (w : World) :
    w.started.flatMap AVIWriter.frames = w.aviWriter.toList.flatMap AVIWriter.frames := by
  cases hWriter : w.aviWriter with
  | none => rw [World.started_none hWriter]; rfl
  | some writer =>
      by_cases hFrames : writer.frames = []
      · rw [World.started_fresh hWriter hFrames]
        simp [hFrames]
      · rw [World.started_some hWriter hFrames]
        rfl

theorem fileOf_frames {writers : List AVIWriter} (h : List.Forall₂ (FileOf settings env) parts writers) :
    writers.flatMap AVIWriter.frames = (parts.map (everyNth settings.everyNth)).flatten := by
  induction h with
  | nil => rfl
  | cons hFile _ ih => rw [List.flatMap_cons, ih, hFile.frames, List.map_cons, List.flatten_cons]

/-- What has been written since the start are the frames kept of each part. -/
theorem Filed.written (h : Filed settings env inherited start w handled pending parts saved)
    (hStart : start.aviWriter = none) :
    w.written = start.written ++ (parts.map (everyNth settings.everyNth)).flatten := by
  rw [← fileOf_frames h.files, List.flatMap_append, w.started_frames, World.written, h.finished,
    List.flatMap_append, World.written, hStart, List.flatMap_map]
  simp

/-- Without a new scene a file starts exactly when the last one covers its span. -/
theorem startsFile_iff {before part : List Frame} {frame : Frame}
    (hScene : ¬ NewScene settings env (lastValidTime env inherited before) frame)
    (hPart : part.length ≤ settings.fileSpan) :
    StartsFile settings env inherited before part frame ↔ part.length = settings.fileSpan := by
  rw [StartsFile, or_iff_left hScene]
  exact length_everyNth_eq_iff settings.maxAVIFrames_pos settings.everyNth_pos hPart

/-- The frames kept, by their positions in the capture. -/
theorem Filed.positions (h : Filed settings env inherited start w handled pending parts saved)
    (hStart : start.aviWriter = none) (hScenes : NoNewScene settings env inherited handled) :
    w.written = start.written ++ atPositions settings.Keeps handled := by
  rw [h.written hStart]
  congr 1
  apply (h.segmented.everyNth_parts (Nat.succ_pos _) _).1
  intro before frame hBefore part hPart
  exact startsFile_iff (hScenes before frame hBefore) hPart

namespace Config

variable {c c' : Config} {log : List (Config × Action)} {pc : CapturePc} {l : CaptureLocals}

/-- While a capture goes on without a new scene, it keeps the frames at the
positions that are multiples of `everyNth` modulo the span of a file. These are
the multiples of `everyNth` themselves exactly if it is 1 or the capture is no
longer than one file. -/
theorem length_split_positions (h : Reachable (Config.step env) {} c) (thread : c.worker = .capture pc l)
    (awaits : pc.awaitsFrame = true) (noFile : c.world.aviWriter = none)
    (run : Runs (Config.step env) c log c')
    (steady : ∀ entry ∈ log, entry.1.Steady settings entry.2)
    (dequeued : c'.world.history.dequeued = c.world.history.dequeued ++ frames)
    (scenes : NoNewScene settings env l.lastValidDVTime frames) :
    ∃ handled pending, frames = handled ++ pending ∧ pending.length ≤ 1 ∧
      (c'.awaitsFrame = true → pending = []) ∧
      c'.world.written = c.world.written ++ atPositions settings.Keeps handled ∧
      ((∀ i < handled.length, (settings.Keeps i ↔ i % settings.everyNth = 0)) ↔
        settings.everyNth = 1 ∨ handled.length ≤ settings.fileSpan) ∧
      (settings.everyNth = 1 ∨ handled.length ≤ settings.fileSpan →
        c'.world.written = c.world.written ++ everyNth settings.everyNth handled) := by
  obtain ⟨handled, pending, parts, saved, hFiled, hThread⟩ :=
    filedAt_run h thread awaits noFile run steady
  have hAll : c.world.history.dequeued ++ frames = c.world.history.dequeued ++ (handled ++ pending) := by
    rw [← dequeued, hFiled.dequeued, List.append_assoc]
  have hFrames : frames = handled ++ pending := List.append_cancel_left hAll
  have hScenes : NoNewScene settings env l.lastValidDVTime handled := by
    intro before frame hBefore
    apply scenes before frame
    rw [hFrames]
    exact hBefore.trans (List.prefix_append _ _)
  have hWritten := hFiled.positions noFile hScenes
  have hSame : (∀ i < handled.length, (settings.Keeps i ↔ i % settings.everyNth = 0)) ↔
      settings.everyNth = 1 ∨ handled.length ≤ settings.fileSpan :=
    same_positions_iff settings.everyNth_pos
  refine ⟨handled, pending, hFrames, hFiled.pending_le, fun hAwaits => ?_, hWritten, hSame, fun hShort => ?_⟩
  · obtain ⟨⟨pc', l'⟩, hSome, hPc⟩ := (Option.any_eq_true _ _).mp hAwaits
    exact (hThread pc' l' hSome).2 hPc
  · rw [hWritten, everyNth_eq_atPositions]
    congr 1
    exact atPositions_congr handled (hSame.mpr hShort)

theorem recordingTime_plain (frame : Frame) : recordingTime .plain frame = 0 := by
  unfold recordingTime getDVRecordingTime
  split
  · rfl
  · split
    · dsimp only
      split
      · rfl
      · rfl
    · rfl

theorem noNewScene_plain : NoNewScene settings .plain inherited frames := by
  rintro before frame - ⟨-, hValid, -⟩
  rw [recordingTime_plain] at hValid
  exact lt_irrefl 0 hValid

/-- The four frames of a capture that keeps every second one, two to a file. -/
theorem fourFrames_written :
    ∃ log c log' c' pc l, Runs (Config.step .plain) {} log c ∧ c.worker = .capture pc l ∧
      pc.awaitsFrame = true ∧ c.world.aviWriter = none ∧ Runs (Config.step .plain) c log' c' ∧
      (∀ entry ∈ log', entry.1.Steady everySecond entry.2) ∧ c'.awaitsFrame = true ∧
      c.world.history.dequeued = [] ∧ c.world.written = [] ∧
      c'.world.history.dequeued = [⟨1, []⟩, ⟨2, []⟩, ⟨3, []⟩, ⟨4, []⟩] ∧
      c'.world.written = [⟨1, []⟩, ⟨3, []⟩, ⟨4, []⟩] := by
  obtain ⟨log, c, log', c', run, run', hActions, hTest⟩ := exec_witness_then (Config.step .plain) {}
    everySecondStarted fourFrames
    (fun c log c' => c.awaitsFrame && c.world.aviWriter.isNone && c'.awaitsFrame &&
      keepsEverySecond log && c.world.history.dequeued == [] && c.world.written == [] &&
      c'.world.history.dequeued == [⟨1, []⟩, ⟨2, []⟩, ⟨3, []⟩, ⟨4, []⟩] &&
      c'.world.written == [⟨1, []⟩, ⟨3, []⟩, ⟨4, []⟩]) (by decide +kernel)
  simp only [Bool.and_eq_true, beq_iff_eq, Option.isNone_iff_eq_none] at hTest
  obtain ⟨⟨⟨⟨⟨⟨⟨hStart, hNoFile⟩, hAwaits⟩, hKeeps⟩, hNone⟩, hNothing⟩, hDequeued⟩, hWritten⟩ := hTest
  obtain ⟨⟨pc, l⟩, hSome, hPc⟩ := (Option.any_eq_true _ _).mp hStart
  exact ⟨log, c, log', c', pc, l, run, captureThread_eq_some.mp hSome, hPc, hNoFile, run',
    steady_fourFrames hActions hKeeps, hAwaits, hNone, hNothing, hDequeued, hWritten⟩

/-- The fourth frame starts a file, so it is kept next to the third. -/
theorem length_split_positions_four :
    ∃ log c log' c', Runs (Config.step .plain) {} log c ∧ Runs (Config.step .plain) c log' c' ∧
      c'.world.history.dequeued.map Frame.duration = [1, 2, 3, 4] ∧
      c'.world.written.map Frame.duration = [1, 3, 4] ∧
      c'.world.written = atPositions everySecond.Keeps c'.world.history.dequeued := by
  obtain ⟨log, c, log', c', pc, l, run, hThread, hPc, hNoFile, run', hSteady, hAwaits, hNone, hNothing,
    hDequeued, hWritten⟩ := fourFrames_written
  obtain ⟨handled, pending, hFrames, -, hPending, hKept, -⟩ :=
    length_split_positions ⟨log, run⟩ hThread hPc hNoFile run' hSteady
      (show _ = c.world.history.dequeued ++ c'.world.history.dequeued by rw [hNone]; rfl) noNewScene_plain
  obtain rfl := hPending hAwaits
  rw [List.append_nil] at hFrames
  rw [hNothing, List.nil_append, ← hFrames] at hKept
  exact ⟨log, c, log', c', run, run', by rw [hDequeued]; rfl, by rw [hWritten]; rfl, hKept⟩

/-- Counting throughout the capture, the fourth frame would be left out. -/
theorem length_split_shifts_positions :
    ¬ ∀ (settings : SplitSettings) log c log' c' pc l frames, Runs (Config.step .plain) {} log c →
      c.worker = .capture pc l → pc.awaitsFrame = true → c.world.aviWriter = none →
      Runs (Config.step .plain) c log' c' → (∀ entry ∈ log', entry.1.Steady settings entry.2) →
      c'.awaitsFrame = true →
      c'.world.history.dequeued = c.world.history.dequeued ++ frames →
      NoNewScene settings .plain l.lastValidDVTime frames →
      c'.world.written = c.world.written ++ everyNth settings.everyNth frames := by
  intro hThroughout
  obtain ⟨log, c, log', c', pc, l, run, hThread, hPc, hNoFile, run', hSteady, hAwaits, hNone, hNothing,
    hDequeued, hWritten⟩ := fourFrames_written
  have hKept := hThroughout everySecond log c log' c' pc l _ run hThread hPc hNoFile run' hSteady hAwaits
    (by rw [hNone, List.nil_append]) noNewScene_plain
  rw [hWritten, hNothing, hDequeued] at hKept
  exact absurd hKept (by decide)

end Config

end WinDV
