import WinDV.Engine.SceneSplit

/-! The files of a capture. While it goes on, the capture loop hands every frame
it dequeues to the open file, and opens a new one where the cut says so. -/
namespace WinDV

open Transition Segmentation

/-- The open file, once it has a frame. -/
def World.started (w : World) : List AVIWriter :=
  w.aviWriter.toList.filter fun writer => writer.frames ≠ []

/-- The frames written so far, file by file. -/
def World.written (w : World) : List Frame :=
  (w.history.files.flatMap fun file => file.writer.frames) ++ w.aviWriter.toList.flatMap AVIWriter.frames

/-- How the frames that have left the queue since `start` were filed: `parts`
are the frames handled, file by file, `saved` the files finished meanwhile, and
`pending` is the frame in hand that has not been handled yet. -/
structure Filed (settings : SplitSettings) (env : Environment) (inherited : Int) (start w : World)
    (handled pending : List Frame) (parts : List (List Frame)) (saved : List SavedFile) : Prop where
  dequeued : w.history.dequeued = start.history.dequeued ++ handled ++ pending
  pending_le : pending.length ≤ 1
  segmented : Segmented (StartsFile settings env inherited) handled parts
  finished : w.history.files = start.history.files ++ saved
  files : List.Forall₂ (FileOf settings env) parts (saved.map SavedFile.writer ++ w.started)

/-- The open file is the last one, and the two counts are its own. The one of
its frames has no more than `m_maxAVIFrames` to count, so it never wraps around. -/
structure OpenFile (parts : List (List Frame)) (w : World) (l : CaptureLocals) : Prop where
  absent : w.aviWriter = none → parts = []
  isOpen : ∀ writer, w.aviWriter = some writer → writer.frames ≠ [] ∧
    w.fileFrameCount.toInt = writer.frames.length ∧
    ∃ done part, parts = done ++ [part] ∧ l.counter = part.length

/-- Between two frames. -/
structure Between (env : Environment) (inherited : Int) (handled : List Frame)
    (parts : List (List Frame)) (w : World) (l : CaptureLocals) : Prop where
  lastValid : l.lastValidDVTime = lastValidTime env inherited handled
  tracked : l.TimeTracked
  openFile : OpenFile parts w l

/-- The recording time of the frame in hand has been compared. -/
structure Seen (settings : SplitSettings) (env : Environment) (inherited : Int)
    (handled : List Frame) (l : CaptureLocals) (frame : Frame) : Prop where
  dvTime : l.dvTime = recordingTime env frame
  lastValid : l.lastValidDVTime = lastValidTime env inherited (handled ++ [frame])
  tracked : l.TimeTracked
  jump : (0 < settings.discontinuityThreshold ∧ settings.discontinuityThreshold < l.deltaDVTime) ↔
    NewScene settings env (lastValidTime env inherited handled) frame

/-- The frame starts a file, if it is not the first. -/
def StartsPart (settings : SplitSettings) (env : Environment) (inherited : Int)
    (handled : List Frame) (parts : List (List Frame)) (frame : Frame) : Prop :=
  ∀ done part, parts = done ++ [part] → StartsFile settings env inherited handled part frame

/-- The file the frame in hand goes to: one just opened for it, or the last one. -/
inductive Writing (settings : SplitSettings) (env : Environment) (inherited : Int)
    (handled : List Frame) (parts : List (List Frame)) (w : World) (l : CaptureLocals)
    (frame : Frame) (writer : AVIWriter) : Prop where
  | fresh (noFrames : writer.frames = []) (dvTime : writer.dvTime = recordingTime env frame)
      (fileFrameCount : w.fileFrameCount = 0) (counter : l.counter = 0)
      (starts : StartsPart settings env inherited handled parts frame)
  | last {done : List (List Frame)} {part : List Frame} (hasFrames : writer.frames ≠ [])
      (fileFrameCount : w.fileFrameCount.toInt = writer.frames.length) (isLast : parts = done ++ [part])
      (counter : l.counter = part.length)
      (goesOn : ¬ StartsFile settings env inherited handled part frame)

/-- The capture thread during a capture whose disk does not fill up and whose
file operations succeed, by pc. -/
def SplitPhase (settings : SplitSettings) (env : Environment) (inherited : Int)
    (handled pending : List Frame) (parts : List (List Frame)) (w : World) (l : CaptureLocals) :
    CapturePc → Prop
  | .loopHead | .getFrame | .noFrame | .signalLost | .countFrame | .addTime | .readCaptureTime
  | .clearCaptureTime | .updateDropped => pending = [] ∧ Between env inherited handled parts w l
  | .readClock | .readState | .newWatch | .newFile | .frameSeen =>
      (l.frame = none ∧ pending = [] ∨ ∃ frame, pending = [frame] ∧ Holding w l frame) ∧
        Between env inherited handled parts w l
  | .preview | .readDiskState | .checkDisk | .readWriteState | .splitFile =>
      ∃ frame, pending = [frame] ∧ Holding w l frame ∧
        Seen settings env inherited handled l frame ∧ OpenFile parts w l
  | .copyTarget | .openWriter =>
      ∃ frame, pending = [frame] ∧ Holding w l frame ∧
        Seen settings env inherited handled l frame ∧ w.aviWriter = none ∧
        StartsPart settings env inherited handled parts frame
  | .writeFrame =>
      ∃ frame writer, pending = [frame] ∧ Holding w l frame ∧
        Seen settings env inherited handled l frame ∧ w.aviWriter = some writer ∧
        Writing settings env inherited handled parts w l frame writer
  | .storeReason _ resume | .exchange _ resume => pending = [] ∧ resume ≠ .readWriteState
  | .afterLoop => w.started = w.aviWriter.toList
  | .releaseWriter => w.aviWriter = none
  | .notifyStopped => True
  | _ => False

section World

variable {ans : Answer} {w w' : World} {writer : AVIWriter}

theorem World.started_none (h : w.aviWriter = none) : w.started = [] := by
  rw [World.started, h]
  rfl

theorem World.started_fresh (h : w.aviWriter = some writer) (hFrames : writer.frames = []) :
    w.started = [] := by
  simp [World.started, h, hFrames]

theorem World.started_some (h : w.aviWriter = some writer) (hFrames : writer.frames ≠ []) :
    w.started = [writer] := by
  simp [World.started, h, hFrames]

/-- A finish without a failing rename saves the open file, if there is one. -/
theorem World.finishWriter_saved (env : Environment) (h : ans.moveFailure = none) :
    (w.finishWriter env ans).2 = none ∧ ∃ saved : List SavedFile,
      saved.map SavedFile.writer = w.aviWriter.toList ∧
      (w.finishWriter env ans).1.history.files = w.history.files ++ saved := by
  unfold World.finishWriter
  cases hWriter : w.aviWriter with
  | none => exact ⟨rfl, [], rfl, (List.append_nil _).symm⟩
  | some writer =>
      have hFinish : writer.finish env ans =
          .ok ⟨writerFilename env ans writer.base writer.dtformat writer.ndigits writer.dvTime,
            writer⟩ := by
        simp [AVIWriter.finish, h]
      simp only [hFinish]
      exact ⟨trivial, [_], rfl, rfl⟩

/-- Finishing the open file takes nothing from what has been written. -/
theorem World.finishWriter_written (env : Environment) (h : ans.moveFailure = none) :
    (w.finishWriter env ans).1.written = w.written := by
  obtain ⟨-, saved, hSaved, hFiles⟩ := w.finishWriter_saved env h
  rw [World.written, hFiles, w.finishWriter_aviWriter env ans, World.written, ← hSaved,
    List.flatMap_append, List.flatMap_map, Option.toList_none, List.flatMap_nil, List.append_nil]

end World

section Filed

variable {settings : SplitSettings} {env : Environment} {inherited : Int} {start w w' : World}
  {handled pending : List Frame} {parts done : List (List Frame)} {part : List Frame}
  {saved : List SavedFile} {frame : Frame} {writer writer' : AVIWriter}

theorem Filed.same (h : Filed settings env inherited start w handled pending parts saved)
    (hDequeued : w'.history.dequeued = w.history.dequeued := by rfl)
    (hFiles : w'.history.files = w.history.files := by rfl)
    (hStarted : w'.started = w.started := by rfl) :
    Filed settings env inherited start w' handled pending parts saved where
  dequeued := hDequeued.trans h.dequeued
  pending_le := h.pending_le
  segmented := h.segmented
  finished := hFiles.trans h.finished
  files := by
    rw [hStarted]
    exact h.files

/-- The next frame has left the queue. -/
theorem Filed.dequeue (h : Filed settings env inherited start w handled [] parts saved)
    (hDequeued : w'.history.dequeued = w.history.dequeued ++ [frame])
    (hFiles : w'.history.files = w.history.files := by rfl)
    (hStarted : w'.started = w.started := by rfl) :
    Filed settings env inherited start w' handled [frame] parts saved where
  dequeued := by rw [hDequeued, h.dequeued, List.append_nil]
  pending_le := le_refl 1
  segmented := h.segmented
  finished := hFiles.trans h.finished
  files := by
    rw [hStarted]
    exact h.files

/-- The open file is finished. -/
theorem Filed.finish {ans : Answer} (h : Filed settings env inherited start w handled pending parts saved)
    (hMove : ans.moveFailure = none) (hStarted : w.started = w.aviWriter.toList) :
    ∃ saved', Filed settings env inherited start (w.finishWriter env ans).1 handled pending parts
      saved' := by
  obtain ⟨-, new, hNew, hFiles⟩ := w.finishWriter_saved env hMove
  obtain ⟨files, hFinish⟩ := w.finishWriter_fst env ans
  refine ⟨saved ++ new, ?_, h.pending_le, h.segmented, ?_, ?_⟩
  · rw [hFinish]
    exact h.dequeued
  · rw [hFiles, h.finished, List.append_assoc]
  · rw [World.started_none (w.finishWriter_aviWriter env ans), List.append_nil, List.map_append, hNew,
      ← hStarted]
    exact h.files

/-- The open file is the file of the last part. -/
theorem Filed.last (h : Filed settings env inherited start w handled pending (done ++ [part]) saved)
    (hStarted : w.started = [writer]) :
    List.Forall₂ (FileOf settings env) done (saved.map SavedFile.writer) ∧
      FileOf settings env part writer := by
  have hFiles := h.files
  rw [hStarted] at hFiles
  exact forall₂_concat.mp hFiles

/-- The frame in hand has become the first of a new file. -/
theorem Filed.startPart (h : Filed settings env inherited start w handled [frame] parts saved)
    (hStarts : StartsPart settings env inherited handled parts frame) (hStarted : w.started = [])
    (hFile : FileOf settings env [frame] writer') (hStarted' : w'.started = [writer'])
    (hHistory : w'.history = w.history) :
    Filed settings env inherited start w' (handled ++ [frame]) [] (parts ++ [[frame]]) saved where
  dequeued := by rw [hHistory, h.dequeued, List.append_nil, List.append_assoc]
  pending_le := Nat.zero_le 1
  segmented := by
    have hSegmented := h.segmented
    cases parts using List.reverseRecOn with
    | nil =>
        rw [hSegmented.nil_of_no_parts]
        exact .first frame
    | append_singleton done part => exact .start hSegmented (hStarts done part rfl)
  finished := by rw [hHistory, h.finished]
  files := by
    have hFiles := h.files
    rw [hStarted, List.append_nil] at hFiles
    rw [hStarted']
    exact forall₂_concat.mpr ⟨hFiles, hFile⟩

/-- The frame in hand has been handed to the last file. -/
theorem Filed.extendPart
    (h : Filed settings env inherited start w handled [frame] (done ++ [part]) saved)
    (goesOn : ¬ StartsFile settings env inherited handled part frame) (hStarted : w.started = [writer])
    (hFile : FileOf settings env (part ++ [frame]) writer') (hStarted' : w'.started = [writer'])
    (hHistory : w'.history = w.history) :
    Filed settings env inherited start w' (handled ++ [frame]) [] (done ++ [part ++ [frame]]) saved where
  dequeued := by rw [hHistory, h.dequeued, List.append_nil, List.append_assoc]
  pending_le := Nat.zero_le 1
  segmented := .extend h.segmented goesOn
  finished := by rw [hHistory, h.finished]
  files := by
    rw [hStarted']
    exact forall₂_concat.mpr ⟨(h.last hStarted).1, hFile⟩

end Filed

section Thread

variable {settings : SplitSettings} {env : Environment} {ans : Answer} {clock : Nat} {inherited : Int}
  {start w w' : World} {l l' : CaptureLocals} {pc pc' : CapturePc} {t : CaptureThread}
  {handled pending : List Frame} {parts done : List (List Frame)} {part : List Frame}
  {saved : List SavedFile} {frame : Frame} {writer : AVIWriter}

theorem OpenFile.started (h : OpenFile parts w l) : w.started = w.aviWriter.toList := by
  cases hWriter : w.aviWriter with
  | none => exact World.started_none hWriter
  | some writer => exact World.started_some hWriter (h.isOpen writer hWriter).1

theorem OpenFile.last (hWriter : w.aviWriter = some writer) (hSome : writer.frames ≠ [])
    (hCount : w.fileFrameCount.toInt = writer.frames.length) (hCounter : l.counter = part.length) :
    OpenFile (done ++ [part]) w l := by
  refine ⟨by simp [hWriter], ?_⟩
  rintro _ hOpen
  obtain rfl := Option.some.inj (hWriter.symm.trans hOpen)
  exact ⟨hSome, hCount, done, part, rfl, hCounter⟩

theorem OpenFile.same (h : OpenFile parts w l) (hWriter : w'.aviWriter = w.aviWriter := by rfl)
    (hCount : w'.fileFrameCount = w.fileFrameCount := by rfl)
    (hCounter : l'.counter = l.counter := by rfl) : OpenFile parts w' l' := by
  refine ⟨?_, ?_⟩
  · rw [hWriter]
    exact h.absent
  · rw [hWriter, hCount, hCounter]
    exact h.isOpen

theorem Between.same (h : Between env inherited handled parts w l)
    (hOpen : OpenFile parts w' l')
    (hLast : l'.lastValidDVTime = l.lastValidDVTime := by rfl)
    (hTime : l'.dvTime = l.dvTime := by rfl) : Between env inherited handled parts w' l' := by
  refine ⟨hLast.trans h.lastValid, ?_, hOpen⟩
  rw [CaptureLocals.TimeTracked, hLast, hTime]
  exact h.tracked

theorem Seen.same (h : Seen settings env inherited handled l frame)
    (hLast : l'.lastValidDVTime = l.lastValidDVTime := by rfl)
    (hTime : l'.dvTime = l.dvTime := by rfl)
    (hDelta : l'.deltaDVTime = l.deltaDVTime := by rfl) :
    Seen settings env inherited handled l' frame := by
  refine ⟨hTime.trans h.dvTime, hLast.trans h.lastValid, ?_, ?_⟩
  · rw [CaptureLocals.TimeTracked, hLast, hTime]
    exact h.tracked
  · rw [hDelta]
    exact h.jump

/-- What the comparison of the recording times finds. -/
theorem Between.seen (h : Between env inherited handled parts w l) (frame : Frame) :
    Seen settings env inherited handled (l.track (recordingTime env frame)) frame where
  dvTime := by
    obtain ⟨delta, lastValid, hTracked⟩ := l.track_eq (recordingTime env frame)
    rw [hTracked]
  lastValid := by rw [h.tracked.track_lastValid, lastValidTime_concat, h.lastValid]
  tracked := h.tracked.track _
  jump := by
    rw [NewScene, ← h.lastValid]
    exact and_congr_right fun hThreshold => h.tracked.jump_iff hThreshold _

/-- The test of the loop is the cut. -/
theorem Seen.splits_iff (h : Seen settings env inherited handled l frame)
    (hSettings : settings.Are w.options) (hFile : FileOf settings env part writer)
    (hCount : w.fileFrameCount.toInt = writer.frames.length) :
    l.splits w = true ↔ StartsFile settings env inherited handled part frame := by
  have hFull : (settings.maxAVIFrames : Int) ≤ writer.frames.length ↔
      (everyNth settings.everyNth part).length = settings.maxAVIFrames := by
    have hMost := hFile.not_too_long
    rw [← hFile.frames]
    omega
  rw [CaptureLocals.splits, Bool.or_eq_true, Bool.and_eq_true, decide_eq_true_eq, decide_eq_true_eq,
    decide_eq_true_eq, Int32.le_iff_toInt_le, Int32.lt_iff_toInt_lt, Int32.toInt_zero,
    hSettings.maxAVIFrames, hSettings.discontinuityThreshold, hCount, hFull, h.jump, StartsFile]

theorem nth_iff (hSettings : settings.Are w.options) {position : Nat} (h : l.counter = position) :
    l.counter % (max w.options.everyNth 1).toInt = 0 ↔ position % settings.everyNth = 0 := by
  have hPositive := settings.everyNth_pos
  rw [Wrapping.toInt_max, Int32.toInt_one, hSettings.everyNth, h, max_eq_left (by omega)]
  omega

/-- The frame in hand is one of those that are written. -/
theorem Writing.write (h : Writing settings env inherited handled parts w l frame writer)
    (hFiled : Filed settings env inherited start w handled [frame] parts saved)
    (hSettings : settings.Are w.options) (hSeen : Seen settings env inherited handled l frame)
    (hWriter : w.aviWriter = some writer) (nth : l.counter % (max w.options.everyNth 1).toInt = 0)
    (hWritten : w' = { w with
      aviWriter := some ((writer.handleFrame frame).stampTime l.dvTime)
      fileFrameCount := w.fileFrameCount + 1 }) :
    ∃ parts', Filed settings env inherited start w' (handled ++ [frame]) [] parts' saved ∧
      Between env inherited (handled ++ [frame]) parts' w' { l with counter := l.counter + 1 } := by
  have hWriter' : w'.aviWriter = some ((writer.handleFrame frame).stampTime (recordingTime env frame)) := by
    rw [hWritten, hSeen.dvTime]
  have hCount' : w'.fileFrameCount = w.fileFrameCount + 1 := by rw [hWritten]
  have hHistory : w'.history = w.history := by rw [hWritten]
  have hFrames : ((writer.handleFrame frame).stampTime (recordingTime env frame)).frames =
      writer.frames ++ [frame] := AVIWriter.stampTime_frames _ _
  have hSome : ((writer.handleFrame frame).stampTime (recordingTime env frame)).frames ≠ [] := by
    rw [hFrames]
    simp
  cases h with
  | fresh noFrames dvTime fileFrameCount counter starts =>
      refine ⟨_, hFiled.startPart starts (World.started_fresh hWriter noFrames) (.start noFrames dvTime)
        (World.started_some hWriter' hSome) hHistory, hSeen.lastValid, hSeen.tracked,
        .last hWriter' hSome ?_ ?_⟩
      · rw [hCount', hFrames, noFrames, fileFrameCount]
        rfl
      · simp [counter]
  | @last done part hasFrames fileFrameCount isLast counter goesOn =>
      subst isLast
      have hStarted := World.started_some hWriter hasFrames
      obtain ⟨-, hFile⟩ := hFiled.last hStarted
      have hNth : part.length % settings.everyNth = 0 := (nth_iff hSettings counter).mp nth
      have notFull := not_or.mp goesOn
      refine ⟨_, hFiled.extendPart goesOn hStarted (hFile.write notFull.1 hNth)
        (World.started_some hWriter' hSome) hHistory, hSeen.lastValid, hSeen.tracked,
        .last hWriter' hSome ?_ ?_⟩
      · have hMost := hFile.not_too_long
        have hRoom := w.options.maxAVIFrames.toInt_lt
        rw [hFile.frames] at hMost fileFrameCount
        rw [hSettings.maxAVIFrames] at hRoom
        rw [hCount', Wrapping.toInt_succ (by omega), hFrames, fileFrameCount, List.length_append,
          List.length_singleton, Nat.cast_add, Nat.cast_one, hFile.frames]
      · simp [counter]

/-- The frame in hand is one of those that are left out. -/
theorem Writing.pass (h : Writing settings env inherited handled parts w l frame writer)
    (hFiled : Filed settings env inherited start w handled [frame] parts saved)
    (hSettings : settings.Are w.options) (hSeen : Seen settings env inherited handled l frame)
    (hWriter : w.aviWriter = some writer) (notNth : l.counter % (max w.options.everyNth 1).toInt ≠ 0)
    (hPassed : w' = { w with aviWriter := some (writer.stampTime l.dvTime) }) :
    ∃ parts', Filed settings env inherited start w' (handled ++ [frame]) [] parts' saved ∧
      Between env inherited (handled ++ [frame]) parts' w' { l with counter := l.counter + 1 } := by
  cases h with
  | fresh _ _ _ counter => simp [counter] at notNth
  | @last done part hasFrames fileFrameCount isLast counter goesOn =>
      subst isLast
      have hWriter' : w'.aviWriter = some (writer.stampTime (recordingTime env frame)) := by
        rw [hPassed, hSeen.dvTime]
      have hCount' : w'.fileFrameCount = w.fileFrameCount := by rw [hPassed]
      have hHistory : w'.history = w.history := by rw [hPassed]
      have hStarted := World.started_some hWriter hasFrames
      have hFrames : (writer.stampTime (recordingTime env frame)).frames = writer.frames :=
        AVIWriter.stampTime_frames _ _
      have hSome : (writer.stampTime (recordingTime env frame)).frames ≠ [] := by rwa [hFrames]
      obtain ⟨-, hFile⟩ := hFiled.last hStarted
      have hNth : part.length % settings.everyNth ≠ 0 := fun hZero =>
        notNth ((nth_iff hSettings counter).mpr hZero)
      refine ⟨_, hFiled.extendPart goesOn hStarted (hFile.pass hNth)
        (World.started_some hWriter' hSome) hHistory, hSeen.lastValid, hSeen.tracked,
        .last hWriter' hSome ?_ ?_⟩
      · rw [hCount', hFrames, fileFrameCount]
      · simp [counter]

end Thread

end WinDV
