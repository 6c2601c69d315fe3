import WinDV.Engine.JoinerMoves

/-! The joiner's files arrive as one stream. Whatever the three threads do, the
handler has received a prefix of the files' frames, and it gets one ending at
most: the end of the stream after the last file, or the error of a file that
could not be opened or run. -/
namespace WinDV

universe u

namespace AviJoiner

variable {F : Type u} {s t : AviJoiner F}

/-- The frames of the first files, one file after the other. -/
def upTo (s : AviJoiner F) (count : Nat) : List F := (s.filenames.take count).flatten

/-- The reader stands where `m_next` and the frames delivered so far say. -/
structure Placed (files : List (List F)) (next : Nat) (streamed : List F) (reader : AviReader) :
    Prop where
  next : reader.file + 1 = next
  file : reader.file < files.length
  streamed : streamed =
    (files.take reader.file).flatten ++ (files[reader.file]?.getD []).take reader.sent
  opened : reader.phase = .opened → reader.sent = 0
  finished : reader.phase = .finished → (files[reader.file]?.getD []).length ≤ reader.sent

section Files

variable {files : List (List F)}

theorem take_flatten_succ {file : Nat} (h : file < files.length) :
    (files.take (file + 1)).flatten = (files.take file).flatten ++ files[file]?.getD [] := by
  rw [List.take_add_one, List.flatten_append, List.getElem?_eq_getElem h]
  simp

theorem Placed.whole {next : Nat} {streamed : List F} {reader : AviReader}
    (h : Placed files next streamed reader) (finished : reader.phase = .finished) :
    streamed = (files.take next).flatten := by
  rw [h.streamed, ← h.next, take_flatten_succ h.file, List.take_of_length_le (h.finished finished)]

theorem Placed.none {next : Nat} {streamed : List F} {reader : AviReader}
    (h : Placed files next streamed reader) (opened : reader.phase = .opened) :
    streamed = (files.take reader.file).flatten := by
  rw [h.streamed, h.opened opened, List.take_zero, List.append_nil]

theorem Placed.prefix_of {next : Nat} {streamed : List F} {reader : AviReader}
    (h : Placed files next streamed reader) : streamed <+: files.flatten := by
  have hFile : streamed <+: (files.take (reader.file + 1)).flatten := by
    rw [h.streamed, take_flatten_succ h.file]
    exact (List.prefix_append_right_inj _).mpr (List.take_prefix _ _)
  refine hFile.trans ?_
  conv_rhs => rw [← List.take_append_drop (reader.file + 1) files]
  rw [List.flatten_append]
  exact List.prefix_append _ _

/-- A reader that was run, with or without success, stands where it stood. -/
theorem Placed.run {next : Nat} {streamed : List F} {reader : AviReader}
    (h : Placed files next streamed reader) (failure : Option String) :
    ∀ ran, some (reader.run failure) = some ran → Placed files next streamed ran := by
  intro ran hRan
  obtain rfl := Option.some.inj hRan
  cases failure with
  | none => exact ⟨h.next, h.file, h.streamed, nofun, nofun⟩
  | some message => exact ⟨h.next, h.file, h.streamed, nofun, nofun⟩

end Files

/-- The last file is done. -/
def Complete (s : AviJoiner F) : Prop :=
  s.Halted ∧ s.streamed = s.filenames.flatten ∧ s.failed = none

/-- A later file could not be opened or run, and those before it are done. -/
def FailedWith (s : AviJoiner F) (message : String) : Prop :=
  s.Halted ∧ ∃ file, s.failed = some (file, message) ∧ 1 ≤ file ∧ file < s.filenames.length ∧
    s.streamed = s.upTo file

/-- What `JoinerThread` knows where it is. -/
def At (s : AviJoiner F) : JoinerPc → Prop
  | .waiting => s.failed = none
  | .resetReader =>
      s.failed = none ∧ s.ReaderIs .finished ∧ s.readerEndedFlag = false ∧ s.callback ≠ some .setFlag
  | .checkNext =>
      s.failed = none ∧ s.reader = none ∧ s.callback = none ∧ s.streamed = s.upTo s.next
  | .openReader =>
      s.failed = none ∧ s.reader = none ∧ s.callback = none ∧ s.streamed = s.upTo s.next ∧
        s.next < s.filenames.length
  | .runReader => s.failed = none ∧ s.ReaderIs .opened ∧ s.callback = none ∧ 2 ≤ s.next
  | .loadEnd | .deliverEnd => s.Complete
  | .loadError message | .deliverError message => s.FailedWith message

/-- How the thread returned, with what it told the handler. -/
def Outcome (s : AviJoiner F) (ending : List (HandlerCall F)) : Prop :=
  ending = [] ∧ s.stopRequested = true ∧ s.failed = none ∨
  ending = [.endOfStream] ∧ s.Complete ∨
  ∃ message, ending = [.sourceError message] ∧ s.FailedWith message

def ThreadHolds (s : AviJoiner F) (ending : List (HandlerCall F)) : Prop :=
  match s.thread with
  | .absent => ending = [] ∧ s.failed = none
  | .running pc => ending = [] ∧ s.At pc
  | .returned => s.Outcome ending

/-- The invariant: what the handler has been shown, and what ended it. -/
structure Joined (s : AviJoiner F) (shown : List F) (ending : List (HandlerCall F)) : Prop where
  control : s.Control
  next_pos : 1 ≤ s.next
  next_le : s.next ≤ s.filenames.length
  reader : ∀ reader, s.reader = some reader → Placed s.filenames s.next s.streamed reader
  flag : s.readerEndedFlag = true → s.caller.cleared = true ∨ s.ReaderIs .finished
  handing : ReaderCallback.inHand s.callback ≠ [] → s.ReaderIs .running
  setting : s.callback = some .setFlag →
    s.ReaderIs .finished ∧ s.readerEndedFlag = false ∧ s.thread ≠ .running .resetReader
  notifying : s.callback = some .notify → s.ReaderIs .finished
  thread : s.ThreadHolds ending
  received : s.received = shown.map .frame ++ ending
  streamed_prefix : s.streamed <+: s.filenames.flatten
  shown_prefix : shown <+: s.streamed
  kept : s.caller.stopCalled = false ∨ ReaderCallback.passed s.callback = true →
    shown ++ ReaderCallback.inHand s.callback = s.streamed

theorem joined_initial {files : List (List F)} (hFiles : files ≠ []) : Joined (initial files) [] [] where
  control := .initial files
  next_pos := Nat.le_refl 1
  next_le := List.length_pos_of_ne_nil hFiles
  reader := by
    intro reader hReader
    obtain rfl := Option.some.inj hReader
    exact ⟨rfl, List.length_pos_of_ne_nil hFiles, by simp [initial], fun _ => rfl, nofun⟩
  flag := nofun
  handing h := absurd rfl h
  setting := nofun
  notifying := nofun
  thread := ⟨rfl, rfl⟩
  received := rfl
  streamed_prefix := List.nil_prefix
  shown_prefix := List.nil_prefix
  kept _ := rfl

section Steps

variable {shown : List F} {ending : List (HandlerCall F)}

theorem ReaderIs.elsewhere {phase other : ReaderPhase} (h : s.ReaderIs phase) (hOther : phase ≠ other) :
    ¬ s.ReaderIs other := by
  obtain ⟨reader, hReader, rfl⟩ := h
  rintro ⟨same, hSame, rfl⟩
  rw [hReader] at hSame
  obtain rfl := Option.some.inj hSame
  exact hOther rfl

/-- `JoinerThread` and its reader are never at work at once. -/
theorem At.halted {pc : JoinerPc} (h : s.At pc) (hWaiting : pc ≠ .waiting) (hReset : pc ≠ .resetReader) :
    s.Halted := by
  cases pc with
  | waiting => exact absurd rfl hWaiting
  | resetReader => exact absurd rfl hReset
  | checkNext => exact .of_none h.2.1 h.2.2.1
  | openReader => exact .of_none h.2.1 h.2.2.1
  | loadEnd | deliverEnd => exact h.1
  | runReader => exact ⟨h.2.2.1, h.2.1.elsewhere nofun⟩
  | loadError | deliverError => exact h.1

theorem Joined.at_pc (h : s.Joined shown ending) {pc : JoinerPc} (hPc : s.thread = .running pc) :
    ending = [] ∧ s.At pc := by
  have hThread := h.thread
  rwa [ThreadHolds, hPc] at hThread

/-- While `JoinerThread` runs, the flag is that of a finished reader. -/
theorem Joined.flag_running (h : s.Joined shown ending) {pc : JoinerPc} (hPc : s.thread = .running pc)
    (hFlag : s.readerEndedFlag = true) : s.ReaderIs .finished := by
  rcases h.flag hFlag with hCleared | hFinished
  · exact absurd hPc (h.control.joined (joined_of_cleared hCleared) pc)
  · exact hFinished

theorem ReaderIs.not_none {phase : ReaderPhase} (h : s.ReaderIs phase) : s.reader ≠ none := by
  obtain ⟨reader, hReader, -⟩ := h
  simp [hReader]

/-- With no callback in flight nothing is said about one. -/
theorem not_handing (h : s.callback = none) {P : Prop} (hHand : ReaderCallback.inHand s.callback ≠ []) :
    P := by
  rw [h] at hHand
  exact absurd rfl hHand

theorem not_callback (h : s.callback = none) {callback : ReaderCallback F} {P : Prop}
    (hSome : s.callback = some callback) : P := by
  cases h.symm.trans hSome

/-- A step of `JoinerThread`. -/
theorem Joined.joiner (h : s.Joined shown ending) (hMove : JoinerMove s t) :
    ∃ ending, t.Joined shown ending := by
  have hControl := h.control.joiner hMove
  cases hMove with
  | ended pc flag =>
      obtain ⟨rfl, hFailed⟩ := h.at_pc pc
      have hFinished := h.flag_running pc flag
      have hSetting : s.callback ≠ some .setFlag := fun hCallback => by
        simp [(h.setting hCallback).2.1] at flag
      exact ⟨[], { h with
        control := hControl
        flag := nofun
        setting := fun hCallback => absurd hCallback hSetting
        thread := ⟨rfl, hFailed, hFinished, rfl, hSetting⟩ }⟩
  | leave pc requested =>
      obtain ⟨rfl, hFailed⟩ := h.at_pc pc
      exact ⟨[], { h with
        control := hControl
        setting := fun hCallback => ⟨(h.setting hCallback).1, (h.setting hCallback).2.1, nofun⟩
        thread := Or.inl ⟨rfl, requested, hFailed⟩ }⟩
  | resetReader pc callback =>
      obtain ⟨rfl, hFailed, ⟨reader, hReader, hFinished⟩, hFlag, -⟩ := h.at_pc pc
      have hWhole := (h.reader reader hReader).whole hFinished
      exact ⟨[], { h with
        control := hControl
        reader := nofun
        flag := fun hSet => absurd (hFlag.symm.trans hSet) nofun
        handing := not_handing callback
        setting := not_callback callback
        notifying := not_callback callback
        thread := ⟨rfl, hFailed, rfl, callback, hWhole⟩ }⟩
  | last pc next =>
      obtain ⟨rfl, hFailed, hReader, hCallback, hStreamed⟩ := h.at_pc pc
      have hAll : s.upTo s.next = s.filenames.flatten := by
        rw [upTo, List.take_of_length_le next]
      exact ⟨[], { h with
        control := hControl
        setting := not_callback hCallback
        thread := ⟨rfl, .of_none hReader hCallback, hStreamed.trans hAll, hFailed⟩ }⟩
  | more pc next =>
      obtain ⟨rfl, hFailed, hReader, hCallback, hStreamed⟩ := h.at_pc pc
      exact ⟨[], { h with
        control := hControl
        setting := not_callback hCallback
        thread := ⟨rfl, hFailed, hReader, hCallback, hStreamed, next⟩ }⟩
  | loadEnd pc handler =>
      obtain ⟨rfl, hComplete⟩ := h.at_pc pc
      exact ⟨[], { h with
        control := hControl
        setting := not_callback hComplete.1.1
        thread := ⟨rfl, hComplete⟩ }⟩
  | deliverEnd pc =>
      obtain ⟨rfl, hComplete⟩ := h.at_pc pc
      exact ⟨[.endOfStream], { h with
        control := hControl
        setting := not_callback hComplete.1.1
        received := by rw [h.received, List.append_nil]
        thread := Or.inr (Or.inl ⟨rfl, hComplete⟩) }⟩
  | opened pc =>
      obtain ⟨rfl, hFailed, hReader, hCallback, hStreamed, hNext⟩ := h.at_pc pc
      have hPos := h.next_pos
      exact ⟨[], { h with
        control := hControl
        next_pos := Nat.le_succ_of_le hPos
        next_le := hNext
        reader := by
          intro reader hNew
          obtain rfl := Option.some.inj hNew
          exact ⟨rfl, hNext, by simpa [upTo] using hStreamed, fun _ => rfl, nofun⟩
        flag := fun hFlag => absurd hReader (h.flag_running pc hFlag).not_none
        handing := not_handing hCallback
        setting := not_callback hCallback
        notifying := not_callback hCallback
        thread := ⟨rfl, hFailed, ⟨_, rfl, rfl⟩, hCallback, Nat.succ_le_succ hPos⟩ }⟩
  | notOpened pc =>
      obtain ⟨rfl, hFailed, hReader, hCallback, hStreamed, hNext⟩ := h.at_pc pc
      have hPos := h.next_pos
      exact ⟨[], { h with
        control := hControl
        next_pos := Nat.le_succ_of_le hPos
        next_le := hNext
        reader := fun reader hSome => absurd (hReader.symm.trans hSome) nofun
        setting := not_callback hCallback
        thread := ⟨rfl, .of_none hReader hCallback, s.next, rfl, hPos, hNext, hStreamed⟩ }⟩
  | @run reader pc opened =>
      obtain ⟨rfl, hFailed, ⟨same, hSame, hOpened⟩, hCallback, hNext⟩ := h.at_pc pc
      have hPlaced := h.reader reader opened
      exact ⟨[], { h with
        control := hControl
        reader := hPlaced.run _
        flag := fun hFlag => absurd ⟨same, hSame, hOpened⟩ ((h.flag_running pc hFlag).elsewhere nofun)
        handing := not_handing hCallback
        setting := not_callback hCallback
        notifying := not_callback hCallback
        thread := ⟨rfl, hFailed⟩ }⟩
  | @notRun reader message pc opened =>
      obtain ⟨rfl, hFailed, ⟨same, hSame, hOpened⟩, hCallback, hNext⟩ := h.at_pc pc
      have hPlaced := h.reader reader opened
      obtain rfl := Option.some.inj (hSame.symm.trans opened)
      have hLater : 1 ≤ same.file := by
        have := hPlaced.next
        omega
      exact ⟨[], { h with
        control := hControl
        reader := hPlaced.run _
        flag := fun hFlag => absurd ⟨same, hSame, hOpened⟩ ((h.flag_running pc hFlag).elsewhere nofun)
        handing := not_handing hCallback
        setting := not_callback hCallback
        notifying := not_callback hCallback
        thread := ⟨rfl, ⟨hCallback, by simp [ReaderIs, AviReader.run]⟩, same.file, rfl, hLater,
          hPlaced.file, hPlaced.none hOpened⟩ }⟩
  | loadError pc handler =>
      obtain ⟨rfl, hFailed⟩ := h.at_pc pc
      exact ⟨[], { h with
        control := hControl
        setting := not_callback hFailed.1.1
        thread := ⟨rfl, hFailed⟩ }⟩
  | @deliverError message pc =>
      obtain ⟨rfl, hFailed⟩ := h.at_pc pc
      exact ⟨[.sourceError message], { h with
        control := hControl
        setting := not_callback hFailed.1.1
        received := by rw [h.received, List.append_nil]
        thread := Or.inr (Or.inr ⟨message, rfl, hFailed⟩) }⟩
  | noHandler pc handler => exact absurd pc ((h.control.idle handler).1 _)

/-- While the reader is not done, `JoinerThread` has told the handler nothing. -/
theorem Joined.ending_nil (h : s.Joined shown ending) (hActive : ¬ s.Halted) : ending = [] := by
  have hThread := h.thread
  unfold ThreadHolds at hThread
  split at hThread
  · exact hThread.1
  · exact hThread.1
  · rcases hThread with ⟨hEnding, -⟩ | ⟨-, hComplete⟩ | ⟨message, -, hFailed⟩
    · exact hEnding
    · exact absurd hComplete.1 hActive
    · exact absurd hFailed.1 hActive

/-- `JoinerThread` keeps what it knows as others move. -/
theorem ThreadHolds.mono (hHolds : s.ThreadHolds ending) (hThread : t.thread = s.thread)
    (hFailed : t.failed = s.failed) (hAt : ∀ pc, s.thread = .running pc → s.At pc → t.At pc)
    (hOutcome : s.Outcome ending → t.Outcome ending) : t.ThreadHolds ending := by
  unfold ThreadHolds at hHolds ⊢
  rw [hThread]
  cases hPc : s.thread with
  | absent =>
      rw [hPc] at hHolds
      exact ⟨hHolds.1, hFailed.trans hHolds.2⟩
  | running pc =>
      rw [hPc] at hHolds
      exact ⟨hHolds.1, hAt pc hPc hHolds.2⟩
  | returned =>
      rw [hPc] at hHolds
      exact hOutcome hHolds

/-- The streaming thread moves beside a waiting `JoinerThread`, or beside one
that waits for the end of its last callback. -/
theorem Joined.thread_streaming (h : s.Joined shown ending) (hActive : ¬ s.Halted)
    (hThread : t.thread = s.thread) (hFailed : t.failed = s.failed)
    (hRequested : t.stopRequested = s.stopRequested)
    (hReset : s.thread = .running .resetReader → s.At .resetReader → t.At .resetReader) :
    t.ThreadHolds ending := by
  apply h.thread.mono hThread hFailed
  · intro pc hPc hAt
    by_cases hWaiting : pc = .waiting
    · rw [hWaiting] at hAt ⊢
      exact hFailed.trans hAt
    · by_cases hResetting : pc = .resetReader
      · rw [hResetting] at hPc hAt ⊢
        exact hReset hPc hAt
      · exact absurd (hAt.halted hWaiting hResetting) hActive
  · rintro (⟨hEnding, hStop, hNone⟩ | ⟨-, hComplete⟩ | ⟨message, -, hWith⟩)
    · exact Or.inl ⟨hEnding, hRequested.trans hStop, hFailed.trans hNone⟩
    · exact absurd hComplete.1 hActive
    · exact absurd hWith.1 hActive

/-- Its callback moves on, and leaves the flag and the reader alone. -/
theorem Joined.thread_callback (h : s.Joined shown ending) (hActive : ¬ s.Halted)
    (hThread : t.thread = s.thread) (hFailed : t.failed = s.failed)
    (hRequested : t.stopRequested = s.stopRequested) (hReader : t.reader = s.reader)
    (hFlag : t.readerEndedFlag = s.readerEndedFlag) (hCallback : t.callback ≠ some .setFlag) :
    t.ThreadHolds ending := by
  apply h.thread_streaming hActive hThread hFailed hRequested
  rintro - ⟨hNone, hFinished, hUnset, -⟩
  refine ⟨hFailed.trans hNone, ?_, hFlag.trans hUnset, hCallback⟩
  rw [ReaderIs, hReader]
  exact hFinished

/-- What is kept, with the callback in sight. -/
theorem Joined.kept_at (h : s.Joined shown ending) {callback : Option (ReaderCallback F)}
    (hCallback : s.callback = callback)
    (hKept : s.caller.stopCalled = false ∨ ReaderCallback.passed callback = true) :
    shown ++ ReaderCallback.inHand callback = s.streamed := by
  rw [← hCallback] at hKept ⊢
  exact h.kept hKept

theorem stopCalled_of_stopping {caller : JoinerCaller} (h : caller.stopping = true) :
    caller.stopCalled = true := by
  cases caller <;> first | rfl | cases h

/-- `m_stopping` is clear before `Stop` and after it has destroyed the reader. -/
theorem not_stopCalled {caller : JoinerCaller} (hStopping : caller.stopping = false)
    (hCleared : caller.cleared ≠ true) : caller.stopCalled = false := by
  cases caller <;> first | rfl | exact absurd rfl hCleared | cases hStopping

/-- A step of the streaming thread. -/
theorem Joined.streaming (h : s.Joined shown ending) (hMove : ReaderMove s t) :
    ∃ shown, t.Joined shown ending := by
  have hControl := h.control.streaming hMove
  have hActive := hMove.active
  have hNotCleared : s.caller.cleared ≠ true := fun hCleared =>
    hActive (.of_none (h.control.cleared hCleared).1 (h.control.cleared hCleared).2)
  cases hMove with
  | @frame reader frame running phase callback next =>
      have hRunning : s.ReaderIs .running := ⟨reader, running, phase⟩
      have hPlaced := h.reader reader running
      have hMoved : Placed s.filenames s.next (s.streamed ++ [frame])
          { reader with sent := reader.sent + 1 } := by
        refine ⟨hPlaced.next, hPlaced.file, ?_, ?_, ?_⟩
        · have hTake : (s.filenames[reader.file]?.getD [])[reader.sent]? = some frame := next
          rw [hPlaced.streamed, List.take_add_one, hTake, List.append_assoc]
          rfl
        · simp [phase]
        · simp [phase]
      exact ⟨shown, { h with
        control := hControl
        reader := by
          intro moved hReader
          obtain rfl := Option.some.inj hReader
          exact hMoved
        flag := fun hFlag => (h.flag hFlag).imp_right fun hFinished =>
          absurd hRunning (hFinished.elsewhere nofun)
        handing := fun _ => ⟨_, rfl, phase⟩
        setting := nofun
        notifying := nofun
        thread := h.thread_streaming hActive rfl rfl rfl fun _ hAt =>
          absurd hRunning (hAt.2.1.elsewhere nofun)
        streamed_prefix := hMoved.prefix_of
        shown_prefix := h.shown_prefix.trans (List.prefix_append _ _)
        kept := by
          intro hKept
          rw [← h.kept_at callback (Or.inl (hKept.resolve_right nofun))]
          simp [ReaderCallback.inHand] }⟩
  | @fileEnd reader running phase callback next =>
      have hRunning : s.ReaderIs .running := ⟨reader, running, phase⟩
      have hPlaced := h.reader reader running
      have hNotFinished : ¬ s.ReaderIs .finished := hRunning.elsewhere nofun
      have hFlag : s.readerEndedFlag = false := by
        by_contra hSet
        rcases h.flag (by simpa using hSet) with hCleared | hFinished
        · exact hNotCleared hCleared
        · exact hNotFinished hFinished
      have hNotReset : s.thread ≠ .running .resetReader := fun hPc =>
        hNotFinished (h.at_pc hPc).2.2.1
      exact ⟨shown, { h with
        control := hControl
        reader := by
          intro moved hReader
          obtain rfl := Option.some.inj hReader
          exact ⟨hPlaced.next, hPlaced.file, hPlaced.streamed, nofun, fun _ => next⟩
        flag := fun hSet => absurd (hFlag.symm.trans hSet) nofun
        handing := fun hHand => absurd rfl hHand
        setting := fun _ => ⟨⟨_, rfl, rfl⟩, hFlag, hNotReset⟩
        notifying := nofun
        thread := h.thread_streaming hActive rfl rfl rfl fun hPc => absurd hPc hNotReset
        kept := by
          intro hKept
          have hBefore := h.kept_at callback (Or.inl (hKept.resolve_right nofun))
          exact hBefore }⟩
  | @dropped frame callback stopping =>
      have hCalled : s.caller.stopCalled = true :=
        stopCalled_of_stopping (h.control.stopping.symm.trans stopping)
      exact ⟨shown, { h with
        control := hControl
        handing := fun hHand => absurd rfl hHand
        setting := nofun
        notifying := nofun
        thread := h.thread_callback hActive rfl rfl rfl rfl rfl nofun
        kept := by
          rintro (hNot | hPassed)
          · exact absurd (hNot.symm.trans hCalled) nofun
          · cases hPassed }⟩
  | @passed frame callback stopping =>
      have hOpen : s.caller.stopCalled = false :=
        not_stopCalled (h.control.stopping.symm.trans stopping) hNotCleared
      have hBefore := h.kept_at callback (Or.inl hOpen)
      have hRunning := h.handing (by simp [callback, ReaderCallback.inHand])
      exact ⟨shown, { h with
        control := hControl
        handing := fun _ => hRunning
        setting := nofun
        notifying := nofun
        thread := h.thread_callback hActive rfl rfl rfl rfl rfl nofun
        kept := fun _ => hBefore }⟩
  | @hasHandler frame callback handler =>
      have hBefore := h.kept_at callback (Or.inr rfl)
      have hRunning := h.handing (by simp [callback, ReaderCallback.inHand])
      exact ⟨shown, { h with
        control := hControl
        handing := fun _ => hRunning
        setting := nofun
        notifying := nofun
        thread := h.thread_callback hActive rfl rfl rfl rfl rfl nofun
        kept := fun _ => hBefore }⟩
  | lacksHandler callback handler => exact absurd (h.control.idle handler).2 hActive
  | @delivered frame callback =>
      have hNow : shown ++ [frame] = s.streamed := h.kept_at callback (Or.inr rfl)
      obtain rfl := h.ending_nil hActive
      exact ⟨shown ++ [frame], { h with
        control := hControl
        handing := fun hHand => absurd rfl hHand
        setting := nofun
        notifying := nofun
        thread := h.thread_callback hActive rfl rfl rfl rfl rfl nofun
        received := by simp [h.received]
        shown_prefix := hNow ▸ List.prefix_rfl
        kept := fun _ => by simpa [ReaderCallback.inHand] using hNow }⟩
  | setFlag callback =>
      obtain ⟨hFinished, -, hNotReset⟩ := h.setting callback
      exact ⟨shown, { h with
        control := hControl
        flag := fun _ => Or.inr hFinished
        handing := fun hHand => absurd rfl hHand
        setting := nofun
        notifying := fun _ => hFinished
        thread := h.thread_streaming hActive rfl rfl rfl fun hPc => absurd hPc hNotReset
        kept := by
          intro hKept
          have hBefore := h.kept_at callback (Or.inl (hKept.resolve_right nofun))
          exact hBefore }⟩
  | notify callback =>
      exact ⟨shown, { h with
        control := hControl
        handing := fun hHand => absurd rfl hHand
        setting := nofun
        notifying := nofun
        thread := h.thread_callback hActive rfl rfl rfl rfl rfl nofun
        kept := by
          intro hKept
          have hBefore := h.kept_at callback (Or.inl (hKept.resolve_right nofun))
          exact hBefore }⟩

/-- A step of the caller. -/
theorem Joined.caller (h : s.Joined shown ending) (hMove : CallerMove s t) : t.Joined shown ending := by
  have hControl := h.control.caller hMove
  have hFlag (hNot : s.caller.cleared = false) (hSet : s.readerEndedFlag = true) : s.ReaderIs .finished :=
    (h.flag hSet).resolve_left (by simp [hNot])
  cases hMove with
  | callRun pc =>
      exact { h with
        control := hControl
        flag := fun hSet => Or.inr (hFlag (by rw [pc]; rfl) hSet)
        kept := fun _ => h.kept (Or.inl (by rw [pc]; rfl)) }
  | startThread pc =>
      have hStart := h.control.started (by rw [pc]; rfl)
      rw [pc] at hStart
      have hAbsent : s.thread = .absent := by rw [hStart]; rfl
      have hHolds := h.thread
      rw [ThreadHolds, hAbsent] at hHolds
      have hNone : s.callback = none := by rw [hStart]; rfl
      exact { h with
        control := hControl
        flag := fun hSet => Or.inr (hFlag (by rw [pc]; rfl) hSet)
        setting := not_callback hNone
        thread := hHolds
        kept := fun _ => h.kept (Or.inl (by rw [pc]; rfl)) }
  | @runFirst reader failure pc opened =>
      have hStart := h.control.started (by rw [pc]; rfl)
      rw [pc] at hStart
      have hPc : s.thread = .running .waiting := by rw [hStart]; rfl
      have hNone : s.callback = none := by rw [hStart]; rfl
      have hUnset : s.readerEndedFlag = false := by rw [hStart]; rfl
      have hPlaced := h.reader reader opened
      exact { h with
        control := hControl
        reader := hPlaced.run failure
        flag := fun hSet => absurd (hUnset.symm.trans hSet) nofun
        handing := not_handing hNone
        setting := not_callback hNone
        notifying := not_callback hNone
        thread := by
          rw [ThreadHolds, hPc]
          exact h.at_pc hPc
        kept := fun _ => h.kept (Or.inl (by rw [pc]; rfl)) }
  | stopUnstarted pc thread =>
      exact { h with
        control := hControl
        flag := fun hSet => Or.inr (hFlag (by rcases pc with pc | pc <;> rw [pc] <;> rfl) hSet)
        kept := fun hKept => h.kept (Or.inr (hKept.resolve_left nofun)) }
  | stopStarted pc thread =>
      exact { h with
        control := hControl
        flag := fun hSet => Or.inr (hFlag (by rcases pc with pc | pc <;> rw [pc] <;> rfl) hSet)
        kept := fun hKept => h.kept (Or.inr (hKept.resolve_left nofun)) }
  | requestStop pc =>
      exact { h with
        control := hControl
        flag := fun hSet => Or.inr (hFlag (by rw [pc]; rfl) hSet)
        thread := h.thread.mono rfl rfl (fun _ _ hAt => hAt) fun hOutcome =>
          hOutcome.imp_left fun hStopped => ⟨hStopped.1, rfl, hStopped.2.2⟩
        kept := fun hKept => h.kept (Or.inr (hKept.resolve_left nofun)) }
  | join pc thread =>
      exact { h with
        control := hControl
        flag := fun hSet => Or.inr (hFlag (by rw [pc]; rfl) hSet)
        kept := fun hKept => h.kept (Or.inr (hKept.resolve_left nofun)) }
  | resetReader pc callback =>
      have hJoined := h.control.joined (by rw [pc]; rfl)
      exact { h with
        control := hControl
        reader := nofun
        flag := fun _ => Or.inl rfl
        handing := not_handing callback
        setting := not_callback callback
        notifying := not_callback callback
        thread := by
          refine h.thread.mono rfl rfl (fun pc hPc => absurd hPc (hJoined pc)) ?_
          rintro (hStopped | ⟨hEnding, -, hComplete⟩ | ⟨message, hEnding, -, hFailed⟩)
          · exact Or.inl hStopped
          · exact Or.inr (Or.inl ⟨hEnding, .of_none rfl callback, hComplete⟩)
          · exact Or.inr (Or.inr ⟨message, hEnding, .of_none rfl callback, hFailed⟩)
        kept := fun hKept => h.kept (Or.inr (hKept.resolve_left nofun)) }
  | clearStopping pc =>
      exact { h with
        control := hControl
        flag := fun _ => Or.inl rfl
        kept := fun hKept => h.kept (Or.inr (hKept.resolve_left nofun)) }
  | clearHandler pc =>
      exact { h with
        control := hControl
        flag := fun _ => Or.inl rfl
        kept := fun hKept => h.kept (Or.inr (hKept.resolve_left nofun)) }

theorem Joined.step {action : Action} (h : s.Joined shown ending) (hStep : s.step action = some t) :
    ∃ shown ending, t.Joined shown ending := by
  rcases step_move hStep with hMove | hMove | hMove
  · exact ⟨shown, ending, h.caller hMove⟩
  · exact ⟨shown, h.joiner hMove⟩
  · obtain ⟨shown, hJoined⟩ := h.streaming hMove
    exact ⟨shown, ending, hJoined⟩

end Steps

theorem step_filenames {action : Action} (h : s.step action = some t) : t.filenames = s.filenames := by
  rcases step_move h with hMove | hMove | hMove <;> cases hMove <;> rfl

/-- What the handler has received, file by file and ending by ending. A file is
counted from 0, so a failing file is at 1 or later. -/
structure OneStream (files : List (List F)) (s : AviJoiner F) : Prop where
  prefix_of : ∃ shown ending, s.received = shown.map .frame ++ ending ∧ shown <+: files.flatten ∧
    (ending = [] ∨ ending = [.endOfStream] ∨ ∃ message, ending = [.sourceError message])
  whole : s.thread = .returned → s.caller.stopCalled = false → s.failed = none →
    s.received = files.flatten.map .frame ++ [.endOfStream]
  failed : ∀ file message, s.failed = some (file, message) → s.caller.stopCalled = false →
    1 ≤ file ∧ file < files.length ∧
    ((s.thread = .running (.loadError message) ∨ s.thread = .running (.deliverError message)) ∧
        s.received = (files.take file).flatten.map .frame ∨
      s.thread = .returned ∧
        s.received = (files.take file).flatten.map .frame ++ [.sourceError message])

section Result

variable {shown : List F} {ending : List (HandlerCall F)}

/-- Without a `Stop` nothing that was streamed is lost on the way. -/
theorem Joined.shown_all (h : s.Joined shown ending) (hOpen : s.caller.stopCalled = false)
    (hHalted : s.Halted) : shown = s.streamed := by
  have hKept := h.kept_at hHalted.1 (Or.inl hOpen)
  simpa [ReaderCallback.inHand] using hKept

theorem Joined.whole (h : s.Joined shown ending) (hReturned : s.thread = .returned)
    (hOpen : s.caller.stopCalled = false) (hFailed : s.failed = none) :
    s.received = s.filenames.flatten.map .frame ++ [.endOfStream] := by
  have hHolds := h.thread
  rw [ThreadHolds, hReturned] at hHolds
  rcases hHolds with ⟨-, hStop, -⟩ | ⟨rfl, hComplete⟩ | ⟨message, -, -, file, hSome, -⟩
  · exact absurd (hOpen.symm.trans (h.control.requested hStop)) nofun
  · rw [h.received, h.shown_all hOpen hComplete.1, hComplete.2.1]
  · cases hFailed.symm.trans hSome

theorem Joined.failed (h : s.Joined shown ending) {file : Nat} {message : String}
    (hFailed : s.failed = some (file, message)) (hOpen : s.caller.stopCalled = false) :
    1 ≤ file ∧ file < s.filenames.length ∧
    ((s.thread = .running (.loadError message) ∨ s.thread = .running (.deliverError message)) ∧
        s.received = (s.upTo file).map .frame ∨
      s.thread = .returned ∧ s.received = (s.upTo file).map .frame ++ [.sourceError message]) := by
  have hWith {other : String} (h' : s.FailedWith other) : other = message ∧ 1 ≤ file ∧
      file < s.filenames.length ∧ shown = s.upTo file := by
    obtain ⟨hHalted, same, hSame, hPos, hFile, hStreamed⟩ := h'
    obtain ⟨rfl, rfl⟩ := Prod.mk.inj (Option.some.inj (hSame.symm.trans hFailed))
    exact ⟨rfl, hPos, hFile, (h.shown_all hOpen hHalted).trans hStreamed⟩
  have hReceived := h.received
  have hHolds := h.thread
  unfold ThreadHolds at hHolds
  split at hHolds
  · cases hHolds.2.symm.trans hFailed
  · rename_i pc hPc
    obtain ⟨rfl, hAt⟩ := hHolds
    rw [List.append_nil] at hReceived
    cases pc with
    | waiting => cases hAt.symm.trans hFailed
    | resetReader | checkNext | openReader | runReader => cases hAt.1.symm.trans hFailed
    | loadEnd | deliverEnd => cases hAt.2.2.symm.trans hFailed
    | loadError other =>
        obtain ⟨rfl, hPos, hFile, hShown⟩ := hWith hAt
        exact ⟨hPos, hFile, Or.inl ⟨Or.inl hPc, by rw [hReceived, hShown]⟩⟩
    | deliverError other =>
        obtain ⟨rfl, hPos, hFile, hShown⟩ := hWith hAt
        exact ⟨hPos, hFile, Or.inl ⟨Or.inr hPc, by rw [hReceived, hShown]⟩⟩
  · rename_i hReturned
    rcases hHolds with ⟨-, -, hNone⟩ | ⟨-, hComplete⟩ | ⟨other, rfl, hAt⟩
    · cases hNone.symm.trans hFailed
    · cases hComplete.2.2.symm.trans hFailed
    · obtain ⟨rfl, hPos, hFile, hShown⟩ := hWith hAt
      exact ⟨hPos, hFile, Or.inr ⟨hReturned, by rw [hReceived, hShown]⟩⟩

theorem Joined.oneStream (h : s.Joined shown ending) : OneStream s.filenames s where
  prefix_of := by
    refine ⟨shown, ending, h.received, h.shown_prefix.trans h.streamed_prefix, ?_⟩
    have hHolds := h.thread
    unfold ThreadHolds at hHolds
    split at hHolds
    · exact Or.inl hHolds.1
    · exact Or.inl hHolds.1
    · exact hHolds.imp (fun hStopped => hStopped.1) fun hRest =>
        hRest.imp (fun hComplete => hComplete.1) fun ⟨message, hEnding, _⟩ => ⟨message, hEnding⟩
  whole := h.whole
  failed _ _ := h.failed

end Result

open Transition

/-- Whatever the three threads do, the files of a playlist arrive as one
stream. -/
theorem files_arrive_as_one_stream {files : List (List F)} (hFiles : files ≠ [])
    (reachable : Reachable step (initial files) s) : OneStream files s := by
  obtain ⟨⟨shown, ending, hJoined⟩, hSame⟩ :=
    reachable.invariant (fun s => (∃ shown ending, s.Joined shown ending) ∧ s.filenames = files)
      ⟨⟨[], [], joined_initial hFiles⟩, rfl⟩ fun s a t hs h => by
        obtain ⟨⟨shown, ending, hJoined⟩, hSame⟩ := hs
        exact ⟨hJoined.step h, (step_filenames h).trans hSame⟩
  exact hSame ▸ hJoined.oneStream

/-- A frame of the open file reaches the caller. -/
def passFrame : List Action := [.deliver, .callback, .callback, .callback]

/-- The joiner on its own, with files that can be opened. -/
def join (steps : Nat) : List Action := List.replicate steps (.joiner none)

/-- Two files are played to the end: three frames and the end of the stream. -/
theorem files_arrive_as_one_stream_two :
    ∃ s, Reachable step (initial [[1, 2], [3]]) s ∧ s.thread = .returned ∧
      s.received = [.frame 1, .frame 2, .frame 3, .endOfStream] ∧ OneStream [[1, 2], [3]] s := by
  obtain ⟨log, s, run, hTest⟩ := exec_witness step (initial [[1, 2], [3]])
    (.callRun :: .caller none :: .caller none :: passFrame ++ passFrame ++
      .deliver :: .callback :: .joiner none :: .callback :: join 4 ++ passFrame ++
      .deliver :: .callback :: .callback :: join 5)
    (fun _ s => s.thread == .returned && s.received == [.frame 1, .frame 2, .frame 3, .endOfStream])
    (by decide +kernel)
  simp only [Bool.and_eq_true, beq_iff_eq] at hTest
  exact ⟨s, ⟨log, run⟩, hTest.1, hTest.2, files_arrive_as_one_stream (by simp) ⟨log, run⟩⟩

end AviJoiner

end WinDV
