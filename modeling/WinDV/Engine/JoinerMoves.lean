import WinDV.Engine.AviJoiner

/-! How the three threads of the joiner move, and what of their flags, the thread and the
reader goes with where the caller is. -/
namespace WinDV

universe u

/-- `Stop` has been called. -/
def JoinerCaller.stopCalled : JoinerCaller → Bool
  | .constructed | .startThread | .runFirst | .ran => false
  | _ => true

/-- `Run` is on its way to the first reader, or has not been called. -/
def JoinerCaller.starting : JoinerCaller → Bool
  | .constructed | .startThread | .runFirst => true
  | _ => false

/-- `Stop` has set `m_stopping` and not cleared it yet. -/
def JoinerCaller.stopping : JoinerCaller → Bool
  | .requestStop | .join | .resetReader | .clearStopping => true
  | _ => false

/-- `Stop` is past the join. -/
def JoinerCaller.joined : JoinerCaller → Bool
  | .resetReader | .clearStopping | .clearHandler | .stopped => true
  | _ => false

/-- `Stop` has destroyed the reader. -/
def JoinerCaller.cleared : JoinerCaller → Bool
  | .clearStopping | .clearHandler | .stopped => true
  | _ => false

/-- The frame a callback has yet to hand over. -/
def ReaderCallback.inHand {F : Type u} : Option (ReaderCallback F) → List F
  | some (.checkStopping frame) | some (.readHandler frame) | some (.deliver frame) => [frame]
  | _ => []

/-- The callback is past its look at `m_stopping`. -/
def ReaderCallback.passed {F : Type u} : Option (ReaderCallback F) → Bool
  | some (.readHandler _) | some (.deliver _) => true
  | _ => false

namespace AviJoiner

variable {F : Type u} {s t : AviJoiner F}

/-- A step of the caller. -/
inductive CallerMove (s : AviJoiner F) : AviJoiner F → Prop where
  | callRun (pc : s.caller = .constructed) :
      CallerMove s { s with handler := true, caller := .startThread }
  | stopUnstarted (pc : s.caller = .constructed ∨ s.caller = .ran) (thread : s.thread = .absent) :
      CallerMove s { s with stopping := true, caller := .resetReader }
  | stopStarted (pc : s.caller = .constructed ∨ s.caller = .ran) (thread : s.thread ≠ .absent) :
      CallerMove s { s with stopping := true, caller := .requestStop }
  | startThread (pc : s.caller = .startThread) :
      CallerMove s { s with thread := .running .waiting, caller := .runFirst }
  | runFirst {reader : AviReader} {failure : Option String} (pc : s.caller = .runFirst)
      (opened : s.reader = some reader) :
      CallerMove s { s with reader := some (reader.run failure), caller := .ran }
  | requestStop (pc : s.caller = .requestStop) :
      CallerMove s { s with stopRequested := true, caller := .join }
  | join (pc : s.caller = .join) (thread : s.thread = .returned) :
      CallerMove s { s with caller := .resetReader }
  | resetReader (pc : s.caller = .resetReader) (callback : s.callback = none) :
      CallerMove s { s with reader := none, caller := .clearStopping }
  | clearStopping (pc : s.caller = .clearStopping) :
      CallerMove s { s with stopping := false, caller := .clearHandler }
  | clearHandler (pc : s.caller = .clearHandler) :
      CallerMove s { s with handler := false, caller := .stopped }

/-- A step of `JoinerThread`. -/
inductive JoinerMove (s : AviJoiner F) : AviJoiner F → Prop where
  | ended (pc : s.thread = .running .waiting) (flag : s.readerEndedFlag = true) :
      JoinerMove s { s with readerEndedFlag := false, thread := .running .resetReader }
  | leave (pc : s.thread = .running .waiting) (requested : s.stopRequested = true) :
      JoinerMove s { s with thread := .returned }
  | resetReader (pc : s.thread = .running .resetReader) (callback : s.callback = none) :
      JoinerMove s { s with reader := none, thread := .running .checkNext }
  | last (pc : s.thread = .running .checkNext) (next : s.filenames.length ≤ s.next) :
      JoinerMove s { s with thread := .running .loadEnd }
  | more (pc : s.thread = .running .checkNext) (next : s.next < s.filenames.length) :
      JoinerMove s { s with thread := .running .openReader }
  | loadEnd (pc : s.thread = .running .loadEnd) (handler : s.handler = true) :
      JoinerMove s { s with thread := .running .deliverEnd }
  | deliverEnd (pc : s.thread = .running .deliverEnd) :
      JoinerMove s { s with received := s.received ++ [.endOfStream], thread := .returned }
  | opened (pc : s.thread = .running .openReader) :
      JoinerMove s { s with
        reader := some { file := s.next }, next := s.next + 1, thread := .running .runReader }
  | notOpened {message : String} (pc : s.thread = .running .openReader) :
      JoinerMove s { s with
        next := s.next + 1, failed := some (s.next, message)
        thread := .running (.loadError message) }
  | run {reader : AviReader} (pc : s.thread = .running .runReader) (opened : s.reader = some reader) :
      JoinerMove s { s with reader := some (reader.run none), thread := .running .waiting }
  | notRun {reader : AviReader} {message : String} (pc : s.thread = .running .runReader)
      (opened : s.reader = some reader) :
      JoinerMove s { s with
        reader := some (reader.run (some message)), failed := some (reader.file, message)
        thread := .running (.loadError message) }
  | loadError {message : String} (pc : s.thread = .running (.loadError message))
      (handler : s.handler = true) :
      JoinerMove s { s with thread := .running (.deliverError message) }
  | deliverError {message : String} (pc : s.thread = .running (.deliverError message)) :
      JoinerMove s { s with received := s.received ++ [.sourceError message], thread := .returned }
  | noHandler {pc : JoinerPc} (pc : s.thread = .running pc) (handler : s.handler = false) :
      JoinerMove s { s with thread := .returned }

/-- A step of the streaming thread. -/
inductive ReaderMove (s : AviJoiner F) : AviJoiner F → Prop where
  | frame {reader : AviReader} {frame : F} (running : s.reader = some reader)
      (phase : reader.phase = .running) (callback : s.callback = none)
      (next : (s.frames reader.file)[reader.sent]? = some frame) :
      ReaderMove s { s with
        reader := some { reader with sent := reader.sent + 1 }
        callback := some (.checkStopping frame), streamed := s.streamed ++ [frame] }
  | fileEnd {reader : AviReader} (running : s.reader = some reader)
      (phase : reader.phase = .running) (callback : s.callback = none)
      (next : (s.frames reader.file).length ≤ reader.sent) :
      ReaderMove s { s with
        reader := some { reader with phase := .finished }, callback := some .setFlag }
  | dropped {frame : F} (callback : s.callback = some (.checkStopping frame))
      (stopping : s.stopping = true) : ReaderMove s { s with callback := none }
  | passed {frame : F} (callback : s.callback = some (.checkStopping frame))
      (stopping : s.stopping = false) : ReaderMove s { s with callback := some (.readHandler frame) }
  | hasHandler {frame : F} (callback : s.callback = some (.readHandler frame))
      (handler : s.handler = true) : ReaderMove s { s with callback := some (.deliver frame) }
  | lacksHandler {frame : F} (callback : s.callback = some (.readHandler frame))
      (handler : s.handler = false) : ReaderMove s { s with callback := none }
  | delivered {frame : F} (callback : s.callback = some (.deliver frame)) :
      ReaderMove s { s with received := s.received ++ [.frame frame], callback := none }
  | setFlag (callback : s.callback = some .setFlag) :
      ReaderMove s { s with readerEndedFlag := true, callback := some .notify }
  | notify (callback : s.callback = some .notify) : ReaderMove s { s with callback := none }

theorem callerStep_move {failure : Option String} (h : s.callerStep failure = some t) :
    CallerMove s t := by
  unfold callerStep at h
  split at h
  case h_1 | h_2 | h_3 => cases h
  case h_4 hPc =>
      cases h
      exact .startThread hPc
  case h_5 hPc =>
      split at h
      · rename_i reader hReader
        cases h
        exact .runFirst hPc hReader
      · cases h
  case h_6 hPc =>
      cases h
      exact .requestStop hPc
  case h_7 hPc =>
      split_ifs at h with hReturned
      cases h
      exact .join hPc hReturned
  case h_8 hPc =>
      split_ifs at h with hNone
      cases h
      exact .resetReader hPc (Option.isNone_iff_eq_none.mp hNone)
  case h_9 hPc =>
      cases h
      exact .clearStopping hPc
  case h_10 hPc =>
      cases h
      exact .clearHandler hPc

theorem joinerStep_move {failure : Option String} (h : s.joinerStep failure = some t) :
    JoinerMove s t := by
  unfold joinerStep at h
  cases hThread : s.thread with
  | absent | returned => simp [hThread] at h
  | running pc =>
      cases pc with
      | waiting =>
          simp only [hThread] at h
          split_ifs at h with hFlag hRequested
          · cases h
            exact .ended hThread hFlag
          · cases h
            exact .leave hThread hRequested
      | resetReader =>
          simp only [hThread] at h
          split_ifs at h with hNone
          cases h
          exact .resetReader hThread (Option.isNone_iff_eq_none.mp hNone)
      | checkNext =>
          simp only [hThread] at h
          split_ifs at h with hNext
          · cases h
            exact .last hThread hNext
          · cases h
            exact .more hThread (Nat.lt_of_not_le hNext)
      | loadEnd =>
          simp only [hThread] at h
          cases h
          split_ifs with hHandler
          · exact .loadEnd hThread hHandler
          · exact .noHandler hThread (Bool.not_eq_true _ ▸ hHandler)
      | deliverEnd =>
          simp only [hThread] at h
          cases h
          exact .deliverEnd hThread
      | openReader =>
          cases failure with
          | none =>
              simp only [hThread] at h
              cases h
              exact .opened hThread
          | some message =>
              simp only [hThread] at h
              cases h
              exact .notOpened hThread
      | runReader =>
          cases hReader : s.reader with
          | none => simp [hThread, hReader] at h
          | some reader =>
              cases failure with
              | none =>
                  simp only [hThread, hReader] at h
                  cases h
                  exact .run hThread hReader
              | some message =>
                  simp only [hThread, hReader] at h
                  cases h
                  exact .notRun hThread hReader
      | loadError message =>
          simp only [hThread] at h
          cases h
          split_ifs with hHandler
          · exact .loadError hThread hHandler
          · exact .noHandler hThread (Bool.not_eq_true _ ▸ hHandler)
      | deliverError message =>
          simp only [hThread] at h
          cases h
          exact .deliverError hThread

theorem deliverStep_move (h : s.deliverStep = some t) : ReaderMove s t := by
  unfold deliverStep at h
  split at h
  · rename_i reader hReader hCallback
    split_ifs at h with hPhase
    split at h
    · rename_i frame hNext
      cases h
      exact .frame hReader hPhase hCallback hNext
    · rename_i hNext
      cases h
      exact .fileEnd hReader hPhase hCallback (List.getElem?_eq_none_iff.mp hNext)
  · cases h

theorem callbackStep_move (h : s.callbackStep = some t) : ReaderMove s t := by
  unfold callbackStep at h
  cases hCallback : s.callback with
  | none => simp [hCallback] at h
  | some callback =>
      cases callback with
      | checkStopping frame =>
          simp only [hCallback] at h
          cases h
          split_ifs with hStopping
          · exact .dropped hCallback hStopping
          · exact .passed hCallback (Bool.not_eq_true _ ▸ hStopping)
      | readHandler frame =>
          simp only [hCallback] at h
          cases h
          split_ifs with hHandler
          · exact .hasHandler hCallback hHandler
          · exact .lacksHandler hCallback (Bool.not_eq_true _ ▸ hHandler)
      | deliver frame =>
          simp only [hCallback] at h
          cases h
          exact .delivered hCallback
      | setFlag =>
          simp only [hCallback] at h
          cases h
          exact .setFlag hCallback
      | notify =>
          simp only [hCallback] at h
          cases h
          exact .notify hCallback

/-- Everything a step of any thread can do. -/
theorem step_move {action : Action} (h : s.step action = some t) :
    CallerMove s t ∨ JoinerMove s t ∨ ReaderMove s t := by
  cases action with
  | callRun =>
      simp only [step] at h
      split_ifs at h with hPc
      cases h
      exact Or.inl (.callRun hPc)
  | callStop =>
      simp only [step] at h
      split_ifs at h with hPc hThread
      · cases h
        exact Or.inl (.stopUnstarted hPc hThread)
      · cases h
        exact Or.inl (.stopStarted hPc hThread)
  | caller failure => exact Or.inl (callerStep_move h)
  | joiner failure => exact Or.inr (Or.inl (joinerStep_move h))
  | deliver => exact Or.inr (Or.inr (deliverStep_move h))
  | callback => exact Or.inr (Or.inr (callbackStep_move h))

/-- Where `Run` is on its way to the first reader nothing else has happened. -/
def start (files : List (List F)) : JoinerCaller → AviJoiner F
  | .startThread => { initial files with handler := true, caller := .startThread }
  | .runFirst =>
      { initial files with handler := true, thread := .running .waiting, caller := .runFirst }
  | _ => initial files

def ReaderIs (s : AviJoiner F) (phase : ReaderPhase) : Prop :=
  ∃ reader, s.reader = some reader ∧ reader.phase = phase

/-- Nothing more is coming from the reader. -/
def Halted (s : AviJoiner F) : Prop := s.callback = none ∧ ¬ s.ReaderIs .running

/-- The members the caller sets, against where it is. -/
structure Control (s : AviJoiner F) : Prop where
  started : s.caller.starting = true → s = start s.filenames s.caller
  stopping : s.stopping = s.caller.stopping
  joined : s.caller.joined = true → ∀ pc, s.thread ≠ .running pc
  cleared : s.caller.cleared = true → s.reader = none ∧ s.callback = none
  idle : s.handler = false → (∀ pc, s.thread ≠ .running pc) ∧ s.Halted
  requested : s.stopRequested = true → s.caller.stopCalled = true

theorem Control.initial (files : List (List F)) : Control (initial files) where
  started _ := rfl
  stopping := rfl
  joined := nofun
  cleared := nofun
  idle _ := ⟨nofun, rfl, by simp [ReaderIs, AviJoiner.initial]⟩
  requested := nofun

theorem start_cases (files : List (List F)) (caller : JoinerCaller) :
    let s := start files caller
    s.callback = none ∧ s.reader = some { file := 0 } ∧
      (s.thread = .absent ∨ s.thread = .running .waiting ∧ s.handler = true ∧
        s.readerEndedFlag = false ∧ s.stopRequested = false) := by
  cases caller with
  | runFirst => exact ⟨rfl, rfl, Or.inr ⟨rfl, rfl, rfl, rfl⟩⟩
  | _ => exact ⟨rfl, rfl, Or.inl rfl⟩

theorem JoinerMove.thread (hMove : JoinerMove s t) : ∃ pc, s.thread = .running pc := by
  cases hMove <;> exact ⟨_, ‹_›⟩

/-- The streaming thread moves only while the reader is not done. -/
theorem ReaderMove.active (hMove : ReaderMove s t) : ¬ s.Halted := by
  intro hHalted
  cases hMove with
  | frame running phase | fileEnd running phase => exact hHalted.2 ⟨_, running, phase⟩
  | dropped callback | passed callback | hasHandler callback | lacksHandler callback
  | delivered callback | setFlag callback | notify callback => simp [hHalted.1] at callback

theorem JoinerMove.same (hMove : JoinerMove s t) : t.caller = s.caller ∧ t.stopping = s.stopping ∧
    t.handler = s.handler ∧ t.stopRequested = s.stopRequested := by
  cases hMove <;> exact ⟨rfl, rfl, rfl, rfl⟩

theorem ReaderMove.same (hMove : ReaderMove s t) : t.caller = s.caller ∧ t.stopping = s.stopping ∧
    t.handler = s.handler ∧ t.stopRequested = s.stopRequested ∧ t.thread = s.thread := by
  cases hMove <;> exact ⟨rfl, rfl, rfl, rfl, rfl⟩

/-- While `Run` is on its way, the caller is the only one who can move. -/
theorem Control.not_starting (h : s.Control) (hMove : JoinerMove s t ∨ ReaderMove s t) :
    s.caller.starting = false := by
  by_contra hStarting
  have hStart := h.started (by simpa using hStarting)
  obtain ⟨hCallback, hReader, hThread⟩ := start_cases s.filenames s.caller
  rw [← hStart] at hCallback hReader hThread
  clear hStart hStarting
  rcases hMove with hMove | hMove
  · cases hMove <;> simp_all
  · exact hMove.active ⟨hCallback, by simp [ReaderIs, hReader]⟩

theorem Halted.of_none (hReader : s.reader = none) (hCallback : s.callback = none) : s.Halted :=
  ⟨hCallback, by simp [ReaderIs, hReader]⟩

theorem joined_of_cleared {caller : JoinerCaller} (h : caller.cleared = true) : caller.joined = true := by
  cases caller <;> first | rfl | cases h

/-- The caller's members as `JoinerThread` moves. -/
theorem Control.joiner (h : s.Control) (hMove : JoinerMove s t) : t.Control := by
  obtain ⟨hCaller, hStopping, hHandler, hRequested⟩ := hMove.same
  obtain ⟨pc, hPc⟩ := hMove.thread
  have hNotJoined : s.caller.joined ≠ true := fun hJoined => h.joined hJoined pc hPc
  refine ⟨?_, ?_, ?_, ?_, ?_, ?_⟩
  · rw [hCaller, h.not_starting (Or.inl hMove)]
    exact nofun
  · rw [hCaller, hStopping, h.stopping]
  · rw [hCaller]
    intro hJoined
    exact absurd hJoined hNotJoined
  · rw [hCaller]
    intro hCleared
    exact absurd (joined_of_cleared hCleared) hNotJoined
  · rw [hHandler]
    intro hNone
    exact absurd hPc ((h.idle hNone).1 pc)
  · rw [hRequested, hCaller]
    exact h.requested

/-- The caller's members as the streaming thread moves. -/
theorem Control.streaming (h : s.Control) (hMove : ReaderMove s t) : t.Control := by
  obtain ⟨hCaller, hStopping, hHandler, hRequested, hThread⟩ := hMove.same
  refine ⟨?_, ?_, ?_, ?_, ?_, ?_⟩
  · rw [hCaller, h.not_starting (Or.inr hMove)]
    exact nofun
  · rw [hCaller, hStopping, h.stopping]
  · rw [hCaller, hThread]
    exact h.joined
  · rw [hCaller]
    intro hCleared
    obtain ⟨hReader, hCallback⟩ := h.cleared hCleared
    exact absurd (Halted.of_none hReader hCallback) hMove.active
  · rw [hHandler]
    intro hNone
    exact absurd (h.idle hNone).2 hMove.active
  · rw [hRequested, hCaller]
    exact h.requested

theorem Control.caller (h : s.Control) (hMove : CallerMove s t) : t.Control := by
  cases hMove with
  | callRun pc =>
      have hStart := h.started (by rw [pc]; rfl)
      rw [pc] at hStart
      rw [hStart]
      exact ⟨fun _ => rfl, rfl, nofun, nofun, nofun, nofun⟩
  | startThread pc =>
      have hStart := h.started (by rw [pc]; rfl)
      rw [pc] at hStart
      rw [hStart]
      exact ⟨fun _ => rfl, rfl, nofun, nofun, nofun, nofun⟩
  | runFirst pc opened =>
      have hStart := h.started (by rw [pc]; rfl)
      rw [pc] at hStart
      rw [hStart]
      exact ⟨nofun, rfl, nofun, nofun, nofun, nofun⟩
  | stopUnstarted pc thread =>
      refine ⟨nofun, rfl, fun _ => ?_, nofun, h.idle, fun _ => rfl⟩
      simp [thread]
  | stopStarted pc thread => exact ⟨nofun, rfl, nofun, nofun, h.idle, fun _ => rfl⟩
  | requestStop pc =>
      exact ⟨nofun, by simp [h.stopping, pc, JoinerCaller.stopping], nofun, nofun, h.idle, fun _ => rfl⟩
  | join pc thread =>
      refine ⟨nofun, by simp [h.stopping, pc, JoinerCaller.stopping], fun _ => ?_, nofun, h.idle,
        fun _ => rfl⟩
      simp [thread]
  | resetReader pc callback =>
      have hJoined := h.joined (by rw [pc]; rfl)
      have hHalted : Halted { s with reader := none, caller := .clearStopping } := .of_none rfl callback
      exact ⟨nofun, by simp [h.stopping, pc, JoinerCaller.stopping], fun _ => hJoined,
        fun _ => ⟨rfl, callback⟩, fun _ => ⟨hJoined, hHalted⟩, fun _ => rfl⟩
  | clearStopping pc =>
      exact ⟨nofun, rfl, fun _ => h.joined (by rw [pc]; rfl), fun _ => h.cleared (by rw [pc]; rfl), h.idle,
        fun _ => rfl⟩
  | clearHandler pc =>
      have hJoined := h.joined (by rw [pc]; rfl)
      obtain ⟨hReader, hCallback⟩ := h.cleared (by rw [pc]; rfl)
      have hHalted : Halted { s with handler := false, caller := .stopped } := .of_none hReader hCallback
      exact ⟨nofun, by simp [h.stopping, pc, JoinerCaller.stopping], fun _ => hJoined,
        fun _ => ⟨hReader, hCallback⟩, fun _ => ⟨hJoined, hHalted⟩, fun _ => rfl⟩

end AviJoiner

end WinDV
