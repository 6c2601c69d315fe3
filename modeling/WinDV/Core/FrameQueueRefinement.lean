import WinDV.Core.FrameQueue
import WinDV.Library.BoundedFifo

/-! The ring buffer is a bounded closable queue. One producer, one consumer and
any number of closers interleave at mutex-protected sections; what they see is
what a `BoundedFifo` could have shown them. -/
namespace WinDV.FrameQueue

open BoundedFifo Transition

/-- One critical section of a caller. -/
inductive Action where
  | put (frame : Frame)
  | get
  | getFor
  | close
  deriving DecidableEq, Repr

/-- The queue after a critical section. A call that has to wait has not
reached its critical section yet, so it takes no step. -/
def act (queue : FrameQueue) : Action → Option FrameQueue
  | .put frame =>
      match queue.put frame with
      | .blocked => none
      | .stored after => some after
      | .lengthError | .refused => some queue
  | .get =>
      match queue.get with
      | .blocked => none
      | .nullopt => some queue
      | .frame _ after => some after
  | .getFor =>
      match queue.getFor with
      | .blocked => none
      | .nullopt => some queue
      | .frame _ after => some after
  | .close => some queue.close

/-- What the caller is told, with the bytes of a frame read through the
returned span. -/
def observe (queue : FrameQueue) : Action → Event Frame
  | .put frame =>
      match queue.put frame with
      | .stored _ => .accepted frame
      | .lengthError => .rejected
      | .blocked | .refused => .refused
  | .get =>
      match queue.get with
      | .frame span after => .delivered (after.view span)
      | .blocked | .nullopt => .exhausted
  | .getFor =>
      match queue.getFor with
      | .frame span after => .delivered (after.view span)
      | .blocked | .nullopt => .timedOut
  | .close => .closed

/-- Everything a critical section can do, with what it found. -/
inductive ActMove (queue : FrameQueue) : Action → FrameQueue → Prop where
  | oversized {frame : Frame} (put : queue.put frame = .lengthError) :
      ActMove queue (.put frame) queue
  | refused {frame : Frame} (put : queue.put frame = .refused) : ActMove queue (.put frame) queue
  | stored {frame : Frame} {after : FrameQueue} (put : queue.put frame = .stored after) :
      ActMove queue (.put frame) after
  | exhausted (closed : queue.closed = true) (empty : queue.load = 0) : ActMove queue .get queue
  | timedOut (empty : queue.load = 0) : ActMove queue .getFor queue
  | taken {action : Action} (asks : action = .get ∨ action = .getFor) (waiting : 0 < queue.load) :
      ActMove queue action queue.takeLocked.2
  | closed : ActMove queue .close queue.close

theorem act_move {queue after : FrameQueue} {action : Action}
    (h : act queue action = some after) : ActMove queue action after := by
  cases action with
  | put frame =>
      cases hPut : queue.put frame with
      | blocked => simp [act, hPut] at h
      | lengthError =>
          obtain rfl : queue = after := by simpa [act, hPut] using h
          exact .oversized hPut
      | refused =>
          obtain rfl : queue = after := by simpa [act, hPut] using h
          exact .refused hPut
      | stored next =>
          obtain rfl : next = after := by simpa [act, hPut] using h
          exact .stored hPut
  | get =>
      by_cases hLoad : queue.load = 0
      · by_cases hClosed : queue.closed = false
        · simp [act, FrameQueue.get, hLoad, hClosed] at h
        · obtain rfl : queue = after := by simpa [act, FrameQueue.get, hLoad, hClosed] using h
          exact .exhausted (by simpa using hClosed) hLoad
      · obtain rfl : queue.takeLocked.2 = after := by simpa [act, FrameQueue.get, hLoad] using h
        exact .taken (Or.inl rfl) (Nat.pos_of_ne_zero hLoad)
  | getFor =>
      by_cases hLoad : queue.load = 0
      · obtain rfl : queue = after := by simpa [act, FrameQueue.getFor, hLoad] using h
        exact .timedOut hLoad
      · obtain rfl : queue.takeLocked.2 = after := by simpa [act, FrameQueue.getFor, hLoad] using h
        exact .taken (Or.inr rfl) (Nat.pos_of_ne_zero hLoad)
  | close =>
      obtain rfl : queue.close = after := by simpa [act] using h
      exact .closed

/-- What a caller that takes a frame is told. -/
theorem observe_taken {queue : FrameQueue} {action : Action} (asks : action = .get ∨ action = .getFor)
    (waiting : 0 < queue.load) :
    observe queue action = .delivered (queue.takeLocked.2.view queue.takeLocked.1) := by
  rcases asks with rfl | rfl
  · simp [observe, FrameQueue.get, waiting.ne']
  · simp [observe, FrameQueue.getFor, waiting.ne']

/-- Everything the callers saw along a run. -/
def trace (log : List (FrameQueue × Action)) : List (Event Frame) :=
  log.map fun entry => observe entry.1 entry.2

@[simp] theorem trace_append (first second : List (FrameQueue × Action)) :
    trace (first ++ second) = trace first ++ trace second := List.map_append

/-- The ring stands for the abstract queue with the same waiting frames. -/
structure Represents {bound : Nat} (queue : FrameQueue) (fifo : Fifo Frame bound) : Prop where
  valid : queue.Valid
  capacity_eq : queue.capacity = bound
  contents_eq : queue.contents = fifo.pending
  closed_eq : queue.closed = fifo.closed

theorem new_represents (capacity frameSize : Nat) :
    Represents (new capacity frameSize) (Fifo.empty Frame (max capacity 1)) where
  valid := new_valid capacity frameSize
  capacity_eq := rfl
  contents_eq := rfl
  closed_eq := rfl

section Simulation

variable {bound : Nat} {queue after : FrameQueue} {fifo : Fifo Frame bound}

theorem Represents.load_eq (h : Represents queue fifo) : queue.load = fifo.pending.length := by
  rw [← h.contents_eq, contents_length]

theorem Represents.store (h : Represents queue fifo) {frame : Frame}
    (hPut : queue.put frame = .stored after) :
    ∃ next, Move fifo (.accepted frame) next ∧ Represents after next := by
  have hStored := put_stored hPut
  have hRoom : fifo.pending.length < bound := by
    rw [← h.load_eq, ← h.capacity_eq]
    exact hStored.2.1
  refine ⟨fifo.push frame hRoom, .accept fifo frame hRoom ?_, ?_⟩
  · rw [← h.closed_eq]
    exact hStored.2.2.1
  · refine ⟨h.valid.put hPut, ?_, ?_, ?_⟩
    · rw [hStored.2.2.2]
      exact h.capacity_eq
    · rw [put_contents h.valid hPut, Fifo.push_pending, h.contents_eq]
    · rw [hStored.2.2.2]
      exact h.closed_eq

theorem Represents.take (h : Represents queue fifo) (hLoad : 0 < queue.load) :
    ∃ next, Move fifo (.delivered (queue.takeLocked.2.view queue.takeLocked.1)) next ∧
      Represents queue.takeLocked.2 next := by
  have hContents := takeLocked_contents h.valid hLoad
  rw [h.contents_eq] at hContents
  have hWaiting : fifo.pending ≠ [] := by simp [hContents]
  refine ⟨fifo.pop hWaiting, ?_, h.valid.takeLocked hLoad, h.capacity_eq, ?_, h.closed_eq⟩
  · have hHead : fifo.pending.head hWaiting = queue.takeLocked.2.view queue.takeLocked.1 := by
      simp [hContents, takeLocked_view]
    rw [← hHead]
    exact .deliver fifo hWaiting
  · rw [Fifo.pop_pending, hContents, List.tail_cons]

/-- Each critical section is a move of the abstract queue. -/
theorem represents_simulates (bound : Nat) :
    Simulation act observe (@Move Frame bound) Represents where
  matched := by
    intro queue action after fifo h hStep
    cases act_move hStep with
    | oversized put => exact ⟨fifo, by simpa [observe, put] using Move.reject fifo, h⟩
    | refused put =>
        have hClosed : fifo.closed = true := by
          rw [← h.closed_eq]
          exact (put_refused.mp put).2
        exact ⟨fifo, by simpa [observe, put] using Move.refuse fifo hClosed, h⟩
    | stored put => simpa [observe, put] using h.store put
    | exhausted closed empty =>
        have hNone : fifo.pending = [] := List.length_eq_zero_iff.mp (h.load_eq ▸ empty)
        have hMove := Move.exhaust fifo (h.closed_eq ▸ closed) hNone
        exact ⟨fifo, by simpa [observe, FrameQueue.get, empty, closed] using hMove, h⟩
    | timedOut empty =>
        have hNone : fifo.pending = [] := List.length_eq_zero_iff.mp (h.load_eq ▸ empty)
        exact ⟨fifo, by simpa [observe, FrameQueue.getFor, empty] using Move.timeOut fifo hNone, h⟩
    | taken asks waiting =>
        rw [observe_taken asks waiting]
        exact h.take waiting
    | closed => exact ⟨fifo.shut, .close fifo, h.valid.close, h.capacity_eq, h.contents_eq, rfl⟩

end Simulation

theorem run_refines {capacity frameSize : Nat} {log : List (FrameQueue × Action)}
    {queue : FrameQueue} (run : Runs act (new capacity frameSize) log queue) :
    ∃ final : Fifo Frame (max capacity 1),
      Moves Move (Fifo.empty Frame (max capacity 1)) (trace log) final ∧ Represents queue final :=
  (represents_simulates (max capacity 1)).run run (new_represents capacity frameSize)

/-- What was accepted is what was handed out followed by what still waits. -/
theorem run_accepted {capacity frameSize : Nat} {log : List (FrameQueue × Action)}
    {queue : FrameQueue} (run : Runs act (new capacity frameSize) log queue) :
    acceptedIn (trace log) = deliveredIn (trace log) ++ queue.contents := by
  obtain ⟨final, hMoves, hFinal⟩ := run_refines run
  rw [accepted_eq hMoves, hFinal.contents_eq]

/-- The consumer's calls along a run. -/
def takes (log : List (FrameQueue × Action)) : Nat :=
  log.countP fun entry => entry.2 = .get ∨ entry.2 = .getFor

@[simp] theorem takes_append (first second : List (FrameQueue × Action)) :
    takes (first ++ second) = takes first + takes second := List.countP_append

/-- One step of a closed queue: it stays closed, accepts nothing, and a
consumer's call takes a frame off it while there is one. -/
theorem act_closed {queue after : FrameQueue} {action : Action}
    (h : act queue action = some after) (isClosed : queue.closed = true) :
    after.closed = true ∧ after.load = queue.load - takes [(queue, action)] ∧
      acceptedIn [observe queue action] = [] := by
  cases act_move h with
  | oversized put | refused put =>
      exact ⟨isClosed, by simp [takes], by simp [observe, put, acceptedIn]⟩
  | stored put => simp [(put_stored put).2.2.1] at isClosed
  | exhausted closed empty =>
      exact ⟨isClosed, by simp [empty], by simp [observe, FrameQueue.get, empty, closed, acceptedIn]⟩
  | timedOut empty =>
      exact ⟨isClosed, by simp [empty], by simp [observe, FrameQueue.getFor, empty, acceptedIn]⟩
  | taken asks waiting =>
      constructor
      · exact isClosed
      · rw [observe_taken asks waiting]
        rcases asks with rfl | rfl <;> simp [takes, FrameQueue.takeLocked, acceptedIn]
  | closed => exact ⟨rfl, by simp [takes, FrameQueue.close], rfl⟩

/-- A run of a closed queue only drains it. -/
theorem run_closed {queue final : FrameQueue} {log : List (FrameQueue × Action)}
    (run : Runs act queue log final) (isClosed : queue.closed = true) :
    final.closed = true ∧ final.load = queue.load - takes log ∧ acceptedIn (trace log) = [] := by
  induction run with
  | zero => exact ⟨isClosed, rfl, rfl⟩
  | @succ log middle finish action prior last ih =>
      obtain ⟨hClosed, hLoad, hAccepted⟩ := ih
      obtain ⟨hClosed', hLoad', hAccepted'⟩ := act_closed last hClosed
      refine ⟨hClosed', ?_, ?_⟩
      · rw [hLoad', hLoad, takes_append]
        omega
      · rw [trace_append, acceptedIn_append, hAccepted]
        exact hAccepted'

/-- The contract of the class towards its callers, at the end of a run. -/
structure Contract (capacity frameSize : Nat) (log : List (FrameQueue × Action))
    (queue : FrameQueue) : Prop where
  /-- Some run of the abstract queue shows the same events. -/
  refines : ∃ final : Fifo Frame (max capacity 1),
    Moves Move (Fifo.empty Frame (max capacity 1)) (trace log) final ∧ Represents queue final
  delivers_prefix : deliveredIn (trace log) <+: acceptedIn (trace log)
  bounded : (acceptedIn (trace log)).length ≤ (deliveredIn (trace log)).length + max capacity 1
  close_closes : (∃ entry ∈ log, entry.2 = .close) → queue.closed = true
  closed_accepts_nothing : queue.closed = true → ∀ rest final, Runs act queue rest final →
    acceptedIn (trace rest) = []
  /-- After a close no consumer waits, and the frames accepted before it are
  handed out by as many calls as there are frames left. -/
  closed_delivers_all : queue.closed = true → act queue .get ≠ none ∧
    ∀ rest final, Runs act queue rest final → queue.load ≤ takes rest →
      deliveredIn (trace (log ++ rest)) = acceptedIn (trace log)
  nullopt_drained : queue.get = .nullopt →
    queue.closed = true ∧ deliveredIn (trace log) = acceptedIn (trace log)
  timeout_drained : queue.getFor = .nullopt → deliveredIn (trace log) = acceptedIn (trace log)
  oversized_unchanged : ∀ frame : Frame, frameSize < frame.data.length →
    queue.put frame = .lengthError ∧ act queue (.put frame) = some queue

/-- No operation changes the slot size. -/
theorem act_frameSize {queue after : FrameQueue} {action : Action}
    (h : act queue action = some after) : after.frameSize = queue.frameSize := by
  cases act_move h with
  | stored put => rw [(put_stored put).2.2.2]
  | _ => rfl

/-- Every interleaving of the callers meets the contract, for every capacity
and frame size. -/
theorem refines_bounded_fifo (capacity frameSize : Nat) (log : List (FrameQueue × Action))
    (queue : FrameQueue) (run : Runs act (new capacity frameSize) log queue) :
    Contract capacity frameSize log queue := by
  obtain ⟨final, hMoves, hFinal⟩ := run_refines run
  have hAll := run_accepted run
  have drained (hLoad : queue.load = 0) : deliveredIn (trace log) = acceptedIn (trace log) := by
    have hEmpty : queue.contents = [] := List.length_eq_zero_iff.mp (by simpa using hLoad)
    rw [hAll, hEmpty, List.append_nil]
  refine ⟨⟨final, hMoves, hFinal⟩, delivered_prefix hMoves, waiting_le hMoves, ?_, ?_, ?_, ?_, ?_, ?_⟩
  · rintro ⟨⟨before, action⟩, hEntry, rfl⟩
    obtain ⟨_, rest, next, _, _, hStep, hRest⟩ := run.split hEntry
    obtain rfl : before.close = next := by simpa [act] using hStep
    exact (run_closed hRest rfl).1
  · intro isClosed rest last hRest
    exact (run_closed hRest isClosed).2.2
  · intro isClosed
    refine ⟨?_, ?_⟩
    · by_cases hLoad : queue.load = 0 <;> simp [act, FrameQueue.get, hLoad, isClosed]
    · intro rest last hRest hTakes
      obtain ⟨_, hLoad, hNone⟩ := run_closed hRest isClosed
      have hEmpty : last.contents = [] := List.length_eq_zero_iff.mp (by
        rw [contents_length, hLoad]
        omega)
      have hTotal := run_accepted (run.trans hRest)
      rw [hEmpty, List.append_nil, trace_append, acceptedIn_append, hNone,
        List.append_nil] at hTotal
      rw [trace_append, ← hTotal]
  · intro hNull
    unfold FrameQueue.get at hNull
    split_ifs at hNull with hWait hLoad
    exact ⟨by simpa [hLoad] using hWait, drained hLoad⟩
  · intro hNull
    unfold FrameQueue.getFor at hNull
    split_ifs at hNull with hLoad
    exact drained hLoad
  · intro frame hSize
    have hFixed : queue.frameSize = frameSize :=
      run.invariant (fun q => q.frameSize = frameSize) rfl
        fun s a t hs h => (act_frameSize h).trans hs
    have hReject := put_lengthError.mpr (hFixed.symm ▸ hSize)
    exact ⟨hReject, by simp [act, hReject]⟩

/-- A queue asked for capacity 0 holds one frame in two slots, so these calls
wrap around. They time out, pass an oversized frame and close with one left. -/
theorem refines_bounded_fifo_wraps :
    ∃ log queue, trace log = [.accepted ⟨1, [7, 8]⟩, .delivered ⟨1, [7, 8]⟩, .accepted ⟨2, [9]⟩,
        .delivered ⟨2, [9]⟩, .timedOut, .accepted ⟨3, []⟩, .rejected, .closed,
        .delivered ⟨3, []⟩, .exhausted] ∧
      Contract 0 2 log queue := by
  obtain ⟨log, queue, run, hTrace⟩ := exec_witness act (new 0 2)
    [.put ⟨1, [7, 8]⟩, .getFor, .put ⟨2, [9]⟩, .get, .getFor, .put ⟨3, []⟩, .put ⟨4, [1, 2, 3]⟩,
      .close, .get, .get]
    (fun log _ => trace log == [.accepted ⟨1, [7, 8]⟩, .delivered ⟨1, [7, 8]⟩,
      .accepted ⟨2, [9]⟩, .delivered ⟨2, [9]⟩, .timedOut, .accepted ⟨3, []⟩, .rejected, .closed,
      .delivered ⟨3, []⟩, .exhausted]) (by decide)
  exact ⟨log, queue, by simpa using hTrace, refines_bounded_fifo 0 2 log queue run⟩

end WinDV.FrameQueue
