import WinDV.Core.FrameQueueRefinement

/-! How long a frame that was handed out stays intact. The consumer reads it
through a span of the queue's storage, outside any lock, while the producer
goes on storing. -/
namespace WinDV.FrameQueue

open Transition

/-- The span a critical section hands out. -/
def handedOut (queue : FrameQueue) : Action → Option Span
  | .get =>
      match queue.get with
      | .frame span _ => some span
      | .blocked | .nullopt => none
  | .getFor =>
      match queue.getFor with
      | .frame span _ => some span
      | .blocked | .nullopt => none
  | .put _ | .close => none

/-- The bytes of the storage a critical section writes, as a start and a length. -/
def written (queue : FrameQueue) : Action → Option (Nat × Nat)
  | .put frame =>
      match queue.put frame with
      | .stored _ => some (queue.slotData queue.tail, frame.data.length)
      | .lengthError | .blocked | .refused => none
  | .get | .getFor | .close => none

/-- Two ranges of bytes have none in common. -/
def Apart (span : Span) (start length : Nat) : Prop :=
  span.start + span.length ≤ start ∨ start + length ≤ span.start

/-- A frame handed out by `before` is intact after the calls `later`: it reads
as when it was handed out, and none of them wrote to its bytes. -/
structure Intact (before : FrameQueue) (span : Span) (later : List (FrameQueue × Action))
    (queue : FrameQueue) : Prop where
  view_eq : queue.view span = before.view span
  not_written : ∀ entry ∈ later, ∀ start length, written entry.1 entry.2 = some (start, length) →
    Apart span start length

section

variable {queue after before : FrameQueue} {action : Action} {span : Span}

theorem handedOut_taken (asks : action = .get ∨ action = .getFor) (waiting : 0 < queue.load) :
    handedOut queue action = some queue.takeLocked.1 := by
  rcases asks with rfl | rfl
  · simp [handedOut, FrameQueue.get, waiting.ne']
  · simp [handedOut, FrameQueue.getFor, waiting.ne']

/-- Only a call that takes a frame hands one out. -/
theorem handedOut_some (h : act queue action = some after) (hOut : handedOut queue action = some span) :
    0 < queue.load ∧ after = queue.takeLocked.2 ∧ span = queue.takeLocked.1 := by
  cases act_move h with
  | taken asks waiting =>
      rw [handedOut_taken asks waiting] at hOut
      exact ⟨waiting, rfl, (Option.some.inj hOut).symm⟩
  | exhausted closed empty => simp [handedOut, FrameQueue.get, empty, closed] at hOut
  | timedOut empty => simp [handedOut, FrameQueue.getFor, empty] at hOut
  | oversized | refused | stored | closed => cases hOut

theorem Valid.act (valid : queue.Valid) (h : act queue action = some after) : after.Valid := by
  cases act_move h with
  | stored put => exact valid.put put
  | taken asks waiting => exact valid.takeLocked waiting
  | closed => exact valid.close
  | oversized | refused | exhausted | timedOut => exact valid

/-- One critical section that hands out no other frame. -/
theorem Holds.act (h : queue.Holds span) (valid : queue.Valid) (hStep : act queue action = some after)
    (hNone : handedOut queue action = none) :
    after.Holds span ∧ after.view span = queue.view span ∧
      ∀ start length, written queue action = some (start, length) → Apart span start length := by
  cases act_move hStep with
  | stored put =>
      obtain ⟨hHolds, hView⟩ := h.put valid put
      refine ⟨hHolds, hView, ?_⟩
      intro start length hWritten
      obtain ⟨rfl, rfl⟩ : queue.slotData queue.tail = start ∧ _ = length := by
        simpa [written, put] using hWritten
      obtain ⟨index, hIndex, hHead, hStart, hLength⟩ := h
      obtain ⟨hSize, hLoad, -, -⟩ := put_stored put
      rw [Apart, hStart]
      exact Storage.slots_apart hLength hSize (Holds.ne_tail valid hLoad hIndex hHead)
  | taken asks waiting =>
      rw [handedOut_taken asks waiting] at hNone
      cases hNone
  | oversized put | refused put => exact ⟨h, rfl, by simp [written, put]⟩
  | exhausted | timedOut => exact ⟨h, rfl, by simp [written]⟩
  | closed => exact ⟨h.close, rfl, by simp [written]⟩

/-- A held span through a run in which no other frame is handed out. -/
theorem Holds.run {later : List (FrameQueue × Action)} (h : before.Holds span) (valid : before.Valid)
    (run : Runs FrameQueue.act before later queue)
    (hNone : ∀ entry ∈ later, handedOut entry.1 entry.2 = none) :
    queue.Valid ∧ queue.Holds span ∧ Intact before span later queue := by
  induction run with
  | zero => exact ⟨valid, h, rfl, by simp⟩
  | @succ log middle finish action prior last ih =>
      obtain ⟨hValid, hHolds, hIntact⟩ :=
        ih fun entry hEntry => hNone entry (List.mem_append_left _ hEntry)
      obtain ⟨hHolds', hView, hApart⟩ := hHolds.act hValid last (hNone (middle, action) (by simp))
      refine ⟨hValid.act last, hHolds', hView.trans hIntact.view_eq, ?_⟩
      intro entry hEntry
      rcases List.mem_append.mp hEntry with hEntry | hEntry
      · exact hIntact.not_written entry hEntry
      · rw [List.mem_singleton.mp hEntry]
        exact hApart

end

/-- The span of the last call that returned a frame stays intact until the
next such call, whatever else the callers do in between. -/
theorem run_intact {capacity frameSize : Nat} {earlier later : List (FrameQueue × Action)}
    {before queue : FrameQueue} {action : Action} {span : Span}
    (run : Runs act (new capacity frameSize) (earlier ++ (before, action) :: later) queue)
    (hOut : handedOut before action = some span)
    (hNone : ∀ entry ∈ later, handedOut entry.1 entry.2 = none) :
    Intact before span later queue := by
  obtain ⟨middle, hEarlier, hRest⟩ := run.unappend
  obtain ⟨rfl, next, hStep, hLater⟩ := hRest.uncons
  have hValid : before.Valid :=
    hEarlier.invariant Valid (new_valid capacity frameSize) fun _ _ _ valid h => valid.act h
  obtain ⟨waiting, rfl, rfl⟩ := handedOut_some hStep hOut
  obtain ⟨-, -, hIntact⟩ := hValid.takeLocked_holds.run (hValid.takeLocked waiting) hLater hNone
  exact ⟨hIntact.view_eq, hIntact.not_written⟩

end WinDV.FrameQueue
