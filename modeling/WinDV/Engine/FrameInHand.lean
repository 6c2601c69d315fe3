import WinDV.Engine.Alive

/-! The frame the capture thread has in hand. `Get` returns a span of the
queue's own storage, so the thread reads bytes that the source may write around
meanwhile. They are those of the frame that left the queue, as long as the
thread does not ask for the next one. -/
namespace WinDV

/-- The queue is in one of the states its operations can bring it to. -/
def World.QueueValid (w : World) : Prop := ∀ queue, w.queue = some queue → queue.Valid

/-- The frame in hand, in the slot the queue handed out last. -/
def World.Holds (w : World) (inHand : Option FrameQueue.Span) (frame : Frame) : Prop :=
  ∃ queue span, w.queue = some queue ∧ inHand = some span ∧ queue.Holds span ∧
    frame = queue.view span

/-- The same, for the capture thread. -/
def Holding (w : World) (l : CaptureLocals) (frame : Frame) : Prop :=
  ∃ queue span, w.queue = some queue ∧ l.frame = some span ∧ queue.Holds span ∧
    frame = queue.view span

section

variable {env : Environment} {ans : Answer} {clock : Nat} {w w' : World} {l l' : CaptureLocals}
  {pc : CapturePc} {t : CaptureThread} {frame other : Frame}

theorem World.Holds.same {inHand : Option FrameQueue.Span} (h : w.Holds inHand frame)
    (hQueue : w'.queue = w.queue) : w'.Holds inHand frame := by
  rw [World.Holds, hQueue]
  exact h

/-- Closing the queue moves no bytes. -/
theorem World.Holds.close {inHand : Option FrameQueue.Span} (h : w.Holds inHand frame)
    (hQueue : w'.queue = w.closeQueue.queue) : w'.Holds inHand frame := by
  obtain ⟨queue, span, isSet, hSpan, hHolds, rfl⟩ := h
  refine ⟨queue.close, span, ?_, hSpan, hHolds.close, rfl⟩
  rw [hQueue, World.closeQueue, isSet]
  rfl

/-- A frame that comes in goes to another slot. -/
theorem World.Holds.put {inHand : Option FrameQueue.Span} {queue queue' : FrameQueue} {incoming : Frame}
    (h : w.Holds inHand frame) (valid : w.QueueValid) (isSet : w.queue = some queue)
    (put : queue.put incoming = .stored queue') (hQueue : w'.queue = some queue') :
    w'.Holds inHand frame := by
  obtain ⟨before, span, hBefore, hSpan, hHolds, rfl⟩ := h
  obtain rfl := Option.some.inj (isSet.symm.trans hBefore)
  obtain ⟨hHolds', hView⟩ := hHolds.put (valid _ isSet) put
  exact ⟨queue', span, hQueue, hSpan, hHolds', hView.symm⟩

theorem World.QueueValid.same (valid : w.QueueValid) (h : w'.queue = w.queue) : w'.QueueValid := by
  intro queue hQueue
  exact valid queue (h.symm.trans hQueue)

theorem World.QueueValid.set {queue : FrameQueue} (valid : queue.Valid) (h : w.queue = some queue) :
    w.QueueValid := by
  intro other hOther
  obtain rfl := Option.some.inj (h.symm.trans hOther)
  exact valid

theorem World.QueueValid.closeQueue (valid : w.QueueValid) : w.closeQueue.QueueValid := by
  intro queue hQueue
  obtain ⟨before, hBefore, rfl⟩ := Option.map_eq_some_iff.mp hQueue
  exact (valid before hBefore).close

theorem CaptureMove.queueValid (h : CaptureMove env ans clock w l pc w' t) (valid : w.QueueValid) :
    w'.QueueValid := by
  cases h with
  | takeFrame isSet waiting => exact .set ((valid _ isSet).takeLocked waiting) rfl
  | finishThrows | finishes | split | releaseWriter => exact valid.same (w.finishWriter_queue env ans)
  | frameSeen =>
      obtain ⟨shown, hShown⟩ := w.timeChange_eq (recordingTime env _ = l.dvTime) _
      rw [hShown]
      exact valid
  | _ => exact valid

theorem RecordMove.queueValid {l : RecordLocals} {pc : RecordPc} {t : RecordThread}
    (h : RecordMove env ans clock w l pc w' t) (valid : w.QueueValid) : w'.QueueValid := by
  cases h with
  | firstFrame isSet waiting | nextFrame isSet waiting =>
      exact .set ((valid _ isSet).takeLocked waiting) rfl
  | frameSeen =>
      obtain ⟨shown, hShown⟩ := w.timeChange_eq (recordingTime env _ = l.dvTime) _
      rw [hShown]
      exact valid
  | _ => exact valid

theorem CallbackMove.queueValid {callback : Callback} {next : Option Callback}
    (h : CallbackMove w callback w' next) (valid : w.QueueValid) : w'.QueueValid := by
  cases h with
  | stored isSet put => exact .set ((valid _ isSet).put put) rfl
  | close => exact valid.closeQueue
  | _ => exact valid

theorem CallMove.queueValid {worker worker' : Worker} {request : Request} {pc : CallPc}
    (h : CallMove env ans w worker request pc w' worker') (valid : w.QueueValid) :
    w'.QueueValid := by
  cases h with
  | closeQueue => exact valid.closeQueue
  | release => exact fun _ hNone => by cases hNone
  | createQueue => exact .set (FrameQueue.new_valid _ _) rfl
  | _ => exact valid

/-- Whatever the engine does to its queue keeps it valid. -/
theorem Config.queueValid_step {c c' : Config} {action : Action} (valid : c.world.QueueValid)
    (hStep : c.step env action = some c') : c'.world.QueueValid := by
  cases step_move hStep with
  | control busy step => exact (callStep_steps step).move.queueValid valid
  | capture thread move => exact move.queueValid valid
  | record thread move => exact move.queueValid valid
  | callback thread move => exact move.queueValid valid
  | begin | deliver | tick | setOptions | takeError => exact valid

theorem Holding.inHand (h : Holding w l frame) : InHand w l frame := by
  obtain ⟨queue, span, hQueue, hSpan, -, hFrame⟩ := h
  exact ⟨queue, span, hQueue, hSpan, hFrame⟩

theorem Holding.eq_of_inHand (h : Holding w l frame) (hOther : InHand w l other) : other = frame := by
  obtain ⟨queue, span, hQueue, hSpan, -, rfl⟩ := h
  obtain ⟨queue', span', hQueue', hSpan', rfl⟩ := hOther
  obtain rfl := Option.some.inj (hQueue.symm.trans hQueue')
  obtain rfl := Option.some.inj (hSpan.symm.trans hSpan')
  rfl

theorem Holding.same (h : Holding w l frame) (hQueue : w'.queue = w.queue)
    (hFrame : l'.frame = l.frame) : Holding w' l' frame := by
  show w'.Holds l'.frame frame
  rw [hFrame]
  exact World.Holds.same h hQueue

/-- The frame that has just left the queue is in hand. -/
theorem World.QueueValid.holding {queue : FrameQueue} (valid : w.QueueValid)
    (isSet : w.queue = some queue) :
    Holding (w.dequeue queue.takeLocked.2 queue.takeLocked.1 clock)
      { l with frame := some queue.takeLocked.1 } (queue.view queue.takeLocked.1) :=
  ⟨queue.takeLocked.2, queue.takeLocked.1, rfl, rfl, (valid _ isSet).takeLocked_holds,
    (FrameQueue.takeLocked_view _).symm⟩

/-- No other thread changes the frame in hand. -/
theorem Config.Interferes.holding {c : Config} {action : Action} (h : c.Interferes action w')
    (valid : c.world.QueueValid) (hHolding : Holding c.world l frame) : Holding w' l frame := by
  cases h with
  | closeQueue => exact World.Holds.close hHolding rfl
  | callback move =>
      cases move with
      | close => exact World.Holds.close hHolding rfl
      | stored isSet put => exact World.Holds.put hHolding valid isSet put rfl
      | _ => exact hHolding
  | _ => exact hHolding

end

end WinDV
