import WinDV.Core.FrameQueue
import WinDV.Core.WideString

/-! A graph that starts at our own output pin. Every frame becomes a media sample with
its place on the time line; now and then the graph is asked whether something
downstream has failed. -/
namespace WinDV

/-- `S_OK`. -/
def sOk : Int := 0

/-- `E_FAIL`, as a signed number. -/
def eFail : Int := -2147467259

/-- `FAILED`. -/
def failed (hr : Int) : Bool := hr < 0

/-- A `DShowError`; how the result is put into words is left out. -/
structure DShowError where
  message : WString
  hr : Int := sOk
  deriving DecidableEq, Repr

/-- `IMediaSample`: a buffer, how much of it is in use, and the times and the mark that
go with it. -/
structure MediaSample where
  buffer : List UInt8
  actualLength : Nat := 0
  time : Option (Int64 × Int64) := none
  syncPoint : Bool := false
  deriving DecidableEq, Repr

namespace MediaSample

/-- `GetSize`. -/
def size (sample : MediaSample) : Nat := sample.buffer.length

/-- What a filter downstream reads. -/
def data (sample : MediaSample) : List UInt8 := sample.buffer.take sample.actualLength

/-- `std::copy` to the front of the buffer, and `SetActualDataLength`. -/
def fill (sample : MediaSample) (frame : List UInt8) : MediaSample :=
  { sample with buffer := frame ++ sample.buffer.drop frame.length, actualLength := frame.length }

/-- Whatever the buffer held before, only the frame is seen. -/
@[simp] theorem data_fill (sample : MediaSample) (frame : List UInt8) :
    (sample.fill frame).data = frame := List.take_left' rfl

end MediaSample

/-- The event codes `CheckForErrors` tells apart. -/
inductive GraphEventCode where
  | errorAbort
  | errorAbortEx
  | streamErrorStopped
  | other
  deriving DecidableEq, Repr

/-- An event of `IMediaEvent`, with its first parameter as a result. -/
structure GraphEvent where
  code : GraphEventCode
  hr : Int
  deriving DecidableEq, Repr

def GraphEvent.isError (event : GraphEvent) : Bool := event.code ≠ .other

/-- `COutputGraph`. `events` is the queue of `m_ME`, and `delivered` is what `Deliver`
was called with. -/
structure OutputGraph where
  failureMessage : WString := wide "The output stopped with an error"
  time : Int64 := 0
  framesSinceCheck : Nat := 0
  events : List GraphEvent := []
  delivered : List MediaSample := []
  deriving DecidableEq, Repr

/-- What the graph answers during one `HandleFrame`. -/
structure OutputAnswer where
  getDeliveryBuffer : Int := sOk
  sample : MediaSample
  getPointer : Int := sOk
  deliver : Int := sOk

/-- The loop of `CheckForErrors`: the events left, and the error it throws if it does. -/
def checkEvents (failureMessage : WString) : List GraphEvent → Except DShowError Unit × List GraphEvent
  | [] => (.ok (), [])
  | event :: rest =>
      if event.isError then
        (.error ⟨failureMessage, if failed event.hr then event.hr else eFail⟩, rest)
      else checkEvents failureMessage rest

namespace OutputGraph

/-- `CheckForErrors`. -/
def checkForErrors (g : OutputGraph) : Except DShowError Unit × OutputGraph :=
  let result := checkEvents g.failureMessage g.events
  (result.1, { g with events := result.2 })

/-- The sample a frame is sent in. -/
def sampleOf (g : OutputGraph) (sample : MediaSample) (frame : Frame) : MediaSample :=
  let filled := { sample.fill frame.data with syncPoint := true }
  if frame.duration ≠ 0 then { filled with time := some (g.time, g.time + frame.duration) } else filled

/-- `HandleFrame`. -/
def handleFrame (g : OutputGraph) (ans : OutputAnswer) (frame : Frame) :
    Except DShowError Unit × OutputGraph :=
  if ans.getDeliveryBuffer ≠ sOk then
    (.error ⟨wide "Can't get an output buffer", ans.getDeliveryBuffer⟩, g)
  else if ans.sample.size < frame.data.length then
    (.error ⟨wide "DV frame is larger than the output buffer", sOk⟩, g)
  else if ans.getPointer ≠ sOk then
    (.error ⟨wide "Can't access the output buffer", ans.getPointer⟩, g)
  else
    let sent := { g with
      time := g.time + frame.duration
      delivered := g.delivered ++ [g.sampleOf ans.sample frame] }
    if failed ans.deliver then (.error ⟨g.failureMessage, ans.deliver⟩, sent)
    else if 25 ≤ g.framesSinceCheck + 1 then { sent with framesSinceCheck := 0 }.checkForErrors
    else (.ok (), { sent with framesSinceCheck := g.framesSinceCheck + 1 })

end OutputGraph

/-- What happens to the graph: an event arrives, or it is handed a frame. -/
inductive OutputAction where
  | event (event : GraphEvent)
  | frame (frame : Frame) (ans : OutputAnswer)

namespace OutputGraph

/-- One action, and the error it is answered with. -/
def step (g : OutputGraph) : OutputAction → Except DShowError Unit × OutputGraph
  | .event event => (.ok (), { g with events := g.events ++ [event] })
  | .frame frame ans => g.handleFrame ans frame

/-- The graph after a sequence of actions, whether they fail or not. -/
def after (g : OutputGraph) : List OutputAction → OutputGraph
  | [] => g
  | action :: rest => (g.step action).2.after rest

/-- No call of the sequence throws. -/
def Accepts (g : OutputGraph) : List OutputAction → Prop
  | [] => True
  | action :: rest => (g.step action).1 = .ok () ∧ (g.step action).2.Accepts rest

instance decidableAccepts (g : OutputGraph) : (actions : List OutputAction) → Decidable (g.Accepts actions)
  | [] => isTrue trivial
  | action :: rest =>
      have := (g.step action).2.decidableAccepts rest
      inferInstanceAs (Decidable ((g.step action).1 = .ok () ∧ (g.step action).2.Accepts rest))

end OutputGraph

/-- The frames of a sequence of actions. -/
def framesOf (actions : List OutputAction) : List Frame :=
  actions.filterMap fun
    | .frame frame _ => some frame
    | .event _ => none

/-- The samples carry the frames, one after the other on the time line from `start` on. -/
def Timeline : Int64 → List Frame → List MediaSample → Prop
  | _, [], [] => True
  | start, frame :: frames, sample :: samples =>
      sample.data = frame.data ∧ sample.syncPoint = true ∧
        (frame.duration ≠ 0 → sample.time = some (start, start + frame.duration)) ∧
        Timeline (start + frame.duration) frames samples
  | _, _, _ => False

section HandleFrame

variable {g : OutputGraph} {ans : OutputAnswer} {frame : Frame}

/-- A frame is handed on, or the graph is left as it was. -/
theorem OutputGraph.handleFrame_sends (g : OutputGraph) (ans : OutputAnswer) (frame : Frame) :
    ((g.handleFrame ans frame).2 = g ∧ ∃ e, (g.handleFrame ans frame).1 = .error e) ∨
      (g.handleFrame ans frame).2.time = g.time + frame.duration ∧
        (g.handleFrame ans frame).2.delivered = g.delivered ++ [g.sampleOf ans.sample frame] := by
  rw [handleFrame]
  split_ifs with hBuffer hSize hPointer hDeliver hCheck
  · exact Or.inl ⟨rfl, _, rfl⟩
  · exact Or.inl ⟨rfl, _, rfl⟩
  · exact Or.inl ⟨rfl, _, rfl⟩
  · exact Or.inr ⟨rfl, rfl⟩
  · exact Or.inr ⟨rfl, rfl⟩
  · exact Or.inr ⟨rfl, rfl⟩

theorem checkEvents_ok {failureMessage : WString} {events rest : List GraphEvent}
    (h : checkEvents failureMessage events = (.ok (), rest)) : ∀ event ∈ events, event.isError = false := by
  induction events with
  | nil => exact nofun
  | cons event more ih =>
      rw [checkEvents] at h
      cases hError : event.isError with
      | true =>
          rw [hError] at h
          cases h
      | false =>
          rw [hError] at h
          intro other hOther
          rcases List.mem_cons.mp hOther with rfl | hMore
          · exact hError
          · exact ih h other hMore

/-- An accepted frame either was one more since the graph was asked, or the graph has just
been asked and knew of no error. -/
theorem OutputGraph.handleFrame_accepted (h : (g.handleFrame ans frame).1 = .ok ()) :
    ((g.handleFrame ans frame).2.framesSinceCheck = g.framesSinceCheck + 1 ∧
        g.framesSinceCheck + 1 < 25 ∧ (g.handleFrame ans frame).2.events = g.events) ∨
      ∀ event ∈ g.events, event.isError = false := by
  rw [handleFrame] at h ⊢
  split_ifs at h ⊢ with hBuffer hSize hPointer hDeliver hCheck
  · apply Or.inr
    exact checkEvents_ok (Prod.ext h rfl)
  · exact Or.inl ⟨rfl, not_le.mp hCheck, rfl⟩

theorem OutputGraph.sampleOf_data (sample : MediaSample) : (g.sampleOf sample frame).data = frame.data := by
  rw [sampleOf]
  split_ifs
  · exact sample.data_fill frame.data
  · exact sample.data_fill frame.data

theorem OutputGraph.sampleOf_syncPoint (sample : MediaSample) :
    (g.sampleOf sample frame).syncPoint = true := by
  rw [sampleOf]
  split_ifs
  · rfl
  · rfl

theorem OutputGraph.sampleOf_time (sample : MediaSample) (h : frame.duration ≠ 0) :
    (g.sampleOf sample frame).time = some (g.time, g.time + frame.duration) := by
  rw [sampleOf, if_pos h]

end HandleFrame

section Timeline

variable {start : Int64} {frames : List Frame} {samples : List MediaSample}

/-- One more sample at the end of the time line. -/
theorem Timeline.concat (h : Timeline start frames samples) {frame : Frame} {sample : MediaSample}
    (hData : sample.data = frame.data) (hMark : sample.syncPoint = true)
    (hTime : frame.duration ≠ 0 → sample.time =
      some (start + addedDuration frames, start + addedDuration frames + frame.duration)) :
    Timeline start (frames ++ [frame]) (samples ++ [sample]) := by
  induction frames generalizing start samples with
  | nil =>
      cases samples with
      | nil => exact ⟨hData, hMark, by simpa using hTime, trivial⟩
      | cons other rest => exact h.elim
  | cons first frames ih =>
      cases samples with
      | nil => exact h.elim
      | cons other rest =>
          refine ⟨h.1, h.2.1, h.2.2.1, ih h.2.2.2 ?_⟩
          intro hDuration
          rw [hTime hDuration, addedDuration_cons, ← Int64.add_assoc]

/-- Where a sample of the time line stands. -/
theorem Timeline.position (h : Timeline start frames samples) :
    samples.length = frames.length ∧ ∀ (i : Nat) (frame : Frame) (sample : MediaSample),
      frames[i]? = some frame → samples[i]? = some sample →
        sample.data = frame.data ∧ sample.syncPoint = true ∧ (frame.duration ≠ 0 →
          sample.time = some (start + addedDuration (frames.take i),
            start + addedDuration (frames.take (i + 1)))) := by
  induction frames generalizing start samples with
  | nil =>
      cases samples with
      | nil => exact ⟨rfl, by simp⟩
      | cons other rest => exact h.elim
  | cons first frames ih =>
      cases samples with
      | nil => exact h.elim
      | cons other rest =>
          obtain ⟨hLength, hRest⟩ := ih h.2.2.2
          refine ⟨congrArg (· + 1) hLength, fun i frame sample hFrame hSample => ?_⟩
          cases i with
          | zero =>
              obtain rfl := Option.some.inj hFrame
              obtain rfl := Option.some.inj hSample
              refine ⟨h.1, h.2.1, fun hDuration => ?_⟩
              rw [h.2.2.1 hDuration]
              simp
          | succ i =>
              obtain ⟨hData, hMark, hTime⟩ := hRest i frame sample hFrame hSample
              refine ⟨hData, hMark, fun hDuration => ?_⟩
              rw [hTime hDuration]
              simp [Int64.add_assoc]

end Timeline

/-- The samples of a graph are a time line from 0 to its time. -/
def OutputGraph.Timed (g : OutputGraph) (sent : List Frame) : Prop :=
  Timeline 0 sent g.delivered ∧ g.time = addedDuration sent

/-- A frame is sent at the end of the time line, or is refused and leaves it. -/
theorem OutputGraph.Timed.step {g : OutputGraph} {sent : List Frame} (h : g.Timed sent)
    (ans : OutputAnswer) (frame : Frame) :
    ((g.handleFrame ans frame).2.Timed sent ∧ ∃ e, (g.handleFrame ans frame).1 = .error e) ∨
      (g.handleFrame ans frame).2.Timed (sent ++ [frame]) := by
  rcases g.handleFrame_sends ans frame with ⟨hSame, hError⟩ | ⟨hTime, hDelivered⟩
  · rw [hSame]
    exact Or.inl ⟨h, hError⟩
  · apply Or.inr
    constructor
    · rw [hDelivered]
      apply h.1.concat (sampleOf_data _) (sampleOf_syncPoint _)
      intro hDuration
      rw [sampleOf_time _ hDuration, h.2, Int64.zero_add]
    · rw [hTime, h.2, addedDuration_concat]

/-- Frames are sent in their order, and left out only if their call fails. -/
theorem OutputGraph.Timed.run {g : OutputGraph} {sent : List Frame} (h : g.Timed sent)
    (actions : List OutputAction) :
    ∃ more, (g.after actions).Timed (sent ++ more) ∧ more.Sublist (framesOf actions) ∧
      (g.Accepts actions → more = framesOf actions) := by
  induction actions generalizing g sent with
  | nil =>
      refine ⟨[], ?_, List.Sublist.refl [], fun _ => rfl⟩
      rw [List.append_nil]
      exact h
  | cons action rest ih =>
      cases action with
      | event event =>
          have hNext : (g.step (.event event)).2.Timed sent := h
          obtain ⟨more, hTimed, hSublist, hAll⟩ := ih hNext
          exact ⟨more, hTimed, hSublist, fun hAccepts => hAll hAccepts.2⟩
      | frame frame ans =>
          rcases h.step ans frame with ⟨hNext, e, hError⟩ | hNext
          · obtain ⟨more, hTimed, hSublist, -⟩ := ih hNext
            refine ⟨more, hTimed, hSublist.trans (List.sublist_cons_self _ _), fun hAccepts => ?_⟩
            have hOk : (g.handleFrame ans frame).1 = .ok () := hAccepts.1
            rw [hError] at hOk
            cases hOk
          · obtain ⟨more, hTimed, hSublist, hAll⟩ := ih hNext
            refine ⟨frame :: more, ?_, hSublist.cons_cons frame, fun hAccepts => ?_⟩
            · rw [List.append_cons]
              exact hTimed
            · rw [hAll hAccepts.2]
              rfl

/-- Whatever fails on the way, the samples a graph has handed on carry the frames it took,
in their order and whole, and each begins on the time line where the one before has ended;
the frames it took are all of them as long as no call has failed. The times are the plain
sums, so that no two samples overlap, as long as no duration is negative and their sum has
room in 64 bits. -/
theorem output_timeline (message : WString) (actions : List OutputAction) :
    let g := OutputGraph.after { failureMessage := message } actions
    ∃ sent : List Frame, sent.Sublist (framesOf actions) ∧
      (OutputGraph.Accepts { failureMessage := message } actions → sent = framesOf actions) ∧
      g.delivered.length = sent.length ∧ g.time = addedDuration sent ∧
      (∀ (i : Nat) (frame : Frame) (sample : MediaSample), sent[i]? = some frame →
        g.delivered[i]? = some sample →
          sample.data = frame.data ∧ sample.syncPoint = true ∧ (frame.duration ≠ 0 →
            sample.time = some (addedDuration (sent.take i), addedDuration (sent.take (i + 1))))) ∧
      ((∀ frame ∈ sent, 0 ≤ frame.duration) → totalDuration sent < 2 ^ 63 →
        ∀ i, (addedDuration (sent.take i)).toInt = totalDuration (sent.take i) ∧
          totalDuration (sent.take i) ≤ totalDuration (sent.take (i + 1))) := by
  intro g
  have hStart : OutputGraph.Timed { failureMessage := message } [] := ⟨trivial, rfl⟩
  obtain ⟨sent, hTimed, hSublist, hAll⟩ := hStart.run actions
  obtain ⟨hLength, hPosition⟩ := hTimed.1.position
  refine ⟨sent, hSublist, hAll, hLength, hTimed.2, fun i frame sample hFrame hSample => ?_,
    fun hForward hRoom i => ⟨addedDuration_take_toInt hForward hRoom i,
      totalDuration_take_le hForward (Nat.le_succ i)⟩⟩
  simpa using hPosition i frame sample hFrame hSample

/-- The graph is asked at the latest at the 25th frame. -/
theorem OutputGraph.accepted_few {g : OutputGraph} {event : GraphEvent} (hEvent : event ∈ g.events)
    (hError : event.isError = true) (actions : List OutputAction) (hAccepts : g.Accepts actions)
    (hCount : g.framesSinceCheck < 25) : g.framesSinceCheck + (framesOf actions).length < 25 := by
  induction actions generalizing g with
  | nil => simpa [framesOf] using hCount
  | cons action rest ih =>
      cases action with
      | event other =>
          apply ih (g := { g with events := g.events ++ [other] }) _ hAccepts.2 hCount
          exact List.mem_append_left _ hEvent
      | frame frame ans =>
          have hOk : (g.handleFrame ans frame).1 = .ok () := hAccepts.1
          rcases g.handleFrame_accepted hOk with ⟨hNext, hFew, hSame⟩ | hNone
          · have hRest := ih (g := (g.handleFrame ans frame).2) (by rw [hSame]; exact hEvent) hAccepts.2
              (by rw [hNext]; exact hFew)
            rw [hNext] at hRest
            simp only [framesOf, List.filterMap_cons, List.length_cons] at hRest ⊢
            omega
          · rw [hNone event hEvent] at hError
            cases hError

theorem OutputGraph.after_append (g : OutputGraph) (first second : List OutputAction) :
    g.after (first ++ second) = (g.after first).after second := by
  induction first generalizing g with
  | nil => rfl
  | cons action rest ih => exact ih _

/-- The count of frames since the graph was asked stays below 25. -/
theorem OutputGraph.framesSinceCheck_lt {g : OutputGraph} (h : g.framesSinceCheck < 25)
    (actions : List OutputAction) : (g.after actions).framesSinceCheck < 25 := by
  induction actions generalizing g with
  | nil => exact h
  | cons action rest ih =>
      apply ih
      cases action with
      | event event => exact h
      | frame frame ans =>
          show (g.handleFrame ans frame).2.framesSinceCheck < 25
          rw [handleFrame]
          split_ifs with hBuffer hSize hPointer hDeliver hCheck
          · exact h
          · exact h
          · exact h
          · exact h
          · exact Nat.zero_lt_succ 24
          · exact not_le.mp hCheck

/-- An error downstream does not go unnoticed: once the graph has reported one, at whatever
point of its life, fewer than 25 more frames are taken before a call fails. -/
theorem output_error_noticed (message : WString) (before after : List OutputAction) (event : GraphEvent)
    (hError : event.isError = true)
    (hAccepts : (OutputGraph.after { failureMessage := message } (before ++ [.event event])).Accepts after) :
    (framesOf after).length < 25 := by
  have hCount := OutputGraph.framesSinceCheck_lt (g := { failureMessage := message })
    (Nat.zero_lt_succ 24) (before ++ [.event event])
  have hQueued : event ∈ (OutputGraph.after { failureMessage := message } (before ++ [.event event])).events := by
    rw [OutputGraph.after_append]
    exact List.mem_append_right _ List.mem_cons_self
  have hFew := OutputGraph.accepted_few hQueued hError after hAccepts hCount
  omega

/-- 24 frames pass before the graph is asked. -/
theorem output_error_noticed_last :
    let frames := List.replicate 24 (OutputAction.frame ⟨400000, [1]⟩ { sample := { buffer := [0] } })
    (framesOf frames).length < 25 :=
  output_error_noticed (wide "Can't write the file") [] _ ⟨.errorAbort, eFail⟩ rfl (by decide +kernel)

end WinDV
