import WinDV.Core.FrameQueueHold
import WinDV.Library.WakeUp

/-! The waiting inside `Put`, `Get` and `GetFor`. Here a call is not one step:
taking the lock, looking at the predicate, giving the lock back and each
notification are steps of their own, and a parked thread may wake up at any
time. There is one producer, one consumer and any number of `Close` calls. -/
namespace WinDV

open WakeUp

/-- `m_notFull` and `m_notEmpty`. -/
inductive QueueCond where
  | notFull
  | notEmpty
  deriving DecidableEq, Repr

/-- The threads at the queue. Each `Close` call is a thread of its own. -/
inductive QueueThread where
  | producer
  | consumer
  | closer (call : Nat)
  deriving DecidableEq, Repr

/-- The next step of the producer. From `checking` to `stored`, and in
`refused`, it holds the lock. -/
inductive ProducerPc where
  | idle
  | called (frame : Frame)
  | entering (frame : Frame)
  | checking (frame : Frame)
  | parked (frame : Frame)
  | stored
  | notifying
  | refused
  deriving DecidableEq, Repr

/-- The next step of the consumer, in `Get` or, if it is `timed`, in `GetFor`.
In `checking`, `expired`, `taken` and `leaving` it holds the lock. -/
inductive ConsumerPc where
  | idle
  | entering (timed : Bool)
  | checking (timed : Bool)
  | parked (timed : Bool)
  | timedOut
  | expired
  | taken
  | notifying
  | leaving
  deriving DecidableEq, Repr

/-- The next step of a `Close` call. -/
inductive CloserPc where
  | entering
  | flagging
  | flagged
  | notifyFull
  | notifyEmpty
  | returned
  deriving DecidableEq, Repr

/-- The queue, who holds `m_mutex`, and where everyone is. -/
structure QueueThreads where
  queue : FrameQueue
  owner : Option QueueThread := none
  producer : ProducerPc := .idle
  consumer : ConsumerPc := .idle
  closers : Nat → CloserPc := fun _ => .entering

namespace QueueThreads

/-- What may be scheduled: a new call, the next step of a thread, a spurious
wake-up, or the end of the time `GetFor` waits. -/
inductive Action where
  | callPut (frame : Frame)
  | callGet (timed : Bool)
  | step (thread : QueueThread)
  | wake (thread : QueueThread)
  | timeOut
  deriving DecidableEq, Repr

/-- A woken producer goes on to take the lock again. -/
def wakeProducer (s : QueueThreads) : QueueThreads :=
  match s.producer with
  | .parked frame => { s with producer := .entering frame }
  | _ => s

def wakeConsumer (s : QueueThreads) : QueueThreads :=
  match s.consumer with
  | .parked timed => { s with consumer := .entering timed }
  | _ => s

/-- Take the lock if it is free, and go on as `next`. -/
def acquire (s : QueueThreads) (thread : QueueThread) (next : QueueThreads) : Option QueueThreads :=
  if s.owner = none then some { next with owner := some thread } else none

/-- `Put`. The size is checked before the lock is taken; the predicate is
looked at, and the frame stored or the lock given up, in one step. -/
def producerStep (s : QueueThreads) : Option QueueThreads :=
  match s.producer with
  | .idle | .parked _ => none
  | .called frame =>
      some { s with producer := if s.queue.frameSize < frame.data.length then .idle else .entering frame }
  | .entering frame => s.acquire .producer { s with producer := .checking frame }
  | .checking frame =>
      match s.queue.put frame with
      | .blocked => some { s with owner := none, producer := .parked frame }
      | .stored queue => some { s with queue := queue, producer := .stored }
      | .refused => some { s with producer := .refused }
      | .lengthError => none
  | .stored => some { s with owner := none, producer := .notifying }
  | .notifying => some { s.wakeConsumer with producer := .idle }
  | .refused => some { s with owner := none, producer := .idle }

/-- `Get` and `GetFor`. Once the time is over `GetFor` takes the lock again and
goes by the load. -/
def consumerStep (s : QueueThreads) : Option QueueThreads :=
  match s.consumer with
  | .idle | .parked _ => none
  | .entering timed => s.acquire .consumer { s with consumer := .checking timed }
  | .timedOut => s.acquire .consumer { s with consumer := .expired }
  | .checking timed =>
      match s.queue.get with
      | .blocked => some { s with owner := none, consumer := .parked timed }
      | .nullopt => some { s with consumer := .leaving }
      | .frame _ queue => some { s with queue := queue, consumer := .taken }
  | .expired =>
      match s.queue.getFor with
      | .blocked => none
      | .nullopt => some { s with consumer := .leaving }
      | .frame _ queue => some { s with queue := queue, consumer := .taken }
  | .taken => some { s with owner := none, consumer := .notifying }
  | .notifying => some { s.wakeProducer with consumer := .idle }
  | .leaving => some { s with owner := none, consumer := .idle }

/-- The call goes on at `pc`. -/
def setCloser (s : QueueThreads) (call : Nat) (pc : CloserPc) : QueueThreads :=
  { s with closers := Function.update s.closers call pc }

/-- `Close`. -/
def closerStep (s : QueueThreads) (call : Nat) : Option QueueThreads :=
  match s.closers call with
  | .entering => s.acquire (.closer call) (s.setCloser call .flagging)
  | .flagging => some ({ s with queue := s.queue.close }.setCloser call .flagged)
  | .flagged => some ({ s with owner := none }.setCloser call .notifyFull)
  | .notifyFull => some (s.wakeProducer.setCloser call .notifyEmpty)
  | .notifyEmpty => some (s.wakeConsumer.setCloser call .returned)
  | .returned => none

/-- The step function. -/
def step (s : QueueThreads) : Action → Option QueueThreads
  | .callPut frame => if s.producer = .idle then some { s with producer := .called frame } else none
  | .callGet timed => if s.consumer = .idle then some { s with consumer := .entering timed } else none
  | .step .producer => s.producerStep
  | .step .consumer => s.consumerStep
  | .step (.closer call) => s.closerStep call
  | .wake .producer => some s.wakeProducer
  | .wake .consumer => some s.wakeConsumer
  | .wake (.closer _) => none
  | .timeOut => if s.consumer = .parked true then some { s with consumer := .timedOut } else none

end QueueThreads

def ProducerPc.isParked : ProducerPc → Bool
  | .parked _ => true
  | _ => false

def ConsumerPc.isParked : ConsumerPc → Bool
  | .parked _ => true
  | _ => false

/-- A frame has been stored and `m_notEmpty` has not been notified since. -/
def ProducerPc.owes : ProducerPc → Bool
  | .stored | .notifying => true
  | _ => false

/-- A frame has been taken and `m_notFull` has not been notified since. -/
def ConsumerPc.owes : ConsumerPc → Bool
  | .taken | .notifying => true
  | _ => false

/-- The flag is set and the condition has not been notified since. -/
def CloserPc.owes : CloserPc → QueueCond → Bool
  | .flagged, _ | .notifyFull, _ => true
  | .notifyEmpty, .notEmpty => true
  | _, _ => false

namespace QueueThreads

/-- The thread is parked on the condition variable. -/
def Parked (s : QueueThreads) : QueueThread → QueueCond → Prop
  | .producer, .notFull => s.producer.isParked = true
  | .consumer, .notEmpty => s.consumer.isParked = true
  | _, _ => False

/-- The thread is still about to notify the condition variable, for a change it
has made to the queue. -/
def AboutToNotify (s : QueueThreads) : QueueThread → QueueCond → Prop
  | .producer, .notEmpty => s.producer.owes = true
  | .consumer, .notFull => s.consumer.owes = true
  | .closer call, cond => (s.closers call).owes cond = true
  | _, _ => False

/-- The predicates of the two waits. -/
def Ready (queue : FrameQueue) : QueueCond → Prop
  | .notFull => queue.closed = true ∨ queue.load < queue.capacity
  | .notEmpty => queue.closed = true ∨ 0 < queue.load

def board (s : QueueThreads) : Board QueueThread QueueCond where
  parked := s.Parked
  owes := s.AboutToNotify
  ready := Ready s.queue

end QueueThreads

end WinDV
