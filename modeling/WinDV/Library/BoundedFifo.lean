import WinDV.Library.Transition

/-! What a bounded queue with a closing switch is for, independent of any
buffer. It remembers everything it accepted and how much of that it has handed
out. The bound and the order of the two counts are part of the type. -/
namespace BoundedFifo

universe u

variable {α : Type u} {bound : Nat}

/-- Everything accepted so far in order, of which the first `delivered` items
have been handed out. At most `bound` items wait at any time. -/
structure Fifo (α : Type u) (bound : Nat) where
  accepted : List α
  delivered : Nat
  closed : Bool
  delivered_le : delivered ≤ accepted.length
  within : accepted.length ≤ delivered + bound

/-- What a user of the queue sees of one operation. -/
inductive Event (α : Type u) where
  | accepted (item : α)
  | refused
  | rejected
  | delivered (item : α)
  | exhausted
  | timedOut
  | closed
  deriving DecidableEq, Repr

namespace Fifo

def empty (α : Type u) (bound : Nat) : Fifo α bound where
  accepted := []
  delivered := 0
  closed := false
  delivered_le := Nat.le_refl _
  within := Nat.zero_le _

/-- The items that wait. -/
def pending (fifo : Fifo α bound) : List α := fifo.accepted.drop fifo.delivered

theorem pending_length (fifo : Fifo α bound) : fifo.pending.length ≤ bound := by
  have := fifo.within
  simp only [pending, List.length_drop]
  omega

def push (fifo : Fifo α bound) (item : α) (room : fifo.pending.length < bound) :
    Fifo α bound where
  accepted := fifo.accepted ++ [item]
  delivered := fifo.delivered
  closed := fifo.closed
  delivered_le := by
    have := fifo.delivered_le
    simp only [List.length_append, List.length_singleton]
    omega
  within := by
    simp only [pending, List.length_drop, List.length_append, List.length_singleton] at room ⊢
    omega

def pop (fifo : Fifo α bound) (waiting : fifo.pending ≠ []) : Fifo α bound where
  accepted := fifo.accepted
  delivered := fifo.delivered + 1
  closed := fifo.closed
  delivered_le := by
    have := List.length_pos_of_ne_nil waiting
    simp only [pending, List.length_drop] at this
    omega
  within := by
    have := fifo.within
    omega

def shut (fifo : Fifo α bound) : Fifo α bound := { fifo with closed := true }

theorem push_pending (fifo : Fifo α bound) (item : α) (room) :
    (fifo.push item room).pending = fifo.pending ++ [item] :=
  List.drop_append_of_le_length fifo.delivered_le

theorem pop_pending (fifo : Fifo α bound) (waiting) :
    (fifo.pop waiting).pending = fifo.pending.tail := by
  simp [pop, pending, List.tail_drop]

end Fifo

/-- The moves of a bounded closable queue. An offer waits while the queue is
full and open, so a full queue has no `accepted` move; a request waits while it
is empty and open, unless it may give up. -/
inductive Move : Fifo α bound → Event α → Fifo α bound → Prop where
  | accept (fifo : Fifo α bound) (item : α) (room : fifo.pending.length < bound)
      (isOpen : fifo.closed = false) : Move fifo (.accepted item) (fifo.push item room)
  | refuse (fifo : Fifo α bound) (isClosed : fifo.closed = true) : Move fifo .refused fifo
  | reject (fifo : Fifo α bound) : Move fifo .rejected fifo
  | deliver (fifo : Fifo α bound) (waiting : fifo.pending ≠ []) :
      Move fifo (.delivered (fifo.pending.head waiting)) (fifo.pop waiting)
  | exhaust (fifo : Fifo α bound) (isClosed : fifo.closed = true) (none : fifo.pending = []) :
      Move fifo .exhausted fifo
  | timeOut (fifo : Fifo α bound) (none : fifo.pending = []) : Move fifo .timedOut fifo
  | close (fifo : Fifo α bound) : Move fifo .closed fifo.shut

/-- The items a trace shows as accepted, in order. -/
def acceptedIn : List (Event α) → List α
  | [] => []
  | .accepted item :: rest => item :: acceptedIn rest
  | _ :: rest => acceptedIn rest

/-- The items a trace shows as handed out, in order. -/
def deliveredIn : List (Event α) → List α
  | [] => []
  | .delivered item :: rest => item :: deliveredIn rest
  | _ :: rest => deliveredIn rest

@[simp] theorem acceptedIn_append (first second : List (Event α)) :
    acceptedIn (first ++ second) = acceptedIn first ++ acceptedIn second := by
  induction first with
  | nil => rfl
  | cons event rest ih => cases event <;> simp [acceptedIn, ih]

@[simp] theorem deliveredIn_append (first second : List (Event α)) :
    deliveredIn (first ++ second) = deliveredIn first ++ deliveredIn second := by
  induction first with
  | nil => rfl
  | cons event rest ih => cases event <;> simp [deliveredIn, ih]

/-- One move extends both lists of the state by what its event shows. -/
theorem Move.shows {before after : Fifo α bound} {event : Event α} (h : Move before event after) :
    after.accepted = before.accepted ++ acceptedIn [event] ∧
      after.accepted.take after.delivered =
        before.accepted.take before.delivered ++ deliveredIn [event] := by
  cases h with
  | accept item room isOpen =>
      refine ⟨rfl, ?_⟩
      simp [Fifo.push, deliveredIn, List.take_append_of_le_length before.delivered_le]
  | deliver waiting =>
      refine ⟨by simp [Fifo.pop, acceptedIn], ?_⟩
      have hLength : before.delivered < before.accepted.length := by
        simpa [Fifo.pending] using waiting
      simp only [Fifo.pop, deliveredIn, Fifo.pending, List.head_drop]
      exact (List.take_append_getElem hLength).symm
  | _ => exact ⟨by simp [acceptedIn, Fifo.shut], by simp [deliveredIn, Fifo.shut]⟩

/-- A whole trace from the empty queue shows exactly the state it ends in. -/
theorem moves_show {final : Fifo α bound} {trace : List (Event α)}
    (h : Transition.Moves Move (Fifo.empty α bound) trace final) :
    final.accepted = acceptedIn trace ∧ final.accepted.take final.delivered = deliveredIn trace := by
  induction h with
  | zero => exact ⟨rfl, rfl⟩
  | succ prior last ih =>
      obtain ⟨hAccepted, hDelivered⟩ := last.shows
      constructor
      · rw [hAccepted, acceptedIn_append, ih.1]
      · rw [hDelivered, deliveredIn_append, ih.2]

/-- First in, first out, nothing invented: what was handed out is a prefix of
what was accepted. -/
theorem delivered_prefix {final : Fifo α bound} {trace : List (Event α)}
    (h : Transition.Moves Move (Fifo.empty α bound) trace final) :
    deliveredIn trace <+: acceptedIn trace := by
  obtain ⟨hAccepted, hDelivered⟩ := moves_show h
  rw [← hAccepted, ← hDelivered]
  exact List.take_prefix _ _

/-- What waits is what was accepted and not yet handed out. -/
theorem accepted_eq {final : Fifo α bound} {trace : List (Event α)}
    (h : Transition.Moves Move (Fifo.empty α bound) trace final) :
    acceptedIn trace = deliveredIn trace ++ final.pending := by
  obtain ⟨hAccepted, hDelivered⟩ := moves_show h
  rw [← hAccepted, ← hDelivered, Fifo.pending, List.take_append_drop]

theorem waiting_le {final : Fifo α bound} {trace : List (Event α)}
    (h : Transition.Moves Move (Fifo.empty α bound) trace final) :
    (acceptedIn trace).length ≤ (deliveredIn trace).length + bound := by
  have := final.pending_length
  rw [accepted_eq h, List.length_append]
  omega

end BoundedFifo
