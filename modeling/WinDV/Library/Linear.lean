import Mathlib.Data.List.Basic
import Mathlib.Data.List.Induction
import Mathlib.Tactic.Common

/-! Operations that many callers ask of one server, as a history of events. An operation
takes effect between its beginning and its end; a history in which every operation begins
behind its call, ends in front of its return and has the server for itself is as good as
one operation after another, in an order that respects time. -/
namespace Linear

universe u v

/-- What is seen of an operation: its caller asks for it and gets its result; the server
begins it and ends it. -/
inductive Event (Op : Type u) (Result : Type v) where
  | invoked (op : Op)
  | began (op : Op)
  | finished (op : Op) (result : Result)
  | returned (op : Op) (result : Result)
  deriving DecidableEq, Repr

variable {Op : Type u} {Result : Type v}

def Event.op : Event Op Result → Op
  | invoked op | began op | finished op _ | returned op _ => op

/-- The whole course of an operation. -/
def course (op : Op) (result : Result) : List (Event Op Result) :=
  [.invoked op, .began op, .finished op result, .returned op result]

/-- The server's side of a history: the operations it has done, with their results, and the
one it is at. -/
inductive Serves : List (Op × Result) → Option Op → List (Event Op Result) → Prop where
  | start : Serves [] none []
  | invoked {done : List (Op × Result)} {current : Option Op} {events : List (Event Op Result)}
      (prior : Serves done current events) (op : Op) : Serves done current (events ++ [.invoked op])
  | began {done : List (Op × Result)} {events : List (Event Op Result)}
      (prior : Serves done none events) (op : Op) : Serves done (some op) (events ++ [.began op])
  | finished {done : List (Op × Result)} {op : Op} {events : List (Event Op Result)}
      (prior : Serves done (some op) events) (result : Result) :
      Serves (done ++ [(op, result)]) none (events ++ [.finished op result])
  | returned {done : List (Op × Result)} {current : Option Op} {events : List (Event Op Result)}
      (prior : Serves done current events) (op : Op) (result : Result) :
      Serves done current (events ++ [.returned op result])

variable [DecidableEq Op]

/-- What is seen of one operation. -/
def of (op : Op) (events : List (Event Op Result)) : List (Event Op Result) :=
  events.filter fun event => event.op = op

theorem of_append (op : Op) (first second : List (Event Op Result)) :
    of op (first ++ second) = of op first ++ of op second := List.filter_append ..

/-- A new event is seen of its own operation only. -/
theorem of_concat (op : Op) (events : List (Event Op Result)) (event : Event Op Result) :
    of op (events ++ [event]) = if event.op = op then of op events ++ [event] else of op events := by
  rw [of_append]
  by_cases hOp : event.op = op
  · simp [of, hOp]
  · simp [of, hOp]

/-- Every operation goes its course, as far as it has come. -/
def InOrder (events : List (Event Op Result)) : Prop :=
  ∀ op, ∃ result, of op events <+: course op result

omit [DecidableEq Op] in
/-- Where an event stands in the course of its operation. -/
theorem course_split {front rest : List (Event Op Result)} {event : Event Op Result} {op : Op} {result : Result}
    (h : front ++ event :: rest <+: course op result) :
    front = [] ∧ event = .invoked op ∨ front = [.invoked op] ∧ event = .began op ∨
      front = [.invoked op, .began op] ∧ event = .finished op result ∨
      front = [.invoked op, .began op, .finished op result] ∧ event = .returned op result := by
  obtain ⟨tail, hCourse⟩ := h
  rcases front with _ | ⟨first, _ | ⟨second, _ | ⟨third, _ | ⟨fourth, more⟩⟩⟩⟩
  · simp [course] at hCourse
    simp [hCourse.1]
  · simp [course] at hCourse
    simp [hCourse.1, hCourse.2.1]
  · simp [course] at hCourse
    simp [hCourse.1, hCourse.2.1, hCourse.2.2.1]
  · simp [course] at hCourse
    simp [hCourse.1, hCourse.2.1, hCourse.2.2.1, hCourse.2.2.2.1]
  · simp [course] at hCourse

/-- What is seen of an operation in front of one of its events. -/
theorem InOrder.split {first second : List (Event Op Result)} {event : Event Op Result}
    (h : InOrder (first ++ event :: second)) :
    ∃ result, of event.op first = [] ∧ event = .invoked event.op ∨
      of event.op first = [.invoked event.op] ∧ event = .began event.op ∨
      of event.op first = [.invoked event.op, .began event.op] ∧ event = .finished event.op result ∨
      of event.op first = [.invoked event.op, .began event.op, .finished event.op result] ∧
        event = .returned event.op result := by
  obtain ⟨result, hCourse⟩ := h event.op
  have hSplit : of event.op (event :: second) = event :: of event.op second := by
    simp [of]
  rw [of_append, hSplit] at hCourse
  exact ⟨result, course_split hCourse⟩

/-- An operation that has returned has ended before, with the result it returned. -/
theorem InOrder.finished_before {first second : List (Event Op Result)} {op : Op} {result : Result}
    (h : InOrder (first ++ .returned op result :: second)) : .finished op result ∈ first := by
  obtain ⟨given, ⟨-, hEvent⟩ | ⟨-, hEvent⟩ | ⟨-, hEvent⟩ | ⟨hFront, hEvent⟩⟩ := h.split
  · cases hEvent
  · cases hEvent
  · cases hEvent
  · cases hEvent
    apply List.mem_of_mem_filter
    show Event.finished op result ∈ of op first
    rw [show of op first = _ from hFront]
    simp [Event.op]

/-- An operation that is asked for has not begun before. -/
theorem InOrder.not_began {first second : List (Event Op Result)} {op : Op}
    (h : InOrder (first ++ .invoked op :: second)) : .began op ∉ first := by
  intro hBegan
  have hSeen : .began op ∈ of op first := List.mem_filter.mpr ⟨hBegan, by simp [Event.op]⟩
  obtain ⟨given, ⟨hFront, -⟩ | ⟨-, hEvent⟩ | ⟨-, hEvent⟩ | ⟨-, hEvent⟩⟩ := h.split
  · rw [show of op first = _ from hFront] at hSeen
    cases hSeen
  · cases hEvent
  · cases hEvent
  · cases hEvent

omit [DecidableEq Op] in
/-- What the server is at has begun. -/
theorem Serves.current_began {done : List (Op × Result)} {current : Option Op} {events : List (Event Op Result)}
    (h : Serves done current events) {op : Op} (hCurrent : current = some op) : .began op ∈ events := by
  induction h with
  | start => cases hCurrent
  | invoked prior other ih => exact List.mem_append_left _ (ih hCurrent)
  | began prior other ih =>
      cases hCurrent
      simp
  | finished prior result ih => cases hCurrent
  | returned prior other result ih => exact List.mem_append_left _ (ih hCurrent)

omit [DecidableEq Op] in
/-- What the server has done is what has ended, and it had begun. -/
theorem Serves.mem_done {done : List (Op × Result)} {current : Option Op} {events : List (Event Op Result)}
    (h : Serves done current events) (op : Op) (result : Result) :
    ((op, result) ∈ done ↔ .finished op result ∈ events) ∧
      ((op, result) ∈ done → .began op ∈ events) := by
  induction h with
  | start => simp
  | invoked prior other ih | began prior other ih | returned prior other given ih =>
      obtain ⟨hDone, hBegan⟩ := ih
      constructor
      · simpa using hDone
      · exact fun hIn => List.mem_append_left _ (hBegan hIn)
  | @finished done other events prior given ih =>
      obtain ⟨hDone, hBegan⟩ := ih
      constructor
      · rw [List.mem_append, List.mem_append, hDone]
        simp
      · intro hIn
        apply List.mem_append_left
        rcases List.mem_append.mp hIn with hOld | hNew
        · exact hBegan hOld
        · obtain ⟨rfl, -⟩ := Prod.mk.inj (List.mem_singleton.mp hNew)
          exact prior.current_began rfl

omit [DecidableEq Op] in
/-- The history in front of the last event is one too. -/
theorem Serves.front {done : List (Op × Result)} {current : Option Op} {events first : List (Event Op Result)}
    {last : Event Op Result} (h : Serves done current events) (hEvents : events = first ++ [last]) :
    ∃ earlier before, Serves earlier before first ∧ earlier <+: done := by
  cases h with
  | start => simp at hEvents
  | invoked prior | began prior | returned prior =>
      obtain ⟨rfl, -⟩ := List.append_inj' hEvents rfl
      exact ⟨_, _, prior, List.prefix_refl _⟩
  | finished prior =>
      obtain ⟨rfl, -⟩ := List.append_inj' hEvents rfl
      exact ⟨_, _, prior, List.prefix_append _ _⟩

omit [DecidableEq Op] in
/-- So is every history it began with. -/
theorem Serves.earlier {done : List (Op × Result)} {current : Option Op} {first second : List (Event Op Result)}
    (h : Serves done current (first ++ second)) :
    ∃ earlier before, Serves earlier before first ∧ earlier <+: done := by
  induction second using List.reverseRecOn generalizing done current with
  | nil =>
      rw [List.append_nil] at h
      exact ⟨done, current, h, List.prefix_refl _⟩
  | append_singleton rest last ih =>
      obtain ⟨between, before, hFront, hBetween⟩ := h.front (List.append_assoc _ _ _).symm
      obtain ⟨earlier, start, hFirst, hEarlier⟩ := ih hFront
      exact ⟨earlier, start, hFirst, hEarlier.trans hBetween⟩

/-- Time is respected: an operation that returned before another was asked for comes first
in the order of the server. -/
theorem Serves.respects_time {done : List (Op × Result)} {current : Option Op}
    {first middle last : List (Event Op Result)} {op other : Op} {result : Result}
    (h : Serves done current ((first ++ .returned op result :: middle) ++ .invoked other :: last))
    (hOrder : InOrder ((first ++ .returned op result :: middle) ++ .invoked other :: last)) :
    ∃ earlier, earlier <+: done ∧ (op, result) ∈ earlier ∧ ∀ given, (other, given) ∉ earlier := by
  obtain ⟨earlier, before, hEarlier, hPrefix⟩ := h.earlier
  have hEnded : .finished op result ∈ first := by
    have hWhole := hOrder
    rw [List.append_assoc, List.cons_append] at hWhole
    exact hWhole.finished_before
  refine ⟨earlier, hPrefix, ?_, fun given hGiven => ?_⟩
  · rw [(hEarlier.mem_done op result).1]
    exact List.mem_append_left _ hEnded
  · exact hOrder.not_began ((hEarlier.mem_done other given).2 hGiven)

end Linear
