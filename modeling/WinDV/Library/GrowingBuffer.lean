import Mathlib.Tactic.Common

/-! Reading into a buffer that grows. A reader offers a buffer of some size; the
answer is the value, or the size it would take, and the reader comes back with
a buffer of that size. Answering may change what there is to read. -/
namespace GrowingBuffer

universe u v

/-- The answer to one try. -/
inductive Attempt (Value : Type u) where
  | tooSmall (needed : Nat)
  | done (value : Value)
  deriving DecidableEq, Repr

/-- Something to read from. It only asks for more than it was offered, and
never for more than `limit`. -/
structure Filler (State : Type u) (Value : Type v) where
  limit : Nat
  fill : State → Nat → Attempt Value × State
  grows : ∀ s length needed, (fill s length).1 = .tooSmall needed → length < needed ∧ needed ≤ limit

namespace Filler

variable {State : Type u} {Value : Type v}

/-- Try, and as long as the buffer is too small try again with a larger one. -/
def read (filler : Filler State Value) (length : Nat) (s : State) : Value × State :=
  match h : (filler.fill s length).1 with
  | .done value => (value, (filler.fill s length).2)
  | .tooSmall needed =>
      have := filler.grows s length needed h
      filler.read needed (filler.fill s length).2
termination_by filler.limit - length

variable {filler : Filler State Value} {length : Nat} {s : State}

theorem read_done {value : Value} {next : State} (h : filler.fill s length = (.done value, next)) :
    filler.read length s = (value, next) := by
  rw [read]
  split
  · rename_i hAnswer
    rw [h] at hAnswer ⊢
    rw [Attempt.done.inj hAnswer]
  · rename_i hAnswer
    rw [h] at hAnswer
    cases hAnswer

theorem read_tooSmall {needed : Nat} {next : State}
    (h : filler.fill s length = (.tooSmall needed, next)) :
    filler.read length s = filler.read needed next := by
  rw [read]
  split
  · rename_i hAnswer
    rw [h] at hAnswer
    cases hAnswer
  · rename_i hAnswer
    show filler.read _ (filler.fill s length).2 = _
    rw [h] at hAnswer ⊢
    rw [Attempt.tooSmall.inj hAnswer]

/-- What is not used up by a try is read in two at most: the second buffer has
the size the first answer asked for. -/
theorem read_steady {value : Value} {needed : Nat}
    (first : filler.fill s length = (.tooSmall needed, s))
    (second : filler.fill s needed = (.done value, s)) : filler.read length s = (value, s) := by
  rw [read_tooSmall first, read_done second]

/-- What every try that asks for more keeps, and what the last one makes of it. -/
theorem read_rule {kept : State → Prop} {post : Value → State → Prop}
    (hGrow : ∀ s length needed next, kept s → filler.fill s length = (.tooSmall needed, next) → kept next)
    (hDone : ∀ s length value next, kept s → filler.fill s length = (.done value, next) → post value next)
    (h : kept s) : post (filler.read length s).1 (filler.read length s).2 := by
  induction length, s using read.induct filler with
  | case1 length s value hValue =>
      have hFill : filler.fill s length = (.done value, (filler.fill s length).2) := Prod.ext hValue rfl
      rw [read_done hFill]
      exact hDone s length value _ h hFill
  | case2 length s needed hNeeded _ ih =>
      have hFill : filler.fill s length = (.tooSmall needed, (filler.fill s length).2) := Prod.ext hNeeded rfl
      rw [read_tooSmall hFill]
      exact ih (hGrow s length needed _ h hFill)

end Filler

end GrowingBuffer
