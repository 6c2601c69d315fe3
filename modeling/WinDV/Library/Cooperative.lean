import Mathlib.Data.List.Perm.Basic
import WinDV.Library.Dialogue
import WinDV.Library.Transition

/-! Tasks that take turns on one thread. A task runs until it waits, for an answer from
outside or for the one lock; only then do others run. A task may start another, which runs
at once up to its own first wait. What a task relies on while it waits is an invariant that
holds whenever control changes hands, and what it may do is checked in between. -/
namespace Cooperative

open Dialogue Transition

/-- What a task asks of its thread: to read the memory, to change it, to read a value from
outside at once, to start another task, to wait for an answer to a call, to wait for the
lock, and to give it back. -/
inductive Request (Memory Reading Call Child : Type) where
  | look
  | change (f : Memory → Memory)
  | poll
  | fork (child : Child)
  | call (c : Call)
  | acquire
  | release

variable {ε Memory Reading Call Child : Type} {Reply : Call → Type}

/-- What is answered. -/
def Request.Answer (Reply : Call → Type) : Request Memory Reading Call Child → Type
  | look => Memory
  | change _ => Unit
  | poll => Reading
  | fork _ => Unit
  | call c => Reply c
  | acquire => Unit
  | release => Unit

variable (ε Memory Reading Child Reply) in
/-- A task, or a part of one. -/
abbrev Task (α : Type) :=
  Dialogue ε (Request Memory Reading Call Child) (Request.Answer Reply) α

variable (ε Memory Reading Child Reply) in
/-- A task that has been started. `holds` says whether it has the lock. -/
structure Turn where
  holds : Bool
  task : Task ε Memory Reading Child Reply Unit

variable (ε Memory Reading Child Reply) in
/-- The thread: `running` is the task whose turn it is, on top of those that have started it. -/
structure Board where
  memory : Memory
  locked : Bool := false
  running : List (Turn ε Memory Reading Child Reply) := []
  waiting : List (Turn ε Memory Reading Child Reply) := []

variable (ε Memory Reading Child Reply) in
/-- The tasks there are, and when one may be started from outside. -/
structure Program where
  body : Child → Task ε Memory Reading Child Reply Unit
  admits : Memory → Child → Bool

/-- A move: a task is started from outside, the running task goes on, or a waiting one does.
`waits` makes a task wait for a lock that is free, as one that is promised to another. -/
inductive Move (Reading Child : Type) (Reply : Call → Type) where
  | start (child : Child)
  | go (reading : Reading) (waits : Bool)
  | resume (index : Nat) (reply : (c : Call) → Reply c)

namespace Board

/-- The running task goes on. -/
def goOn (p : Program ε Memory Reading Child Reply) (b : Board ε Memory Reading Child Reply)
    (reading : Reading) (waits : Bool) : Option (Board ε Memory Reading Child Reply) :=
  match b.running with
  | [] => none
  | top :: below =>
      match top.task with
      | .done _ => some { b with running := below }
      | .fail _ => some { b with running := below }
      | .ask .look next => some { b with running := { top with task := next b.memory } :: below }
      | .ask (.change f) next =>
          some { b with memory := f b.memory, running := { top with task := next () } :: below }
      | .ask .poll next => some { b with running := { top with task := next reading } :: below }
      | .ask (.fork child) next =>
          some { b with running := ⟨false, p.body child⟩ :: { top with task := next () } :: below }
      | .ask (.call _) _ => some { b with running := below, waiting := b.waiting ++ [top] }
      | .ask .acquire next =>
          if b.locked || waits then some { b with running := below, waiting := b.waiting ++ [top] }
          else some { b with locked := true, running := ⟨true, next ()⟩ :: below }
      | .ask .release next => some { b with locked := false, running := ⟨false, next ()⟩ :: below }

/-- A waiting task goes on, with the answer to its call or with the lock. -/
def resumed (b : Board ε Memory Reading Child Reply) (index : Nat) (reply : (c : Call) → Reply c) :
    Option (Board ε Memory Reading Child Reply) :=
  match b.running, b.waiting[index]? with
  | [], some ⟨holds, .ask (.call c) next⟩ =>
      some { b with running := [⟨holds, next (reply c)⟩], waiting := b.waiting.eraseIdx index }
  | [], some ⟨_, .ask .acquire next⟩ =>
      if b.locked then none
      else some { b with
        locked := true
        running := [⟨true, next ()⟩]
        waiting := b.waiting.eraseIdx index }
  | _, _ => none

def step (p : Program ε Memory Reading Child Reply) (b : Board ε Memory Reading Child Reply) :
    Move Reading Child Reply → Option (Board ε Memory Reading Child Reply)
  | .start child =>
      if b.running.isEmpty && p.admits b.memory child then some { b with running := [⟨false, p.body child⟩] }
      else none
  | .go reading waits => b.goOn p reading waits
  | .resume index reply => b.resumed index reply

end Board

/-- The call a task waits for. -/
def Turn.callOf (turn : Turn ε Memory Reading Child Reply) : Option Call :=
  match turn.task with
  | .ask (.call c) _ => some c
  | _ => none

/-- The calls that are out. -/
def Board.outstanding (b : Board ε Memory Reading Child Reply) : List Call := b.waiting.filterMap Turn.callOf

/-- The call that is made with the next step. -/
def Board.calling (b : Board ε Memory Reading Child Reply) : Option Call := b.running.head?.bind Turn.callOf

variable (Memory Call) in
/-- What tasks may do: `invariant` holds whenever control changes hands, `readable` when a
value from outside is read, `allowed` when a call is made; an exclusive call needs the lock. -/
structure Contract where
  invariant : Bool → Memory → Prop
  readable : Memory → Prop
  allowed : Call → Memory → Prop
  exclusive : Call → Bool

namespace Contract

variable {α β : Type}

/-- The rest of a task keeps the contract and ends with the condition. The task knows whether
it holds the lock, and the lock and the memory as long as it does not wait. -/
def Safe (k : Contract Memory Call) (post : Except ε α → Bool → Bool → Memory → Prop) :
    Bool → Bool → Memory → Task ε Memory Reading Child Reply α → Prop
  | holds, locked, memory, .done result => post (.ok result) holds locked memory
  | holds, locked, memory, .fail error => post (.error error) holds locked memory
  | holds, locked, memory, .ask .look next => k.Safe post holds locked memory (next memory)
  | holds, locked, memory, .ask (.change f) next => k.Safe post holds locked (f memory) (next ())
  | holds, locked, memory, .ask .poll next =>
      k.readable memory ∧ ∀ reading, k.Safe post holds locked memory (next reading)
  | holds, locked, memory, .ask (.fork _) next =>
      k.invariant locked memory ∧ ∀ lock later, (holds = true → lock = true) → k.invariant lock later →
        k.Safe post holds lock later (next ())
  | holds, locked, memory, .ask (.call c) next =>
      k.invariant locked memory ∧ k.allowed c memory ∧ (k.exclusive c = true → holds = true) ∧
        ∀ reply lock later, (holds = true → lock = true) → k.invariant lock later →
          k.Safe post holds lock later (next reply)
  | holds, locked, memory, .ask .acquire next =>
      holds = false ∧ k.invariant locked memory ∧
        ∀ later, k.invariant false later → k.Safe post true true later (next ())
  | holds, _, memory, .ask .release next => holds = true ∧ k.Safe post false false memory (next ())

/-- A task ends without the lock, with the invariant. -/
def Finished (k : Contract Memory Call) (_ : Except ε α) (holds locked : Bool) (memory : Memory) : Prop :=
  holds = false ∧ k.invariant locked memory

/-- A program keeps the contract. -/
def Kept (k : Contract Memory Call) (p : Program ε Memory Reading Child Reply) : Prop :=
  ∀ child locked memory, k.invariant locked memory → k.Safe k.Finished false locked memory (p.body child)

section Rules

variable {k : Contract Memory Call} {post middle : Except ε α → Bool → Bool → Memory → Prop}
  {holds locked : Bool} {memory : Memory} {task : Task ε Memory Reading Child Reply α}

/-- What is made of a task by putting something behind its ends keeps the contract when it
does at the ends. -/
theorem Safe.through {after : Except ε β → Bool → Bool → Memory → Prop}
    (made : Task ε Memory Reading Child Reply α → Task ε Memory Reading Child Reply β)
    (hAsk : ∀ query next, made (.ask query next) = .ask query fun answer => made (next answer))
    (hDone : ∀ result holds locked memory, middle (.ok result) holds locked memory →
      k.Safe after holds locked memory (made (.done result)))
    (hFail : ∀ error holds locked memory, middle (.error error) holds locked memory →
      k.Safe after holds locked memory (made (.fail error)))
    (h : k.Safe middle holds locked memory task) : k.Safe after holds locked memory (made task) := by
  induction task generalizing holds locked memory with
  | done result => exact hDone _ _ _ _ h
  | fail error => exact hFail _ _ _ _ h
  | ask query next ih =>
      rw [hAsk]
      cases query with
      | look => exact ih _ h
      | change f => exact ih _ h
      | poll => exact ⟨h.1, fun reading => ih _ (h.2 reading)⟩
      | fork child => exact ⟨h.1, fun lock later hLock hInv => ih _ (h.2 lock later hLock hInv)⟩
      | call c =>
          exact ⟨h.1, h.2.1, h.2.2.1, fun reply lock later hLock hInv => ih _ (h.2.2.2 reply lock later hLock hInv)⟩
      | acquire => exact ⟨h.1, h.2.1, fun later hInv => ih _ (h.2.2 later hInv)⟩
      | release => exact ⟨h.1, ih _ h.2⟩

theorem Safe.mono (h : k.Safe middle holds locked memory task)
    (hImplies : ∀ result holds locked memory, middle result holds locked memory →
      post result holds locked memory) : k.Safe post holds locked memory task :=
  h.through id (fun _ _ => rfl) (fun _ => hImplies _) (fun _ => hImplies _)

/-- An error ends the whole; a result is gone on with. -/
theorem Safe.bind {after : Except ε β → Bool → Bool → Memory → Prop}
    {next : α → Task ε Memory Reading Child Reply β} (h : k.Safe middle holds locked memory task)
    (hDone : ∀ result holds locked memory, middle (.ok result) holds locked memory →
      k.Safe after holds locked memory (next result))
    (hFail : ∀ error holds locked memory, middle (.error error) holds locked memory →
      after (.error error) holds locked memory) :
    k.Safe after holds locked memory (task.bind next) :=
  h.through (·.bind next) (fun _ _ => rfl) hDone hFail

/-- A result is kept; an error is handled. -/
theorem Safe.catching {handler : ε → Task ε Memory Reading Child Reply α}
    (h : k.Safe middle holds locked memory task)
    (hDone : ∀ result holds locked memory, middle (.ok result) holds locked memory →
      post (.ok result) holds locked memory)
    (hFail : ∀ error holds locked memory, middle (.error error) holds locked memory →
      k.Safe post holds locked memory (handler error)) :
    k.Safe post holds locked memory (task.catching handler) :=
  h.through (·.catching handler) (fun _ _ => rfl) hDone hFail

/-- An error is a result like any other to what comes behind. -/
theorem Safe.attempt {after : Except ε (Except ε α) → Bool → Bool → Memory → Prop}
    (h : k.Safe middle holds locked memory task)
    (hEnd : ∀ result holds locked memory, middle result holds locked memory →
      after (.ok result) holds locked memory) : k.Safe after holds locked memory task.attempt :=
  h.through (·.attempt) (fun _ _ => rfl) (fun _ => hEnd _) (fun _ => hEnd _)

/-- Whatever the end, the cleanup comes behind it. -/
theorem Safe.finishing {cleanup : Task ε Memory Reading Child Reply Unit}
    (h : k.Safe middle holds locked memory task)
    (hEnd : ∀ result holds locked memory, middle result holds locked memory →
      k.Safe post holds locked memory (cleanup.bind fun _ => ofExcept result)) :
    k.Safe post holds locked memory (task.finishing cleanup) :=
  h.through (·.finishing cleanup) (fun _ _ => rfl) (fun _ => hEnd _) (fun _ => hEnd _)

end Rules

section Board

variable {p : Program ε Memory Reading Child Reply} {k : Contract Memory Call}
  {b : Board ε Memory Reading Child Reply}

/-- A task that goes on from wherever control comes back to it. -/
def Resumes (k : Contract Memory Call) (turn : Turn ε Memory Reading Child Reply) : Prop :=
  ∀ lock memory, (turn.holds = true → lock = true) → k.invariant lock memory →
    k.Safe k.Finished turn.holds lock memory turn.task

/-- A task that waits: for the answer to a call, or for the lock. -/
def Waits (k : Contract Memory Call) (turn : Turn ε Memory Reading Child Reply) : Prop :=
  (∃ c next, turn.task = .ask (.call c) next ∧ (k.exclusive c = true → turn.holds = true) ∧
      ∀ reply, k.Resumes ⟨turn.holds, next reply⟩) ∨
    ∃ next, turn.task = .ask .acquire next ∧ turn.holds = false ∧
      ∀ memory, k.invariant false memory → k.Safe k.Finished true true memory (next ())

/-- What holds of the thread in every state: the lock is with one task, if with any; the task
whose turn it is keeps the contract, and every other does as soon as it is its turn. -/
structure Orderly (k : Contract Memory Call) (b : Board ε Memory Reading Child Reply) : Prop where
  holders : (b.running ++ b.waiting).countP (·.holds) = b.locked.toNat
  idle : b.running = [] → k.invariant b.locked b.memory
  top : ∀ turn below, b.running = turn :: below →
    k.Safe k.Finished turn.holds b.locked b.memory turn.task ∧ ∀ later ∈ below, k.Resumes later
  waits : ∀ turn ∈ b.waiting, k.Waits turn

theorem Orderly.holds_locked (h : k.Orderly b) {turn : Turn ε Memory Reading Child Reply}
    (hTurn : turn ∈ b.running ++ b.waiting) (hHolds : turn.holds = true) : b.locked = true := by
  have hSome : 0 < (b.running ++ b.waiting).countP (·.holds) := List.countP_pos_iff.mpr ⟨turn, hTurn, hHolds⟩
  rw [h.holders] at hSome
  cases hLocked : b.locked with
  | true => rfl
  | false => simp [hLocked] at hSome

/-- The thread when control has just come back to whatever was below. -/
theorem Orderly.handOver (hHolders : (b.running ++ b.waiting).countP (·.holds) = b.locked.toNat)
    (hInv : k.invariant b.locked b.memory) (hRunning : ∀ turn ∈ b.running, k.Resumes turn)
    (hWaits : ∀ turn ∈ b.waiting, k.Waits turn) : k.Orderly b where
  holders := hHolders
  idle := fun _ => hInv
  top := by
    intro turn below hTop
    have hHere : turn ∈ b.running := by
      rw [hTop]
      exact List.mem_cons_self
    refine ⟨hRunning turn hHere b.locked b.memory ?_ hInv, fun later hLater => hRunning later ?_⟩
    · intro hHolds
      have hSome : 0 < (b.running ++ b.waiting).countP (·.holds) :=
        List.countP_pos_iff.mpr ⟨turn, List.mem_append_left _ hHere, hHolds⟩
      rw [hHolders] at hSome
      cases hLocked : b.locked with
      | true => rfl
      | false => simp [hLocked] at hSome
    · rw [hTop]
      exact List.mem_cons_of_mem _ hLater
  waits := hWaits

/-- The task whose turn it is has moved on. -/
theorem Orderly.onTop {turn : Turn ε Memory Reading Child Reply}
    {below : List (Turn ε Memory Reading Child Reply)} (hRunning : b.running = turn :: below)
    (hHolders : (b.running ++ b.waiting).countP (·.holds) = b.locked.toNat)
    (hSafe : k.Safe k.Finished turn.holds b.locked b.memory turn.task)
    (hBelow : ∀ later ∈ below, k.Resumes later) (hWaits : ∀ turn ∈ b.waiting, k.Waits turn) : k.Orderly b where
  holders := hHolders
  idle := by
    intro hNone
    rw [hNone] at hRunning
    cases hRunning
  top := by
    intro other rest hTop
    rw [hRunning] at hTop
    obtain ⟨rfl, rfl⟩ := List.cons.inj hTop
    exact ⟨hSafe, hBelow⟩
  waits := hWaits

/-- The task whose turn it is begins to wait. -/
theorem Orderly.putBehind (h : k.Orderly b) {turn : Turn ε Memory Reading Child Reply}
    {below : List (Turn ε Memory Reading Child Reply)} (hRunning : b.running = turn :: below)
    (hInv : k.invariant b.locked b.memory) (hTurn : k.Waits turn) :
    k.Orderly { b with running := below, waiting := b.waiting ++ [turn] } := by
  have hCount := h.holders
  apply Orderly.handOver (b := { b with running := below, waiting := b.waiting ++ [turn] })
  · rw [hRunning] at hCount
    simp only [List.countP_append, List.countP_cons, List.countP_nil] at hCount ⊢
    omega
  · exact hInv
  · exact (h.top turn below hRunning).2
  · intro other hOther
    rcases List.mem_append.mp hOther with hOld | hNew
    · exact h.waits other hOld
    · obtain rfl := List.mem_singleton.mp hNew
      exact hTurn

/-- The running task goes on. -/
theorem Orderly.goOn (hKept : k.Kept p) (h : k.Orderly b) {reading : Reading} {waits : Bool}
    {later : Board ε Memory Reading Child Reply} (hStep : b.goOn p reading waits = some later) :
    k.Orderly later := by
  cases hRunning : b.running with
  | nil =>
      rw [Board.goOn, hRunning] at hStep
      cases hStep
  | cons top below =>
      obtain ⟨hSafe, hBelow⟩ := h.top top below hRunning
      have hCount := h.holders
      rw [hRunning, List.cons_append, List.countP_cons] at hCount
      obtain ⟨holds, task⟩ := top
      rw [Board.goOn, hRunning] at hStep
      cases task with
      | done result =>
          obtain rfl := Option.some.inj hStep
          obtain ⟨hEnd, hInv⟩ := hSafe
          obtain rfl : holds = false := hEnd
          exact Orderly.handOver (by simpa using hCount) hInv hBelow h.waits
      | fail error =>
          obtain rfl := Option.some.inj hStep
          obtain ⟨hEnd, hInv⟩ := hSafe
          obtain rfl : holds = false := hEnd
          exact Orderly.handOver (by simpa using hCount) hInv hBelow h.waits
      | ask query next =>
          cases query with
          | look =>
              obtain rfl := Option.some.inj hStep
              exact Orderly.onTop rfl (by simpa [List.countP_cons] using hCount) hSafe hBelow h.waits
          | change f =>
              obtain rfl := Option.some.inj hStep
              exact Orderly.onTop rfl (by simpa [List.countP_cons] using hCount) hSafe hBelow h.waits
          | poll =>
              obtain rfl := Option.some.inj hStep
              exact Orderly.onTop rfl (by simpa [List.countP_cons] using hCount) (hSafe.2 reading) hBelow h.waits
          | fork child =>
              obtain rfl := Option.some.inj hStep
              have hAll : ∀ later ∈ (⟨holds, next ()⟩ : Turn ε Memory Reading Child Reply) :: below,
                  k.Resumes later := by
                intro later hLater
                rcases List.mem_cons.mp hLater with rfl | hRest
                · exact hSafe.2
                · exact hBelow later hRest
              exact Orderly.onTop rfl (by simpa [List.countP_cons] using hCount)
                (hKept child b.locked b.memory hSafe.1) hAll h.waits
          | call c =>
              obtain rfl := Option.some.inj hStep
              exact h.putBehind hRunning hSafe.1
                (Or.inl ⟨c, next, rfl, hSafe.2.2.1, fun reply => hSafe.2.2.2 reply⟩)
          | acquire =>
              obtain ⟨hHolds, hInv, hNext⟩ := hSafe
              obtain rfl : holds = false := hHolds
              cases hWait : b.locked || waits with
              | true =>
                  simp only [hWait, if_true] at hStep
                  obtain rfl := Option.some.inj hStep
                  exact h.putBehind hRunning hInv (Or.inr ⟨next, rfl, rfl, hNext⟩)
              | false =>
                  simp only [hWait, Bool.false_eq_true, if_false] at hStep
                  obtain rfl := Option.some.inj hStep
                  have hFree : b.locked = false := (Bool.or_eq_false_iff.mp hWait).1
                  rw [hFree] at hInv hCount
                  exact Orderly.onTop rfl (by simpa [List.countP_cons] using hCount) (hNext b.memory hInv)
                    hBelow h.waits
          | release =>
              obtain rfl := Option.some.inj hStep
              obtain ⟨hHolds, hNext⟩ := hSafe
              obtain rfl : holds = true := hHolds
              have hTop : (⟨true, .ask .release next⟩ : Turn ε Memory Reading Child Reply) ∈
                  b.running ++ b.waiting := by
                rw [hRunning]
                exact List.mem_cons_self
              rw [h.holds_locked hTop rfl] at hCount
              exact Orderly.onTop rfl (by simpa [List.countP_cons] using hCount) hNext hBelow h.waits

/-- Taking out an element of a list takes its share out of the count. -/
theorem countP_eraseIdx {α : Type} (p : α → Bool) (l : List α) (i : Nat) {a : α} (h : l[i]? = some a) :
    l.countP p = (l.eraseIdx i).countP p + (if p a then 1 else 0) := by
  obtain ⟨hIndex, rfl⟩ := List.getElem?_eq_some_iff.mp h
  rw [← (List.getElem_cons_eraseIdx_perm hIndex).countP_eq, List.countP_cons]

/-- A waiting task goes on. -/
theorem Orderly.resumed (h : k.Orderly b) {index : Nat} {reply : (c : Call) → Reply c}
    {later : Board ε Memory Reading Child Reply} (hStep : b.resumed index reply = some later) :
    k.Orderly later := by
  cases hRunning : b.running with
  | cons top below =>
      rw [Board.resumed, hRunning] at hStep
      cases hStep
  | nil =>
      have hInv := h.idle hRunning
      have hCount := h.holders
      rw [hRunning, List.nil_append] at hCount
      have hLeft : ∀ turn ∈ b.waiting.eraseIdx index, k.Waits turn := by
        intro turn hTurn
        exact h.waits turn (List.eraseIdx_subset hTurn)
      cases hTurn : b.waiting[index]? with
      | none =>
          rw [Board.resumed, hRunning, hTurn] at hStep
          cases hStep
      | some turn =>
          have hShare := countP_eraseIdx (·.holds) b.waiting index hTurn
          rw [hCount] at hShare
          have hHolds : turn.holds = true → b.locked = true := by
            intro hHolds
            apply h.holds_locked _ hHolds
            exact List.mem_append_right _ (List.mem_of_getElem? hTurn)
          obtain ⟨holds, task⟩ := turn
          rw [Board.resumed, hRunning, hTurn] at hStep
          rcases h.waits _ (List.mem_of_getElem? hTurn) with ⟨c, next, hTask, -, hNext⟩ | ⟨next, hTask, hFree, hNext⟩
          · obtain rfl : task = .ask (.call c) next := hTask
            obtain rfl := Option.some.inj hStep
            exact Orderly.onTop rfl (by simp [List.countP_cons, hShare])
              (hNext (reply c) b.locked b.memory hHolds hInv) (by simp) hLeft
          · obtain rfl : task = .ask .acquire next := hTask
            obtain rfl : holds = false := hFree
            cases hLocked : b.locked with
            | true =>
                simp only [hLocked, if_true] at hStep
                cases hStep
            | false =>
                simp only [hLocked, Bool.false_eq_true, if_false] at hStep
                obtain rfl := Option.some.inj hStep
                rw [hLocked] at hInv hShare
                exact Orderly.onTop rfl (by simpa [List.countP_cons] using hShare.symm) (hNext b.memory hInv)
                  (by simp) hLeft

theorem Orderly.step (hKept : k.Kept p) (h : k.Orderly b) {move : Move Reading Child Reply}
    {later : Board ε Memory Reading Child Reply} (hStep : b.step p move = some later) : k.Orderly later := by
  cases move with
  | go reading waits => exact h.goOn hKept hStep
  | resume index reply => exact h.resumed hStep
  | start child =>
      rw [Board.step] at hStep
      cases hAdmits : b.running.isEmpty && p.admits b.memory child with
      | false =>
          rw [hAdmits] at hStep
          cases hStep
      | true =>
          rw [hAdmits] at hStep
          obtain rfl := Option.some.inj hStep
          have hNone : b.running = [] := List.isEmpty_iff.mp (Bool.and_eq_true_iff.mp hAdmits).1
          have hCount := h.holders
          rw [hNone] at hCount
          exact Orderly.onTop rfl (by simpa using hCount) (hKept child b.locked b.memory (h.idle hNone))
            (by simp) h.waits

/-- A thread that begins with the invariant, on which every task keeps the contract, is in
order in every state it reaches. -/
theorem orderly_of_reachable (hKept : k.Kept p) {memory : Memory} (hStart : k.invariant false memory)
    (h : Reachable (Board.step p) { memory := memory } b) : k.Orderly b := by
  apply h.invariant k.Orderly
  · exact Orderly.handOver (b := { memory := memory }) rfl hStart (by simp) (by simp)
  · intro s move t hs hStep
    exact hs.step hKept hStep

/-- A call is made as the contract allows it. -/
theorem Orderly.calling_allowed (h : k.Orderly b) {c : Call} (hCall : b.calling = some c) :
    k.allowed c b.memory ∧ (k.exclusive c = true → ∃ turn, b.running.head? = some turn ∧ turn.holds = true) := by
  cases hRunning : b.running with
  | nil =>
      rw [Board.calling, hRunning] at hCall
      cases hCall
  | cons top below =>
      have hSafe := (h.top top below hRunning).1
      rw [Board.calling, hRunning] at hCall
      obtain ⟨holds, task⟩ := top
      cases task with
      | done result => cases hCall
      | fail error => cases hCall
      | ask query next =>
          cases query with
          | call other =>
              obtain rfl : other = c := Option.some.inj hCall
              exact ⟨hSafe.2.1, fun hExclusive => ⟨_, rfl, hSafe.2.2.1 hExclusive⟩⟩
          | _ => cases hCall

theorem exclusive_le_holders {turns : List (Turn ε Memory Reading Child Reply)}
    (h : ∀ turn ∈ turns, k.Waits turn) :
    ((turns.filterMap Turn.callOf).filter k.exclusive).length ≤ turns.countP (·.holds) := by
  induction turns with
  | nil => exact Nat.le_refl 0
  | cons turn rest ih =>
      have hRest := ih fun later hLater => h later (List.mem_cons_of_mem _ hLater)
      rw [List.countP_cons, List.filterMap_cons]
      obtain ⟨holds, task⟩ := turn
      rcases h _ List.mem_cons_self with ⟨c, next, hTask, hExclusive, -⟩ | ⟨next, hTask, -, -⟩
      · obtain rfl : task = .ask (.call c) next := hTask
        show (List.filter k.exclusive (c :: _)).length ≤ _
        rw [List.filter_cons]
        cases hKind : k.exclusive c with
        | true =>
            obtain rfl : holds = true := hExclusive hKind
            exact Nat.succ_le_succ hRest
        | false => exact Nat.le_add_right_of_le hRest
      · obtain rfl : task = .ask .acquire next := hTask
        exact Nat.le_add_right_of_le hRest

/-- Only the task with the lock has an exclusive call out. -/
theorem Orderly.one_exclusive (h : k.Orderly b) :
    (b.outstanding.filter k.exclusive).length ≤ b.locked.toNat := by
  have hCount := h.holders
  rw [List.countP_append] at hCount
  have hFew := exclusive_le_holders h.waits
  rw [Board.outstanding]
  omega

/-- A thread on which no task can go on is waiting for an answer from outside. -/
theorem Orderly.not_stuck (h : k.Orderly b) (hIdle : b.running = []) (hLeft : b.waiting ≠ [])
    (hNone : b.outstanding = []) (reply : (c : Call) → Reply c) :
    ∃ later, b.step p (.resume 0 reply) = some later := by
  have hFree : ∀ turn ∈ b.waiting, ∃ next, turn.task = .ask .acquire next ∧ turn.holds = false := by
    intro turn hTurn
    rcases h.waits turn hTurn with ⟨c, next, hTask, -, -⟩ | ⟨next, hTask, hHolds, -⟩
    · have hCall : c ∈ b.outstanding := by
        apply List.mem_filterMap.mpr
        exact ⟨turn, hTurn, by rw [Turn.callOf, hTask]⟩
      rw [hNone] at hCall
      cases hCall
    · exact ⟨next, hTask, hHolds⟩
  have hUnlocked : b.locked = false := by
    have hCount := h.holders
    rw [hIdle, List.nil_append, List.countP_eq_zero.mpr] at hCount
    · cases hLocked : b.locked with
      | false => rfl
      | true => simp [hLocked] at hCount
    · intro turn hTurn
      obtain ⟨next, -, hHolds⟩ := hFree turn hTurn
      simp [hHolds]
  cases hWaiting : b.waiting with
  | nil => exact absurd hWaiting hLeft
  | cons turn rest =>
      obtain ⟨next, hTask, -⟩ := hFree turn (by rw [hWaiting]; exact List.mem_cons_self)
      obtain ⟨holds, task⟩ := turn
      obtain rfl : task = .ask .acquire next := hTask
      have hStep : b.resumed 0 reply = some { b with locked := true, running := [⟨true, next ()⟩], waiting := rest } := by
        rw [Board.resumed, hIdle, hWaiting, hUnlocked]
        rfl
      exact ⟨_, hStep⟩

end Board

end Contract

end Cooperative
