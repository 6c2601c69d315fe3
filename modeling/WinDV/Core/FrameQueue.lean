import Mathlib.Algebra.Ring.Int.Defs
import WinDV.Library.Storage
import WinDV.Library.Transition

/-! The frame queue between the source's streaming thread and the worker: a
ring of fixed-size slots in one byte vector. Each mutex-protected section of
the class is one operation here. An operation that would wait on a condition
variable is `blocked`; it is tried again after another thread has moved. -/
namespace WinDV

open Storage

/-- A frame as `Put` takes it and as `Get` hands it out, with its bytes. -/
structure Frame where
  duration : Int64
  data : List UInt8
  deriving DecidableEq, Repr

/-- How long frames play one after the other. -/
def totalDuration (frames : List Frame) : Int := (frames.map fun frame => frame.duration.toInt).sum

@[simp] theorem totalDuration_nil : totalDuration [] = 0 := rfl

@[simp] theorem totalDuration_cons (frame : Frame) (frames : List Frame) :
    totalDuration (frame :: frames) = frame.duration.toInt + totalDuration frames := by
  simp [totalDuration]

@[simp] theorem totalDuration_concat (frames : List Frame) (frame : Frame) :
    totalDuration (frames ++ [frame]) = totalDuration frames + frame.duration.toInt := by
  simp [totalDuration]

/-- What a `REFERENCE_TIME` comes to that has started at 0 and to which the
durations have been added one by one. It wraps around. -/
def addedDuration (frames : List Frame) : Int64 := .ofInt (totalDuration frames)

@[simp] theorem addedDuration_nil : addedDuration [] = 0 := rfl

@[simp] theorem addedDuration_cons (frame : Frame) (frames : List Frame) :
    addedDuration (frame :: frames) = frame.duration + addedDuration frames := by
  simp [addedDuration]

@[simp] theorem addedDuration_concat (frames : List Frame) (frame : Frame) :
    addedDuration (frames ++ [frame]) = addedDuration frames + frame.duration := by
  simp [addedDuration]

/-- It is the length of the frames as long as that fits into 64 bits. -/
theorem addedDuration_toInt {frames : List Frame} (hLow : -2 ^ 63 ≤ totalDuration frames)
    (hHigh : totalDuration frames < 2 ^ 63) : (addedDuration frames).toInt = totalDuration frames :=
  Int64.toInt_ofInt_of_le hLow hHigh

/-- More frames take no less time, as long as none has a negative duration. -/
theorem totalDuration_take_le {frames : List Frame} (hForward : ∀ frame ∈ frames, 0 ≤ frame.duration)
    {i j : Nat} (h : i ≤ j) : totalDuration (frames.take i) ≤ totalDuration (frames.take j) := by
  induction frames generalizing i j with
  | nil => simp
  | cons frame frames ih =>
      have hFrame : (0 : Int) ≤ frame.duration.toInt :=
        Int64.le_iff_toInt_le.mp (hForward frame List.mem_cons_self)
      have hOthers : ∀ other ∈ frames, 0 ≤ other.duration := fun other hOther =>
        hForward other (List.mem_cons_of_mem _ hOther)
      cases j with
      | zero => rw [Nat.le_zero.mp h]
      | succ j =>
          cases i with
          | zero =>
              have hNone := ih hOthers (Nat.zero_le j)
              rw [List.take_zero, totalDuration_nil] at hNone ⊢
              rw [List.take_succ_cons, totalDuration_cons]
              omega
          | succ i =>
              have hFewer := ih hOthers (Nat.le_of_succ_le_succ h)
              rw [List.take_succ_cons, List.take_succ_cons, totalDuration_cons, totalDuration_cons]
              omega

/-- So their first ones fit as well if they all do. -/
theorem addedDuration_take_toInt {frames : List Frame} (hForward : ∀ frame ∈ frames, 0 ≤ frame.duration)
    (hRoom : totalDuration frames < 2 ^ 63) (i : Nat) :
    (addedDuration (frames.take i)).toInt = totalDuration (frames.take i) := by
  have hBefore := totalDuration_take_le hForward (Nat.zero_le i)
  have hWithin := totalDuration_take_le hForward (Nat.le_max_left i frames.length)
  rw [List.take_zero, totalDuration_nil] at hBefore
  rw [List.take_of_length_le (Nat.le_max_right i frames.length)] at hWithin
  exact addedDuration_toInt (by omega) (by omega)

namespace FrameQueue

/-- `FrameQueue::Slot`. -/
structure Slot where
  duration : Int64 := 0
  length : Nat := 0
  deriving DecidableEq, Repr

/-- `FrameQueue::Frame`: the span of `m_storage` a `Get` returns. -/
structure Span where
  duration : Int64
  start : Nat
  length : Nat
  deriving DecidableEq, Repr

end FrameQueue

open FrameQueue in
/-- The members of `windv::FrameQueue`. -/
structure FrameQueue where
  capacity : Nat
  frameSize : Nat
  slotCount : Nat
  storage : List UInt8
  slots : List Slot
  head : Nat := 0
  tail : Nat := 0
  load : Nat := 0
  closed : Bool := false
  deriving DecidableEq, Repr

namespace FrameQueue

/-- The constructor. One slot more than the capacity is allocated. -/
def new (capacity frameSize : Nat) : FrameQueue where
  capacity := max capacity 1
  frameSize := frameSize
  slotCount := max capacity 1 + 1
  storage := List.replicate ((max capacity 1 + 1) * frameSize) 0
  slots := List.replicate (max capacity 1 + 1) {}

/-- Where the bytes of a slot start in `m_storage`. -/
def slotData (queue : FrameQueue) (index : Nat) : Nat := index * queue.frameSize

inductive PutResult where
  | lengthError
  | blocked
  | refused
  | stored (queue : FrameQueue)

/-- `Put`. The size is checked before the lock is taken. -/
def put (queue : FrameQueue) (frame : Frame) : PutResult :=
  if queue.frameSize < frame.data.length then .lengthError
  else if queue.closed = false ∧ queue.capacity ≤ queue.load then .blocked
  else if queue.closed then .refused
  else .stored { queue with
    slots := queue.slots.set queue.tail ⟨frame.duration, frame.data.length⟩
    storage := overwrite queue.storage (queue.slotData queue.tail) frame.data
    tail := (queue.tail + 1) % queue.slotCount
    load := queue.load + 1 }

/-- `TakeLocked`: the span of the head slot, and the queue without it. -/
def takeLocked (queue : FrameQueue) : Span × FrameQueue :=
  let slot := queue.slots.getD queue.head {}
  (⟨slot.duration, queue.slotData queue.head, slot.length⟩,
    { queue with head := (queue.head + 1) % queue.slotCount, load := queue.load - 1 })

inductive GetResult where
  | blocked
  | nullopt
  | frame (span : Span) (queue : FrameQueue)

/-- `Get`. -/
def get (queue : FrameQueue) : GetResult :=
  if queue.closed = false ∧ queue.load = 0 then .blocked
  else if queue.load = 0 then .nullopt
  else .frame queue.takeLocked.1 queue.takeLocked.2

/-- `GetFor`. The wait may give up at any moment, and then the load decides. -/
def getFor (queue : FrameQueue) : GetResult :=
  if queue.load = 0 then .nullopt
  else .frame queue.takeLocked.1 queue.takeLocked.2

/-- `Close`. -/
def close (queue : FrameQueue) : FrameQueue := { queue with closed := true }

/-- The bytes a span refers to. -/
def bytes (queue : FrameQueue) (span : Span) : List UInt8 :=
  window queue.storage span.start span.length

/-- What the holder of a span reads. -/
def view (queue : FrameQueue) (span : Span) : Frame := ⟨span.duration, queue.bytes span⟩

/-- What every queue built by the constructor and changed only by the
operations satisfies. -/
structure Valid (queue : FrameQueue) : Prop where
  capacity_pos : 0 < queue.capacity
  slotCount_eq : queue.slotCount = queue.capacity + 1
  storage_length : queue.storage.length = queue.slotCount * queue.frameSize
  slots_length : queue.slots.length = queue.slotCount
  slot_fits : ∀ slot ∈ queue.slots, slot.length ≤ queue.frameSize
  head_lt : queue.head < queue.slotCount
  load_le : queue.load ≤ queue.capacity
  tail_eq : queue.tail = ringSlot queue.slotCount queue.head queue.load

theorem new_valid (capacity frameSize : Nat) : (new capacity frameSize).Valid where
  capacity_pos := by simp [new]
  slotCount_eq := rfl
  storage_length := by simp [new]
  slots_length := by simp [new]
  slot_fits := by
    intro slot hSlot
    rw [new, List.mem_replicate] at hSlot
    simp [hSlot.2]
  head_lt := by simp [new]
  load_le := Nat.zero_le _
  tail_eq := by simp [new, ringSlot]

/-- The frame held by a slot. -/
def slotFrame (queue : FrameQueue) (index : Nat) : Frame :=
  let slot := queue.slots.getD index {}
  ⟨slot.duration, window queue.storage (queue.slotData index) slot.length⟩

/-- The frames waiting in the queue, oldest first. -/
def contents (queue : FrameQueue) : List Frame :=
  (List.range queue.load).map fun i => queue.slotFrame (ringSlot queue.slotCount queue.head i)

@[simp] theorem contents_length (queue : FrameQueue) : queue.contents.length = queue.load := by
  simp [contents]

theorem Valid.slotCount_pos {queue : FrameQueue} (valid : queue.Valid) : 0 < queue.slotCount := by
  rw [valid.slotCount_eq]
  exact Nat.succ_pos _

theorem Valid.tail_lt {queue : FrameQueue} (valid : queue.Valid) : queue.tail < queue.slotCount := by
  rw [valid.tail_eq]
  exact ringSlot_lt valid.slotCount_pos

/-- Whatever a slot holds fits into its part of the storage. -/
theorem Valid.getD_fits {queue : FrameQueue} (valid : queue.Valid) (index : Nat) :
    (queue.slots.getD index {}).length ≤ queue.frameSize := by
  rw [List.getD_eq_getElem?_getD]
  cases h : queue.slots[index]? with
  | none => exact Nat.zero_le _
  | some slot => exact valid.slot_fits slot (List.mem_of_getElem? h)

theorem Valid.close {queue : FrameQueue} (valid : queue.Valid) : queue.close.Valid :=
  { valid with }

section Put

variable {queue after : FrameQueue} {frame : Frame}

/-- Everything a `Put` that returns true has found and done. -/
theorem put_stored (h : queue.put frame = .stored after) :
    frame.data.length ≤ queue.frameSize ∧ queue.load < queue.capacity ∧ queue.closed = false ∧
      after = { queue with
        slots := queue.slots.set queue.tail ⟨frame.duration, frame.data.length⟩
        storage := overwrite queue.storage (queue.slotData queue.tail) frame.data
        tail := (queue.tail + 1) % queue.slotCount
        load := queue.load + 1 } := by
  unfold put at h
  split_ifs at h with hSize hFull hClosed
  have hOpen : queue.closed = false := by simpa using hClosed
  refine ⟨Nat.le_of_not_lt hSize, ?_, hOpen, (PutResult.stored.inj h).symm⟩
  exact Nat.lt_of_not_le fun hLoad => hFull ⟨hOpen, hLoad⟩

theorem put_lengthError : queue.put frame = .lengthError ↔ queue.frameSize < frame.data.length := by
  unfold put
  split_ifs <;> simp_all

theorem put_refused :
    queue.put frame = .refused ↔ frame.data.length ≤ queue.frameSize ∧ queue.closed = true := by
  unfold put
  split_ifs <;> simp_all

/-- The tail slot's bytes lie inside the storage. -/
theorem Valid.tail_room (valid : queue.Valid) (hSize : frame.data.length ≤ queue.frameSize) :
    queue.slotData queue.tail + frame.data.length ≤ queue.storage.length := by
  rw [valid.storage_length]
  exact slot_inside hSize valid.tail_lt

theorem Valid.put (valid : queue.Valid) (h : queue.put frame = .stored after) : after.Valid := by
  obtain ⟨hSize, hLoad, _, rfl⟩ := put_stored h
  constructor
  case storage_length =>
    change (overwrite _ _ _).length = _
    rw [overwrite_length _ _ _ (valid.tail_room hSize)]
    exact valid.storage_length
  case slots_length => simpa using valid.slots_length
  case slot_fits =>
    intro slot hSlot
    rcases List.mem_or_eq_of_mem_set hSlot with hOld | rfl
    · exact valid.slot_fits slot hOld
    · exact hSize
  case tail_eq => simp only [valid.tail_eq, ringSlot_succ]
  case load_le => exact hLoad
  all_goals first | exact valid.capacity_pos | exact valid.slotCount_eq | exact valid.head_lt

/-- A store leaves every slot but the tail slot as it was. -/
theorem put_slotFrame_ne (valid : queue.Valid) (h : queue.put frame = .stored after) {index : Nat}
    (hIndex : index ≠ queue.tail) : after.slotFrame index = queue.slotFrame index := by
  obtain ⟨hSize, _, _, rfl⟩ := put_stored h
  have hSlot : (queue.slots.set queue.tail ⟨frame.duration, frame.data.length⟩).getD index {} =
      queue.slots.getD index {} := by
    simp [List.getD_eq_getElem?_getD, Ne.symm hIndex]
  have hRoom := valid.tail_room hSize
  simp only [slotData] at hRoom
  simp only [slotFrame, slotData, hSlot]
  rw [window_overwrite_disjoint _ _ _ hRoom]
  exact slots_apart (valid.getD_fits index) hSize hIndex

theorem put_slotFrame_tail (valid : queue.Valid) (h : queue.put frame = .stored after) :
    after.slotFrame queue.tail = frame := by
  obtain ⟨hSize, _, _, rfl⟩ := put_stored h
  have hTail : queue.tail < queue.slots.length := by
    rw [valid.slots_length]
    exact valid.tail_lt
  have hRoom := valid.tail_room hSize
  simp only [slotData] at hRoom
  simp only [slotFrame, slotData, List.getD_eq_getElem?_getD, List.getElem?_set_self hTail,
    Option.getD_some]
  rw [window_overwrite_self _ _ _ hRoom]

/-- A stored frame joins the waiting frames at the end. None of the slots in
use is the tail slot, so none of their frames changes. -/
theorem put_contents (valid : queue.Valid) (h : queue.put frame = .stored after) :
    after.contents = queue.contents ++ [frame] := by
  have hStored := put_stored h
  have hFields : after.load = queue.load + 1 ∧ after.slotCount = queue.slotCount ∧
      after.head = queue.head := by
    rw [hStored.2.2.2]
    exact ⟨rfl, rfl, rfl⟩
  obtain ⟨hLoad, hCount, hHead⟩ := hFields
  rw [contents, hLoad, hCount, hHead, List.range_succ, List.map_append, List.map_singleton,
    ← valid.tail_eq, put_slotFrame_tail valid h, contents]
  congr 1
  apply List.map_congr_left
  intro i hi
  apply put_slotFrame_ne valid h
  rw [valid.tail_eq]
  intro hSame
  have hBound := valid.load_le
  have hCount := valid.slotCount_eq
  have := List.mem_range.mp hi
  have := ringSlot_injective (by omega) (by omega) hSame
  omega

end Put

section Take

variable {queue : FrameQueue}

theorem Valid.takeLocked (valid : queue.Valid) (h : 0 < queue.load) : queue.takeLocked.2.Valid where
  capacity_pos := valid.capacity_pos
  slotCount_eq := valid.slotCount_eq
  storage_length := valid.storage_length
  slots_length := valid.slots_length
  slot_fits := valid.slot_fits
  head_lt := Nat.mod_lt _ valid.slotCount_pos
  load_le := by
    have := valid.load_le
    simp only [FrameQueue.takeLocked]
    omega
  tail_eq := by
    simp only [FrameQueue.takeLocked, ringSlot_advance, Nat.sub_add_cancel h]
    exact valid.tail_eq

/-- Taking removes the oldest frame, and the span handed out refers to it. -/
theorem takeLocked_contents (valid : queue.Valid) (h : 0 < queue.load) :
    queue.contents = queue.view queue.takeLocked.1 :: queue.takeLocked.2.contents := by
  obtain ⟨load, hLoad⟩ : ∃ load, queue.load = load + 1 := ⟨queue.load - 1, by omega⟩
  have hView : queue.view queue.takeLocked.1 = queue.slotFrame queue.head := rfl
  rw [contents, hLoad, List.range_succ_eq_map, List.map_cons, ringSlot_zero valid.head_lt, hView,
    List.map_map, contents]
  have hTaken : queue.takeLocked.2.load = load := by simp [FrameQueue.takeLocked, hLoad]
  rw [hTaken]
  congr 1
  apply List.map_congr_left
  intro i _
  simp only [Function.comp, FrameQueue.takeLocked, ringSlot_advance, Nat.succ_eq_add_one]
  rfl

/-- Handing a frame out does not touch the storage it lies in. -/
theorem takeLocked_view (span : Span) : queue.takeLocked.2.view span = queue.view span := rfl

end Take

section Hold

variable {queue after : FrameQueue} {frame : Frame} {span : Span}

/-- The span lies in the slot before the head, which is the one handed out last. -/
def Holds (queue : FrameQueue) (span : Span) : Prop :=
  ∃ index < queue.slotCount, queue.head = (index + 1) % queue.slotCount ∧
    span.start = queue.slotData index ∧ span.length ≤ queue.frameSize

theorem Valid.takeLocked_holds (valid : queue.Valid) :
    queue.takeLocked.2.Holds queue.takeLocked.1 :=
  ⟨queue.head, valid.head_lt, rfl, rfl, valid.getD_fits queue.head⟩

theorem Holds.close (h : queue.Holds span) : queue.close.Holds span := h

/-- A store never reaches the slot handed out last: there is one slot more than
frames may wait. -/
theorem Holds.ne_tail (valid : queue.Valid) (hLoad : queue.load < queue.capacity) {index : Nat}
    (hIndex : index < queue.slotCount) (hHead : queue.head = (index + 1) % queue.slotCount) :
    index ≠ queue.tail := by
  have hCount := valid.slotCount_eq
  rw [valid.tail_eq, hHead, ringSlot_advance]
  intro hSame
  have hZero : ringSlot queue.slotCount index 0 = ringSlot queue.slotCount index (queue.load + 1) := by
    rwa [ringSlot_zero hIndex]
  have := ringSlot_injective (by omega) (by omega) hZero
  omega

/-- The bytes of the span handed out last stay what they are. -/
theorem Holds.put (h : queue.Holds span) (valid : queue.Valid) (hPut : queue.put frame = .stored after) :
    after.Holds span ∧ after.view span = queue.view span := by
  obtain ⟨index, hIndex, hHead, hStart, hLength⟩ := h
  obtain ⟨hSize, hLoad, _, rfl⟩ := put_stored hPut
  have hRoom := valid.tail_room hSize
  refine ⟨⟨index, hIndex, hHead, hStart, hLength⟩, ?_⟩
  rw [view, bytes, hStart, window_overwrite_disjoint _ _ _ hRoom]
  · rw [view, bytes, hStart]
  · exact slots_apart hLength hSize (Holds.ne_tail valid hLoad hIndex hHead)

end Hold

end FrameQueue

end WinDV
