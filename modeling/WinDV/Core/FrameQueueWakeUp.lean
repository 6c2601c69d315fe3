import WinDV.Core.FrameQueueWait

/-! No wake-up is lost: whoever sleeps on a condition of the queue that holds
is about to be told, by a thread that has changed the queue and not yet
notified. -/
namespace WinDV.QueueThreads

open WakeUp

section Wake

variable (s : QueueThreads)

/-- Waking the producer moves it, if it is parked, and nothing else. -/
theorem wakeProducer_eq : ∃ pc : ProducerPc, s.wakeProducer = { s with producer := pc } ∧
    pc.isParked = false ∧ pc.owes = s.producer.owes := by
  unfold wakeProducer
  cases hPc : s.producer with
  | parked frame => exact ⟨.entering frame, rfl, rfl, rfl⟩
  | _ => exact ⟨s.producer, rfl, by rw [hPc]; rfl, by rw [hPc]⟩

theorem wakeConsumer_eq : ∃ pc : ConsumerPc, s.wakeConsumer = { s with consumer := pc } ∧
    pc.isParked = false ∧ pc.owes = s.consumer.owes := by
  unfold wakeConsumer
  cases hPc : s.consumer with
  | parked timed => exact ⟨.entering timed, rfl, rfl, rfl⟩
  | _ => exact ⟨s.consumer, rfl, by rw [hPc]; rfl, by rw [hPc]⟩

end Wake

section Moves

variable {s t : QueueThreads}

/-- Nobody has parked. -/
theorem parked_mono (hProducer : t.producer.isParked = true → s.producer.isParked = true)
    (hConsumer : t.consumer.isParked = true → s.consumer.isParked = true) :
    ∀ thread cond, t.board.parked thread cond → s.board.parked thread cond := by
  intro thread cond hParked
  cases thread <;> cases cond
  case producer.notFull => exact hProducer hParked
  case consumer.notEmpty => exact hConsumer hParked
  all_goals exact hParked

/-- No announcement has been made. -/
theorem owes_mono (hProducer : s.producer.owes = true → t.producer.owes = true)
    (hConsumer : s.consumer.owes = true → t.consumer.owes = true)
    (hClosers : ∀ call cond, (s.closers call).owes cond = true → (t.closers call).owes cond = true) :
    ∀ thread cond, s.board.owes thread cond → t.board.owes thread cond := by
  intro thread cond hOwes
  cases thread <;> cases cond
  case producer.notEmpty => exact hProducer hOwes
  case consumer.notFull => exact hConsumer hOwes
  case closer.notFull call => exact hClosers call .notFull hOwes
  case closer.notEmpty call => exact hClosers call .notEmpty hOwes
  all_goals exact hOwes

theorem acquire_eq {thread : QueueThread} {next : QueueThreads}
    (h : s.acquire thread next = some t) : t = { next with owner := some thread } := by
  unfold acquire at h
  split_ifs at h
  exact (Option.some.inj h).symm

theorem put_blocked {queue : FrameQueue} {frame : Frame} (h : queue.put frame = .blocked) :
    ¬ Ready queue .notFull := by
  unfold FrameQueue.put at h
  split_ifs at h with hSize hFull
  rintro (hClosed | hRoom)
  · simp [hFull.1] at hClosed
  · exact absurd hRoom (Nat.not_lt.mpr hFull.2)

theorem get_blocked {queue : FrameQueue} (h : queue.get = .blocked) : ¬ Ready queue .notEmpty := by
  unfold FrameQueue.get at h
  split_ifs at h with hEmpty
  rintro (hClosed | hWaiting)
  · simp [hEmpty.1] at hClosed
  · exact absurd hEmpty.2 hWaiting.ne'

/-- A producer that neither parks nor drops an announcement. -/
theorem quiet_producer {owner : Option QueueThread} {pc : ProducerPc}
    (hParked : pc.isParked = false) (hOwes : s.producer.owes = true → pc.owes = true) :
    Move s.board (board { s with owner := owner, producer := pc }) := by
  refine .quiet (parked_mono ?_ id) (owes_mono hOwes id fun _ _ => id) fun _ => id
  show pc.isParked = true → _
  simp [hParked]

theorem quiet_consumer {owner : Option QueueThread} {pc : ConsumerPc}
    (hParked : pc.isParked = false) (hOwes : s.consumer.owes = true → pc.owes = true) :
    Move s.board (board { s with owner := owner, consumer := pc }) := by
  refine .quiet (parked_mono id ?_) (owes_mono id hOwes fun _ _ => id) fun _ => id
  show pc.isParked = true → _
  simp [hParked]

/-- A `Close` call that goes on at `pc` owes what it owed, except perhaps `made`. -/
theorem closers_update {call : Nat} {pc : CloserPc} (made : QueueCond → Prop)
    (h : ∀ cond, (s.closers call).owes cond = true → pc.owes cond = true ∨ made cond)
    (other : Nat) (cond : QueueCond) (hOwes : (s.closers other).owes cond = true) :
    (Function.update s.closers call pc other).owes cond = true ∨ other = call ∧ made cond := by
  by_cases hCall : other = call
  · subst hCall
    rw [Function.update_self]
    exact (h cond hOwes).imp_right fun hMade => ⟨rfl, hMade⟩
  · rw [Function.update_of_ne hCall]
    exact Or.inl hOwes

theorem closers_keep {call : Nat} {pc : CloserPc}
    (h : ∀ cond, (s.closers call).owes cond = true → pc.owes cond = true)
    (other : Nat) (cond : QueueCond) (hOwes : (s.closers other).owes cond = true) :
    (Function.update s.closers call pc other).owes cond = true := by
  have hKept := closers_update (fun _ => False) (fun c hc => Or.inl (h c hc)) other cond hOwes
  simpa using hKept

/-- What one step of the producer can do. The other steps only move it on,
with the lock or without it. -/
inductive ProducerMove (s : QueueThreads) : QueueThreads → Prop where
  | on {owner : Option QueueThread} {pc : ProducerPc} (awake : pc.isParked = false)
      (keeps : s.producer.owes = true → pc.owes = true) :
      ProducerMove s { s with owner := owner, producer := pc }
  | park {frame : Frame} (free : s.producer.owes = false) (blocked : s.queue.put frame = .blocked) :
      ProducerMove s { s with owner := none, producer := .parked frame }
  | store {frame : Frame} {queue : FrameQueue} (free : s.producer.owes = false)
      (stored : s.queue.put frame = .stored queue) :
      ProducerMove s { s with queue := queue, producer := .stored }
  | notify : ProducerMove s { s.wakeConsumer with producer := .idle }

theorem producerStep_cases (h : s.producerStep = some t) : ProducerMove s t := by
  unfold producerStep at h
  cases hPc : s.producer with
  | idle | parked => simp [hPc] at h
  | called frame =>
      simp only [hPc] at h
      obtain rfl := Option.some.inj h
      split_ifs
      · exact .on rfl (by simp [hPc, ProducerPc.owes])
      · exact .on rfl (by simp [hPc, ProducerPc.owes])
  | entering frame =>
      simp only [hPc] at h
      obtain rfl := acquire_eq h
      exact .on rfl (by simp [hPc, ProducerPc.owes])
  | checking frame =>
      simp only [hPc] at h
      have hFree : s.producer.owes = false := by rw [hPc]; rfl
      cases hPut : s.queue.put frame with
      | lengthError => simp [hPut] at h
      | refused =>
          simp only [hPut] at h
          obtain rfl := Option.some.inj h
          exact .on rfl (by simp [hFree])
      | blocked =>
          simp only [hPut] at h
          obtain rfl := Option.some.inj h
          exact .park hFree hPut
      | stored queue =>
          simp only [hPut] at h
          obtain rfl := Option.some.inj h
          exact .store hFree hPut
  | stored =>
      simp only [hPc] at h
      obtain rfl := Option.some.inj h
      exact .on rfl fun _ => rfl
  | notifying =>
      simp only [hPc] at h
      obtain rfl := Option.some.inj h
      exact .notify
  | refused =>
      simp only [hPc] at h
      obtain rfl := Option.some.inj h
      exact .on rfl (by simp [hPc, ProducerPc.owes])

/-- What one step of the consumer can do. -/
inductive ConsumerMove (s : QueueThreads) : QueueThreads → Prop where
  | on {owner : Option QueueThread} {pc : ConsumerPc} (awake : pc.isParked = false)
      (keeps : s.consumer.owes = true → pc.owes = true) :
      ConsumerMove s { s with owner := owner, consumer := pc }
  | park {timed : Bool} (free : s.consumer.owes = false) (blocked : s.queue.get = .blocked) :
      ConsumerMove s { s with owner := none, consumer := .parked timed }
  | take (free : s.consumer.owes = false) (waiting : 0 < s.queue.load) :
      ConsumerMove s { s with queue := s.queue.takeLocked.2, consumer := .taken }
  | notify : ConsumerMove s { s.wakeProducer with consumer := .idle }

theorem consumerStep_cases (h : s.consumerStep = some t) : ConsumerMove s t := by
  unfold consumerStep at h
  cases hPc : s.consumer with
  | idle | parked => simp [hPc] at h
  | entering | timedOut =>
      simp only [hPc] at h
      obtain rfl := acquire_eq h
      exact .on rfl (by simp [hPc, ConsumerPc.owes])
  | checking timed =>
      simp only [hPc] at h
      have hFree : s.consumer.owes = false := by rw [hPc]; rfl
      cases hGet : s.queue.get with
      | nullopt =>
          simp only [hGet] at h
          obtain rfl := Option.some.inj h
          exact .on rfl (by simp [hFree])
      | blocked =>
          simp only [hGet] at h
          obtain rfl := Option.some.inj h
          exact .park hFree hGet
      | frame span queue =>
          simp only [hGet] at h
          obtain rfl := Option.some.inj h
          obtain ⟨hLoad, rfl⟩ : 0 < s.queue.load ∧ s.queue.takeLocked.2 = queue := by
            unfold FrameQueue.get at hGet
            split_ifs at hGet with hWait hEmpty
            exact ⟨Nat.pos_of_ne_zero hEmpty, (FrameQueue.GetResult.frame.inj hGet).2⟩
          exact .take hFree hLoad
  | expired =>
      simp only [hPc] at h
      have hFree : s.consumer.owes = false := by rw [hPc]; rfl
      by_cases hEmpty : s.queue.load = 0
      · have hGet : s.queue.getFor = .nullopt := if_pos hEmpty
        simp only [hGet] at h
        obtain rfl := Option.some.inj h
        exact .on rfl (by simp [hFree])
      · have hGet : s.queue.getFor = .frame s.queue.takeLocked.1 s.queue.takeLocked.2 := if_neg hEmpty
        simp only [hGet] at h
        obtain rfl := Option.some.inj h
        exact .take hFree (Nat.pos_of_ne_zero hEmpty)
  | taken =>
      simp only [hPc] at h
      obtain rfl := Option.some.inj h
      exact .on rfl fun _ => rfl
  | notifying =>
      simp only [hPc] at h
      obtain rfl := Option.some.inj h
      exact .notify
  | leaving =>
      simp only [hPc] at h
      obtain rfl := Option.some.inj h
      exact .on rfl (by simp [hPc, ConsumerPc.owes])

/-- What one step of a `Close` call can do. -/
inductive CloserMove (s : QueueThreads) (call : Nat) : QueueThreads → Prop where
  | enter (pc : s.closers call = .entering) :
      CloserMove s call { s.setCloser call .flagging with owner := some (.closer call) }
  | close : CloserMove s call ({ s with queue := s.queue.close }.setCloser call .flagged)
  | leave (pc : s.closers call = .flagged) :
      CloserMove s call ({ s with owner := none }.setCloser call .notifyFull)
  | notifyFull (pc : s.closers call = .notifyFull) :
      CloserMove s call (s.wakeProducer.setCloser call .notifyEmpty)
  | notifyEmpty (pc : s.closers call = .notifyEmpty) :
      CloserMove s call (s.wakeConsumer.setCloser call .returned)

theorem closerStep_cases {call : Nat} (h : s.closerStep call = some t) : CloserMove s call t := by
  unfold closerStep at h
  cases hPc : s.closers call with
  | returned => simp [hPc] at h
  | entering =>
      simp only [hPc] at h
      obtain rfl := acquire_eq h
      exact .enter hPc
  | flagging =>
      simp only [hPc] at h
      obtain rfl := Option.some.inj h
      exact .close
  | flagged =>
      simp only [hPc] at h
      obtain rfl := Option.some.inj h
      exact .leave hPc
  | notifyFull =>
      simp only [hPc] at h
      obtain rfl := Option.some.inj h
      exact .notifyFull hPc
  | notifyEmpty =>
      simp only [hPc] at h
      obtain rfl := Option.some.inj h
      exact .notifyEmpty hPc

/-- A step of the producer. -/
theorem ProducerMove.move (h : ProducerMove s t) : Move s.board t.board := by
  cases h with
  | on awake keeps => exact quiet_producer awake keeps
  | park free blocked =>
      refine .park .producer .notFull (put_blocked blocked) ?_
        (owes_mono (by simp [free]) id fun _ _ => id) fun _ => id
      intro thread cond hParked
      cases thread <;> cases cond
      case producer.notFull => exact Or.inr ⟨rfl, rfl⟩
      all_goals exact Or.inl hParked
  | store free stored =>
      have hStored := FrameQueue.put_stored stored
      refine .change .producer ?_ (parked_mono (by simp [ProducerPc.isParked]) id)
        (owes_mono (by simp [free]) id fun _ _ => id) ?_
      · intro cond
        cases cond <;> simp [board, Parked, ProducerPc.isParked]
      · intro cond hReady
        cases cond with
        | notEmpty => exact Or.inr rfl
        | notFull => exact Or.inl (Or.inr hStored.2.1)
  | notify =>
      obtain ⟨pc, hWake, hAwake, hOwes⟩ := s.wakeConsumer_eq
      rw [hWake]
      refine .notify .producer .notEmpty ?_ (parked_mono (by simp [ProducerPc.isParked]) ?_) ?_ fun _ => id
      · intro thread
        cases thread <;> simp [board, Parked, hAwake]
      · show pc.isParked = true → _
        simp [hAwake]
      · intro thread cond hOld
        cases thread <;> cases cond
        case producer.notEmpty => exact Or.inr ⟨rfl, rfl⟩
        case consumer.notFull => exact Or.inl (hOwes.trans hOld)
        all_goals exact Or.inl hOld

/-- A step of the consumer. -/
theorem ConsumerMove.move (h : ConsumerMove s t) : Move s.board t.board := by
  cases h with
  | on awake keeps => exact quiet_consumer awake keeps
  | park free blocked =>
      refine .park .consumer .notEmpty (get_blocked blocked) ?_
        (owes_mono id (by simp [free]) fun _ _ => id) fun _ => id
      intro thread cond hParked
      cases thread <;> cases cond
      case consumer.notEmpty => exact Or.inr ⟨rfl, rfl⟩
      all_goals exact Or.inl hParked
  | take free waiting =>
      -- Taking a frame makes room for another, and the consumer owes that news.
      refine .change .consumer ?_ (parked_mono id (by simp [ConsumerPc.isParked]))
        (owes_mono id (by simp [free]) fun _ _ => id) ?_
      · intro cond
        cases cond <;> simp [board, Parked, ConsumerPc.isParked]
      · intro cond hReady
        cases cond with
        | notFull => exact Or.inr rfl
        | notEmpty => exact Or.inl (Or.inr waiting)
  | notify =>
      obtain ⟨pc, hWake, hAwake, hOwes⟩ := s.wakeProducer_eq
      rw [hWake]
      refine .notify .consumer .notFull ?_ (parked_mono ?_ (by simp [ConsumerPc.isParked])) ?_ fun _ => id
      · intro thread
        cases thread <;> simp [board, Parked, hAwake]
      · show pc.isParked = true → _
        simp [hAwake]
      · intro thread cond hOld
        cases thread <;> cases cond
        case consumer.notFull => exact Or.inr ⟨rfl, rfl⟩
        case producer.notEmpty => exact Or.inl (hOwes.trans hOld)
        all_goals exact Or.inl hOld

/-- A step of a `Close` call that wakes nobody and drops no announcement. -/
theorem quiet_closer {owner : Option QueueThread} {call : Nat} {pc : CloserPc}
    (h : ∀ cond, (s.closers call).owes cond = true → pc.owes cond = true) :
    Move s.board (board (setCloser { s with owner := owner } call pc)) := by
  exact .quiet (parked_mono id id) (owes_mono id id (closers_keep h)) fun _ => id

/-- A notification of a `Close` call. Everything parked on that condition
variable is awake after it. -/
theorem notify_closer {call : Nat} {pc : CloserPc} {woken : QueueThreads} (cond : QueueCond)
    (hCond : ∀ c, (s.closers call).owes c = true → pc.owes c = true ∨ c = cond)
    (hAwake : ∀ thread, ¬ woken.Parked thread cond)
    (hParked : ∀ thread c, woken.Parked thread c → s.Parked thread c)
    (hProducer : woken.producer.owes = s.producer.owes)
    (hConsumer : woken.consumer.owes = s.consumer.owes) (hQueue : woken.queue = s.queue)
    (hClosers : woken.closers = s.closers) : Move s.board (woken.setCloser call pc).board := by
  refine .notify (.closer call) cond hAwake hParked ?_ ?_
  · intro thread c hOwes
    cases thread with
    | producer =>
        cases c with
        | notEmpty => exact Or.inl (hProducer.trans hOwes)
        | notFull => exact hOwes.elim
    | consumer =>
        cases c with
        | notFull => exact Or.inl (hConsumer.trans hOwes)
        | notEmpty => exact hOwes.elim
    | closer other =>
        show (Function.update woken.closers call pc other).owes c = true ∨ _
        rw [hClosers, QueueThread.closer.injEq]
        exact closers_update _ hCond other c hOwes
  · intro c hReady
    have hSame : Ready woken.queue c := hReady
    rwa [hQueue] at hSame

/-- A step of a `Close` call. -/
theorem CloserMove.move {call : Nat} (h : CloserMove s call t) : Move s.board t.board := by
  cases h with
  | enter hPc => exact quiet_closer (by simp [hPc, CloserPc.owes])
  | close =>
      refine .change (.closer call) ?_ (parked_mono id id) (owes_mono id id ?_) ?_
      · intro cond
        cases cond <;> simp [board, Parked]
      · exact closers_keep fun _ _ => rfl
      · intro cond _
        right
        show (Function.update s.closers call .flagged call).owes cond = true
        rw [Function.update_self]
        rfl
  | leave hPc => exact quiet_closer (fun _ _ => rfl)
  | notifyFull hPc =>
      obtain ⟨pc, hWake, hAwake, hOwes⟩ := s.wakeProducer_eq
      rw [hWake]
      refine notify_closer .notFull ?_ ?_ ?_ hOwes rfl rfl rfl
      · intro cond _
        cases cond <;> simp [CloserPc.owes]
      · intro thread
        cases thread <;> simp [Parked, hAwake]
      · exact parked_mono (s := s) (t := { s with producer := pc }) (by simp [hAwake]) id
  | notifyEmpty hPc =>
      obtain ⟨pc, hWake, hAwake, hOwes⟩ := s.wakeConsumer_eq
      rw [hWake]
      refine notify_closer .notEmpty ?_ ?_ ?_ rfl hOwes rfl rfl
      · intro cond _
        cases cond <;> simp_all [CloserPc.owes]
      · intro thread
        cases thread <;> simp [Parked, hAwake]
      · exact parked_mono (s := s) (t := { s with consumer := pc }) id (by simp [hAwake])

/-- Every step of every thread keeps to the discipline. -/
theorem step_move {action : Action} (h : s.step action = some t) : Move s.board t.board := by
  cases action with
  | callPut frame =>
      simp only [step] at h
      split_ifs at h with hIdle
      obtain rfl := Option.some.inj h
      exact quiet_producer rfl (by simp [hIdle, ProducerPc.owes])
  | callGet timed =>
      simp only [step] at h
      split_ifs at h with hIdle
      obtain rfl := Option.some.inj h
      exact quiet_consumer rfl (by simp [hIdle, ConsumerPc.owes])
  | step thread =>
      cases thread with
      | producer => exact (producerStep_cases h).move
      | consumer => exact (consumerStep_cases h).move
      | closer call => exact (closerStep_cases h).move
  | wake thread =>
      cases thread with
      | producer =>
          obtain rfl := Option.some.inj h
          obtain ⟨pc, hWake, hAwake, hOwes⟩ := s.wakeProducer_eq
          rw [hWake]
          exact quiet_producer hAwake (by simp [hOwes])
      | consumer =>
          obtain rfl := Option.some.inj h
          obtain ⟨pc, hWake, hAwake, hOwes⟩ := s.wakeConsumer_eq
          rw [hWake]
          exact quiet_consumer hAwake (by simp [hOwes])
      | closer call => cases h
  | timeOut =>
      simp only [step] at h
      split_ifs at h with hParked
      obtain rfl := Option.some.inj h
      exact quiet_consumer rfl (by simp [hParked, ConsumerPc.owes])

/-- What the producer does to the queue is one of its critical sections, and
the `Close` calls are where they were. -/
theorem ProducerMove.queue (h : ProducerMove s t) : t.closers = s.closers ∧
    (t.queue = s.queue ∨ ∃ action, FrameQueue.act s.queue action = some t.queue) := by
  cases h with
  | on | park => exact ⟨rfl, Or.inl rfl⟩
  | @store frame _ _ stored => exact ⟨rfl, Or.inr ⟨.put frame, by simp [FrameQueue.act, stored]⟩⟩
  | notify =>
      obtain ⟨pc, hWake, -⟩ := s.wakeConsumer_eq
      rw [hWake]
      exact ⟨rfl, Or.inl rfl⟩

theorem ConsumerMove.queue (h : ConsumerMove s t) : t.closers = s.closers ∧
    (t.queue = s.queue ∨ ∃ action, FrameQueue.act s.queue action = some t.queue) := by
  cases h with
  | on | park => exact ⟨rfl, Or.inl rfl⟩
  | take free waiting =>
      have hGet : s.queue.getFor = .frame s.queue.takeLocked.1 s.queue.takeLocked.2 :=
        if_neg waiting.ne'
      exact ⟨rfl, Or.inr ⟨.getFor, by simp [FrameQueue.act, hGet]⟩⟩
  | notify =>
      obtain ⟨pc, hWake, -⟩ := s.wakeProducer_eq
      rw [hWake]
      exact ⟨rfl, Or.inl rfl⟩

/-- Everyone but the `Close` calls leaves these where they are, and does to the
queue what its critical sections do. -/
theorem step_queue {action : Action} (h : s.step action = some t) :
    (∃ call, action = .step (.closer call) ∧ CloserMove s call t) ∨
    t.closers = s.closers ∧
      (t.queue = s.queue ∨ ∃ action, FrameQueue.act s.queue action = some t.queue) := by
  cases action with
  | callPut | callGet | timeOut =>
      simp only [step] at h
      split_ifs at h
      obtain rfl := Option.some.inj h
      exact Or.inr ⟨rfl, Or.inl rfl⟩
  | step thread =>
      cases thread with
      | producer => exact Or.inr (producerStep_cases h).queue
      | consumer => exact Or.inr (consumerStep_cases h).queue
      | closer call => exact Or.inl ⟨call, rfl, closerStep_cases h⟩
  | wake thread =>
      cases thread with
      | producer =>
          obtain rfl := Option.some.inj h
          obtain ⟨pc, hWake, -⟩ := s.wakeProducer_eq
          rw [hWake]
          exact Or.inr ⟨rfl, Or.inl rfl⟩
      | consumer =>
          obtain rfl := Option.some.inj h
          obtain ⟨pc, hWake, -⟩ := s.wakeConsumer_eq
          rw [hWake]
          exact Or.inr ⟨rfl, Or.inl rfl⟩
      | closer call => cases h

/-- A `Close` call closes the queue or leaves it alone. -/
theorem CloserMove.queue {call : Nat} (h : CloserMove s call t) :
    t.queue = s.queue ∨ t.queue = s.queue.close := by
  cases h with
  | enter | leave => exact Or.inl rfl
  | close => exact Or.inr rfl
  | notifyFull =>
      obtain ⟨pc, hWake, -⟩ := s.wakeProducer_eq
      rw [hWake]
      exact Or.inl rfl
  | notifyEmpty =>
      obtain ⟨pc, hWake, -⟩ := s.wakeConsumer_eq
      rw [hWake]
      exact Or.inl rfl

/-- Whatever the threads do, the queue stays one its operations lead to. -/
theorem valid_step {action : Action} (valid : s.queue.Valid) (h : s.step action = some t) :
    t.queue.Valid := by
  rcases step_queue h with ⟨call, -, hCloser⟩ | ⟨-, hSame | ⟨critical, hAct⟩⟩
  · rcases hCloser.queue with hSame | hClose
    · rwa [hSame]
    · rw [hClose]
      exact valid.close
  · rwa [hSame]
  · exact valid.act hAct

end Moves

/-- The `Close` call has set the flag. -/
def flagSet : CloserPc → Bool
  | .entering | .flagging => false
  | _ => true

/-- The `Close` call has notified the condition variable. -/
def told : CloserPc → QueueCond → Bool
  | .notifyEmpty, .notFull => true
  | .returned, _ => true
  | _, _ => false

/-- What the `Close` calls have seen to. -/
structure ClosedFor (s : QueueThreads) : Prop where
  closed : ∀ call, flagSet (s.closers call) = true → s.queue.closed = true
  awake : ∀ call cond, told (s.closers call) cond = true → ∀ thread, ¬ s.Parked thread cond

section Close

variable {s t : QueueThreads}

theorem told_flagSet {pc : CloserPc} {cond : QueueCond} (h : told pc cond = true) :
    flagSet pc = true := by
  cases pc <;> first | rfl | (cases cond <;> cases h)

/-- Nobody parks again on what a `Close` call has announced. -/
theorem ClosedFor.next (h : s.ClosedFor) (hMove : Move s.board t.board)
    (hClosed : s.queue.closed = true → t.queue.closed = true)
    (hFlag : ∀ call, flagSet (t.closers call) = true →
      flagSet (s.closers call) = true ∨ t.queue.closed = true)
    (hTold : ∀ call cond, told (t.closers call) cond = true →
      told (s.closers call) cond = true ∨ ∀ thread, ¬ t.Parked thread cond) : t.ClosedFor where
  closed := by
    intro call hSet
    rcases hFlag call hSet with hOld | hNew
    · exact hClosed (h.closed call hOld)
    · exact hNew
  awake := by
    intro call cond hAfter
    rcases hTold call cond hAfter with hOld | hNew
    · have hBefore := h.closed call (told_flagSet hOld)
      have hReady (queue : FrameQueue) (hQueue : queue.closed = true) : Ready queue cond := by
        cases cond <;> exact Or.inl hQueue
      exact (hMove.stays_quiet (hReady _ (hClosed hBefore)) ⟨hReady _ hBefore, h.awake call cond hOld⟩).2
    · exact hNew

/-- A `Close` call that goes on at `pc`, and the others. -/
theorem update_cases {closers : Nat → CloserPc} {call : Nat} {pc : CloserPc} {P : CloserPc → Prop}
    (other : Nat) (h : P (Function.update closers call pc other)) : P (closers other) ∨ P pc := by
  by_cases hCall : other = call
  · subst hCall
    rw [Function.update_self] at h
    exact Or.inr h
  · rw [Function.update_of_ne hCall] at h
    exact Or.inl h

/-- A step of a `Close` call. -/
theorem ClosedFor.closer {call : Nat} (h : s.ClosedFor) (hStep : CloserMove s call t) : t.ClosedFor := by
  have hMove := hStep.move
  cases hStep with
  | enter =>
      refine h.next hMove id (fun other hFlag => ?_) fun other cond hTold => ?_
      · exact Or.inl ((update_cases (P := fun pc => flagSet pc = true) other hFlag).resolve_right
          (by simp [flagSet]))
      · exact Or.inl ((update_cases (P := fun pc => told pc cond = true) other hTold).resolve_right
          (by simp [told]))
  | close =>
      refine h.next hMove (fun _ => rfl) (fun other _ => Or.inr rfl) fun other cond hTold => ?_
      exact Or.inl ((update_cases (P := fun pc => told pc cond = true) other hTold).resolve_right
        (by simp [told]))
  | leave hPc =>
      have hClosed := h.closed call (by rw [hPc]; rfl)
      refine h.next hMove id (fun other _ => Or.inr hClosed) fun other cond hTold => ?_
      exact Or.inl ((update_cases (P := fun pc => told pc cond = true) other hTold).resolve_right
        (by simp [told]))
  | notifyFull hPc =>
      have hClosed := h.closed call (by rw [hPc]; rfl)
      obtain ⟨pc, hWake, hAwake, -⟩ := s.wakeProducer_eq
      rw [hWake] at hMove ⊢
      refine h.next hMove id (fun other _ => Or.inr hClosed) fun other cond hTold => ?_
      refine (update_cases (P := fun pc => told pc cond = true) other hTold).imp_right fun hNew => ?_
      intro thread
      cases cond with
      | notFull => cases thread <;> simp [Parked, setCloser, hAwake]
      | notEmpty => cases hNew
  | notifyEmpty hPc =>
      have hClosed := h.closed call (by rw [hPc]; rfl)
      have hFull := h.awake call .notFull (by rw [hPc]; rfl)
      obtain ⟨pc, hWake, hAwake, -⟩ := s.wakeConsumer_eq
      rw [hWake] at hMove ⊢
      refine h.next hMove id (fun other _ => Or.inr hClosed) fun other cond _ => ?_
      right
      intro thread
      cases cond with
      | notFull =>
          cases thread with
          | producer => exact hFull .producer
          | consumer | closer => exact id
      | notEmpty => cases thread <;> simp [Parked, setCloser, hAwake]

theorem ClosedFor.step {action : Action} (h : s.ClosedFor) (hStep : s.step action = some t) :
    t.ClosedFor := by
  rcases step_queue hStep with ⟨call, -, hCloser⟩ | ⟨hClosers, hQueue⟩
  · exact h.closer hCloser
  · apply h.next (step_move hStep)
    · intro hClosed
      rcases hQueue with hSame | ⟨critical, hAct⟩
      · rwa [hSame]
      · exact (FrameQueue.act_closed hAct hClosed).1
    · intro call hFlag
      rw [hClosers] at hFlag
      exact Or.inl hFlag
    · intro call cond hTold
      rw [hClosers] at hTold
      exact Or.inl hTold

end Close

/-- Nobody sleeps through what it waits for. -/
structure NoLostWakeUp (s : QueueThreads) : Prop where
  consumer : s.consumer.isParked = true →
    (∀ thread, thread ≠ .consumer → ¬ s.AboutToNotify thread .notEmpty) →
    s.queue.load = 0 ∧ s.queue.closed = false
  producer : s.producer.isParked = true →
    (∀ thread, thread ≠ .producer → ¬ s.AboutToNotify thread .notFull) →
    s.queue.load = s.queue.capacity ∧ s.queue.closed = false
  not_both : s.producer.isParked = true → s.consumer.isParked = true →
    ∃ thread cond, s.AboutToNotify thread cond
  returned : ∀ call, s.closers call = .returned →
    s.producer.isParked = false ∧ s.consumer.isParked = false

/-- The state before any call. -/
def initial (capacity frameSize : Nat) : QueueThreads where
  queue := .new capacity frameSize

theorem settled_initial (capacity frameSize : Nat) :
    Settled (board (initial capacity frameSize)) := by
  intro thread cond hParked
  cases thread <;> cases cond <;> simp [board, Parked, initial, ProducerPc.isParked,
    ConsumerPc.isParked] at hParked

theorem closedFor_initial (capacity frameSize : Nat) : (initial capacity frameSize).ClosedFor where
  closed := by simp [initial, flagSet]
  awake := by simp [initial, told]

open Transition

/-- In every state any interleaving of the calls leads to, no wake-up is lost. -/
theorem no_lost_wake_up {capacity frameSize : Nat} {s : QueueThreads}
    (reachable : Reachable step (initial capacity frameSize) s) : s.NoLostWakeUp := by
  have hSettled : Settled s.board := by
    obtain ⟨log, run⟩ := reachable
    exact settled_of_run board run (settled_initial capacity frameSize) fun _ _ _ => step_move
  have hValid : s.queue.Valid :=
    reachable.invariant (fun s => s.queue.Valid) (FrameQueue.new_valid capacity frameSize)
      fun _ _ _ valid h => valid_step valid h
  have hClosed : s.ClosedFor :=
    reachable.invariant ClosedFor (closedFor_initial capacity frameSize) fun _ _ _ h => h.step
  have hEmpty : s.consumer.isParked = true →
      (∀ thread, thread ≠ .consumer → ¬ s.AboutToNotify thread .notEmpty) →
      s.queue.load = 0 ∧ s.queue.closed = false := by
    intro hParked hNone
    have hNotReady : ¬ Ready s.queue .notEmpty := by
      intro hReady
      obtain ⟨other, hOther, hOwes⟩ := hSettled .consumer .notEmpty hParked hReady
      exact hNone other hOther hOwes
    simpa [Ready, and_comm] using hNotReady
  have hFull : s.producer.isParked = true →
      (∀ thread, thread ≠ .producer → ¬ s.AboutToNotify thread .notFull) →
      s.queue.load = s.queue.capacity ∧ s.queue.closed = false := by
    intro hParked hNone
    have hNotReady : ¬ Ready s.queue .notFull := by
      intro hReady
      obtain ⟨other, hOther, hOwes⟩ := hSettled .producer .notFull hParked hReady
      exact hNone other hOther hOwes
    simp only [Ready, not_or, Bool.not_eq_true, not_lt] at hNotReady
    exact ⟨le_antisymm hValid.load_le hNotReady.2, hNotReady.1⟩
  refine ⟨hEmpty, hFull, fun hProducer hConsumer => ?_, fun call hReturned => ?_⟩
  · by_contra hNone
    push Not at hNone
    obtain ⟨hZero, -⟩ := hEmpty hConsumer fun thread _ => hNone thread .notEmpty
    obtain ⟨hCapacity, -⟩ := hFull hProducer fun thread _ => hNone thread .notFull
    have := hValid.capacity_pos
    omega
  · have hProducer := hClosed.awake call .notFull (by rw [hReturned]; rfl) .producer
    have hConsumer := hClosed.awake call .notEmpty (by rw [hReturned]; rfl) .consumer
    exact ⟨by simpa [Parked] using hProducer, by simpa [Parked] using hConsumer⟩

/-- A producer that has filled a queue of one parks; a consumer takes the frame,
and until it has told the producer so, the wake-up is still to come. -/
theorem no_lost_wake_up_full :
    ∃ s, Reachable step (initial 1 4) s ∧ s.producer.isParked = true ∧ s.consumer = .notifying ∧
      s.queue.load = 0 ∧ s.NoLostWakeUp := by
  obtain ⟨log, s, run, hTest⟩ := exec_witness step (initial 1 4)
    (.callPut ⟨1, []⟩ :: List.replicate 5 (.step .producer) ++
      .callPut ⟨2, []⟩ :: List.replicate 3 (.step .producer) ++
      .callGet false :: List.replicate 3 (.step .consumer))
    (fun _ s => s.producer.isParked && s.consumer == .notifying && s.queue.load == 0) (by decide)
  simp only [Bool.and_eq_true, beq_iff_eq] at hTest
  exact ⟨s, ⟨log, run⟩, hTest.1.1, hTest.1.2, hTest.2, no_lost_wake_up ⟨log, run⟩⟩

end WinDV.QueueThreads
