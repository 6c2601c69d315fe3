import Mathlib.Data.List.Induction
import Mathlib.Data.List.Nodup
import Mathlib.Tactic.Common

/-! Lists of what was used before, most recent first: without what is in use now, each
entry once, and cut to a limit at every use. The cut loses nothing that would not have
been cut at the end. -/
namespace RecentlyUsed

universe u

variable {α : Type u}

section EraseDups

variable [BEq α] [LawfulBEq α]

/-- A filter and the removal of repetitions change places. -/
theorem filter_eraseDups (test : α → Bool) (l : List α) :
    l.eraseDups.filter test = (l.filter test).eraseDups := by
  induction hLength : l.length using Nat.strongRecOn generalizing l with
  | ind n ih =>
      cases l with
      | nil => rfl
      | cons a rest =>
          have hShort : (rest.filter fun b => !b == a).length < n := by
            have := List.length_filter_le (fun b => !b == a) rest
            rw [List.length_cons] at hLength
            omega
          have hRest := ih _ hShort (rest.filter fun b => !b == a) rfl
          rw [List.eraseDups_cons]
          cases hTest : test a with
          | true =>
              rw [List.filter_cons_of_pos hTest, List.filter_cons_of_pos hTest, List.eraseDups_cons, hRest,
                List.filter_filter, List.filter_filter]
              simp only [Bool.and_comm]
          | false =>
              rw [List.filter_cons_of_neg (by simp [hTest]), List.filter_cons_of_neg (by simp [hTest]), hRest,
                List.filter_filter]
              congr 1
              apply List.filter_congr
              intro b hb
              cases hb : test b with
              | false => rfl
              | true =>
                  have hOther : b ≠ a := by
                    rintro rfl
                    simp [hTest] at hb
                  simp [hOther]

theorem nodup_eraseDups (l : List α) : l.eraseDups.Nodup := by
  induction hLength : l.length using Nat.strongRecOn generalizing l with
  | ind n ih =>
      cases l with
      | nil => exact List.nodup_nil
      | cons a rest =>
          have hShort : (rest.filter fun b => !b == a).length < n := by
            have := List.length_filter_le (fun b => !b == a) rest
            rw [List.length_cons] at hLength
            omega
          rw [List.eraseDups_cons, List.nodup_cons]
          refine ⟨?_, ih _ hShort _ rfl⟩
          rw [List.mem_eraseDups, List.mem_filter]
          simp

theorem eraseDups_of_nodup {l : List α} (h : l.Nodup) : l.eraseDups = l := by
  induction l with
  | nil => rfl
  | cons a rest ih =>
      obtain ⟨hNot, hRest⟩ := List.nodup_cons.mp h
      have hAll : (rest.filter fun b => !b == a) = rest := by
        apply List.filter_eq_self.mpr
        intro b hb
        have hOther : b ≠ a := by
          rintro rfl
          exact hNot hb
        simp [hOther]
      rw [List.eraseDups_cons, hAll, ih hRest]

end EraseDups

/-- Taking one entry out of a list without repetitions moves at most one up. -/
theorem take_filter_take [DecidableEq α] {l : List α} (h : l.Nodup) (a : α) (limit : Nat) :
    ((l.take (limit + 1)).filter (· ≠ a)).take limit = (l.filter (· ≠ a)).take limit := by
  induction l generalizing limit with
  | nil => rfl
  | cons b rest ih =>
      obtain ⟨hNot, hRest⟩ := List.nodup_cons.mp h
      rw [List.take_succ_cons]
      by_cases hSame : b = a
      · subst hSame
        have hNone : ∀ l : List α, b ∉ l → l.filter (· ≠ b) = l := by
          intro l hl
          apply List.filter_eq_self.mpr
          intro c hc
          have hOther : c ≠ b := by
            rintro rfl
            exact hl hc
          simpa using hOther
        rw [List.filter_cons_of_neg (by simp), List.filter_cons_of_neg (by simp), hNone rest hNot,
          hNone _ fun hIn => hNot (List.mem_of_mem_take hIn), List.take_take, Nat.min_self]
      · rw [List.filter_cons_of_pos (by simpa using hSame), List.filter_cons_of_pos (by simpa using hSame)]
        cases limit with
        | zero => rfl
        | succ limit => rw [List.take_succ_cons, List.take_succ_cons, ih hRest limit]

/-- What is in use, and what was used before. -/
structure Memory (α : Type u) where
  current : α
  history : List α
  deriving DecidableEq, Repr

variable [BEq α] [DecidableEq α] (usable : α → Bool)

/-- The list of what was used before something else comes into use, without a limit. -/
def past (used : List α) (next : α) : List α := (used.filter fun a => usable a && a ≠ next).eraseDups

/-- Something else comes into use. -/
def Memory.use (limit : Nat) (memory : Memory α) (next : α) : Memory α where
  current := next
  history := (past usable (memory.current :: memory.history) next).take limit

/-- One use after the other. -/
def Memory.useAll (limit : Nat) (memory : Memory α) : List α → Memory α
  | [] => memory
  | next :: rest => (memory.use usable limit next).useAll limit rest

variable {usable}

theorem Memory.useAll_append {limit : Nat} (memory : Memory α) (first second : List α) :
    memory.useAll usable limit (first ++ second) =
      (memory.useAll usable limit first).useAll usable limit second := by
  induction first generalizing memory with
  | nil => rfl
  | cons next rest ih => exact ih _

theorem Memory.useAll_concat {limit : Nat} (memory : Memory α) (nexts : List α) (last : α) :
    memory.useAll usable limit (nexts ++ [last]) = (memory.useAll usable limit nexts).use usable limit last :=
  memory.useAll_append nexts [last]

theorem Memory.useAll_current {limit : Nat} (memory : Memory α) (nexts : List α) (last : α) :
    (memory.useAll usable limit (nexts ++ [last])).current = last := by
  rw [useAll_concat]
  rfl

/-- What was in use is kept, if anything is. -/
theorem Memory.mem_use (memory : Memory α) {next : α} (hUsable : usable memory.current = true)
    (hOther : memory.current ≠ next) (limit : Nat) :
    memory.current ∈ (memory.use usable (limit + 1) next).history := by
  rw [use, past, List.filter_cons_of_pos (by simp [hUsable, hOther]), List.eraseDups_cons,
    List.take_succ_cons]
  exact List.mem_cons_self

variable [LawfulBEq α]

theorem past_nodup (used : List α) (next : α) : (past usable used next).Nodup := nodup_eraseDups _

theorem mem_past {used : List α} {next a : α} :
    a ∈ past usable used next ↔ a ∈ used ∧ usable a = true ∧ a ≠ next := by
  rw [past, List.mem_eraseDups, List.mem_filter]
  simp

/-- A list that is one of what was used before already stays as it is. -/
theorem past_self {l : List α} {current : α} (hNodup : l.Nodup)
    (hAll : ∀ a ∈ l, usable a = true ∧ a ≠ current) : past usable l current = l := by
  have hFilter : (l.filter fun a => usable a && a ≠ current) = l := by
    apply List.filter_eq_self.mpr
    intro a ha
    simpa using hAll a ha
  rw [past, hFilter, eraseDups_of_nodup hNodup]

/-- What was in use moves to the front, and what comes into use is taken out. -/
theorem past_cons (used : List α) (current next : α) :
    past usable (current :: used) next =
      (if usable current && current ≠ next then [current] else []) ++
        (past usable used current).filter (· ≠ next) := by
  rw [past, past, filter_eraseDups, List.filter_filter, List.filter_cons]
  have hSame : (usable current && decide (current ≠ next)) = false →
      (used.filter fun a => usable a && decide (a ≠ next)) =
        used.filter fun a => decide (a ≠ next) && (usable a && decide (a ≠ current)) := by
    intro hOut
    apply List.filter_congr
    intro a ha
    by_cases hCurrent : a = current
    · subst hCurrent
      simp only [ne_eq, not_true_eq_false, decide_false, Bool.and_false]
      exact hOut
    · simp [hCurrent, Bool.and_comm]
  cases hIn : (usable current && decide (current ≠ next)) with
  | true =>
      rw [if_pos rfl, if_pos rfl, List.eraseDups_cons, List.filter_filter, List.singleton_append]
      congr 2
      apply List.filter_congr
      intro a ha
      by_cases hCurrent : a = current
      · simp [hCurrent]
      · simp [hCurrent, Bool.and_comm]
  | false => rw [if_neg Bool.false_ne_true, if_neg Bool.false_ne_true, hSame hIn, List.nil_append]

section Use

variable {limit : Nat} {memory : Memory α} {used : List α}

/-- The history is the beginning of everything used before. -/
theorem Memory.use_prefix (h : memory.history <+: past usable used memory.current) (next : α) :
    (memory.use usable limit next).history <+: past usable (memory.current :: used) next := by
  have hSelf : past usable memory.history memory.current = memory.history := by
    apply past_self ((past_nodup used memory.current).sublist h.sublist)
    intro a ha
    exact (mem_past.mp (h.subset ha)).2
  have hFilter : memory.history.filter (· ≠ next) <+:
      (past usable used memory.current).filter (· ≠ next) := h.filter _
  apply (List.take_prefix _ _).trans
  rw [past_cons, past_cons, hSelf]
  exact (List.prefix_append_right_inj _).mpr hFilter

/-- The cut at every use takes nothing that the cut at the end would have left. -/
theorem Memory.use_take (h : memory.history = (past usable used memory.current).take limit)
    (hUsable : usable memory.current = true) (next : α) :
    (memory.use usable limit next).history = (past usable (memory.current :: used) next).take limit := by
  have hNodup : (past usable used memory.current).Nodup := past_nodup used memory.current
  have hSelf : past usable memory.history memory.current = memory.history := by
    rw [h]
    apply past_self (hNodup.sublist (List.take_sublist _ _))
    intro a ha
    exact (mem_past.mp (List.mem_of_mem_take ha)).2
  show (past usable (memory.current :: memory.history) next).take limit = _
  rw [past_cons, past_cons, hSelf, hUsable, h]
  by_cases hSame : memory.current = next
  · have hNone : ∀ l : List α, (∀ a ∈ l, a ∈ past usable used memory.current) →
        l.filter (· ≠ next) = l := by
      intro l hl
      apply List.filter_eq_self.mpr
      intro a ha
      simpa [hSame] using (mem_past.mp (hl a ha)).2.2
    rw [hNone _ fun a ha => List.mem_of_mem_take ha, hNone _ fun _ => id]
    simp [hSame, List.take_take]
  · cases limit with
    | zero => rfl
    | succ limit =>
        simp only [hSame, ne_eq, not_false_eq_true, decide_true, Bool.and_self, if_true,
          List.singleton_append, List.take_succ_cons]
        exact congrArg _ (take_filter_take hNodup next limit)

end Use

section UseAll

variable {limit : Nat}

/-- Whatever was used, the history is the beginning of it, most recent first. -/
theorem Memory.useAll_prefix (memory : Memory α) (nexts : List α) (last : α) :
    (memory.useAll usable limit (nexts ++ [last])).history <+:
      past usable (nexts.reverse ++ memory.current :: memory.history) last := by
  induction nexts using List.reverseRecOn generalizing last with
  | nil => exact List.take_prefix _ _
  | append_singleton nexts previous ih =>
      rw [useAll_concat, List.reverse_append]
      have hCurrent : (memory.useAll usable limit (nexts ++ [previous])).current = previous :=
        useAll_current memory nexts previous
      have hPrevious : (memory.useAll usable limit (nexts ++ [previous])).history <+:
          past usable (nexts.reverse ++ memory.current :: memory.history)
            (memory.useAll usable limit (nexts ++ [previous])).current := by
        rw [hCurrent]
        exact ih previous
      have hNext : ((memory.useAll usable limit (nexts ++ [previous])).use usable limit last).history <+: _ :=
        Memory.use_prefix hPrevious last
      rw [hCurrent] at hNext
      exact hNext

/-- As long as what comes into use is kept at all, the history is all of it up to the limit. -/
theorem Memory.useAll_take (memory : Memory α) (nexts : List α) (last : α)
    (hUsable : ∀ next ∈ nexts, usable next = true) :
    (memory.useAll usable limit (nexts ++ [last])).history =
      (past usable (nexts.reverse ++ memory.current :: memory.history) last).take limit := by
  induction nexts using List.reverseRecOn generalizing last with
  | nil => rfl
  | append_singleton nexts previous ih =>
      rw [useAll_concat, List.reverse_append]
      have hCurrent : (memory.useAll usable limit (nexts ++ [previous])).current = previous :=
        useAll_current memory nexts previous
      have hUsed : usable (memory.useAll usable limit (nexts ++ [previous])).current = true := by
        rw [hCurrent]
        exact hUsable previous (List.mem_append_right _ List.mem_cons_self)
      have hPrevious : (memory.useAll usable limit (nexts ++ [previous])).history =
          (past usable (nexts.reverse ++ memory.current :: memory.history)
            (memory.useAll usable limit (nexts ++ [previous])).current).take limit := by
        rw [hCurrent]
        exact ih previous fun next hNext => hUsable next (List.mem_append_left _ hNext)
      have hNext := Memory.use_take hPrevious hUsed last
      rw [hCurrent] at hNext
      exact hNext

end UseAll

end RecentlyUsed
