import WinDV.Core.WideString
import WinDV.Library.Separated

/-! The playlist of `CAVIJoiner`: its constructor splits the list of files at the
bars, trims each part, and looks up what is left of it. -/
namespace WinDV

/-- The characters of `L" \t\r\n"`. -/
def isBlank (c : WChar) : Bool :=
  c == wchar ' ' || c == wchar '\t' || c == wchar '\r' || c == wchar '\n'

/-- `Trim`. -/
def trim (text : WString) : WString :=
  match text.findIdx? (fun c => !isBlank c), findLastOf (fun c => !isBlank c) text with
  | some first, some last => (text.drop first).take (last - first + 1)
  | _, _ => []

/-- `FoundFile`. -/
structure FoundFile where
  path : WString
  isDirectory : Bool := false
  deriving DecidableEq, Repr

/-- `_wcsicmp(a, b) < 0`. -/
def wcsicmpLess (cf : CaseFold) (a b : WString) : Bool := decide (a.map cf.fold < b.map cf.fold)

/-- What one pattern adds to the playlist. -/
def addPattern (cf : CaseFold) (findFiles : WString → List FoundFile) (filenames : List WString)
    (pattern : WString) : Except WString (List WString) :=
  if (findFiles pattern).isEmpty then .error (pattern ++ wide ": file not found")
  else
    let found := ((findFiles pattern).filter (!·.isDirectory)).map (·.path)
    .ok (filenames ++ found.mergeSort fun a b => !wcsicmpLess cf b a)

/-- `find(L'|', start)`, or the end of the text. -/
def findBar (text : WString) (start : Nat) : Nat :=
  match (text.drop start).findIdx? (· == wchar '|') with
  | some i => start + i
  | none => text.length

theorem le_findBar {text : WString} {start : Nat} (h : start ≤ text.length) : start ≤ findBar text start := by
  unfold findBar
  split
  · exact Nat.le_add_right _ _
  · exact h

/-- The loop of the constructor, from `start` on. -/
def addPatterns (cf : CaseFold) (findFiles : WString → List FoundFile) (text : WString) (start : Nat)
    (filenames : List WString) : Except WString (List WString) :=
  if _h : start ≤ text.length then
    let stop := findBar text start
    let pattern := trim ((text.drop start).take (stop - start))
    if pattern.isEmpty then addPatterns cf findFiles text (stop + 1) filenames
    else
      match addPattern cf findFiles filenames pattern with
      | .error message => .error message
      | .ok filenames => addPatterns cf findFiles text (stop + 1) filenames
  else .ok filenames
termination_by text.length + 1 - start
decreasing_by
  all_goals
    have := le_findBar _h
    omega

/-- `m_filenames` after the constructor, which then opens the first. -/
def aviJoinerFilenames (cf : CaseFold) (findFiles : WString → List FoundFile) (text : WString) :
    Except WString (List WString) :=
  match addPatterns cf findFiles text 0 [] with
  | .error message => .error message
  | .ok filenames => if filenames.isEmpty then .error (wide "No file selected") else .ok filenames

/-- The patterns in a list of files: its parts between the bars, trimmed, without
the empty ones. -/
def patterns (text : WString) : List WString := Separated.fields (wchar '|') isBlank text

section Trim

theorem findIdx_none {test : WChar → Bool} {text : WString} (h : text.findIdx? test = none) :
    text.dropWhile (fun c => !test c) = [] := by
  rw [List.findIdx?_eq_none_iff] at h
  rw [List.dropWhile_eq_nil_iff]
  intro c hc
  simp [h c hc]

theorem findIdx_some {test : WChar → Bool} {text : WString} {first : Nat}
    (h : text.findIdx? test = some first) :
    text.dropWhile (fun c => !test c) = text.drop first := by
  induction text generalizing first with
  | nil => cases h
  | cons c rest ih =>
      rw [List.findIdx?_cons] at h
      split_ifs at h with hTest
      · obtain rfl := Option.some.inj h
        simp [hTest]
      · obtain ⟨i, hRest, rfl⟩ := Option.map_eq_some_iff.mp h
        rw [List.dropWhile_cons_of_pos (by simp [hTest]), ih hRest, List.drop_succ_cons]

/-- Behind the last such character there is nothing of the kind. -/
theorem findLastOf_some {test : WChar → Bool} {text : WString} {last : Nat}
    (h : findLastOf test text = some last) :
    text.rdropWhile (fun c => !test c) = text.take (last + 1) := by
  induction text generalizing last with
  | nil => cases h
  | cons c rest ih =>
      rw [findLastOf] at h
      rw [List.rdropWhile, List.reverse_cons, List.dropWhile_append]
      cases hRest : findLastOf test rest with
      | some i =>
          rw [hRest] at h
          obtain rfl := Option.some.inj h
          have hTail := ih hRest
          have hPos : 0 < rest.length := Nat.zero_lt_of_lt (findLastOf_lt hRest)
          have hSome : (rest.reverse.dropWhile fun c => !test c) ≠ [] := by
            intro hNil
            rw [List.rdropWhile, hNil, List.reverse_nil] at hTail
            have hLength := congrArg List.length hTail
            rw [List.length_take, List.length_nil] at hLength
            omega
          rw [if_neg (by simpa using hSome), List.reverse_append, ← List.rdropWhile, hTail]
          rfl
      | none =>
          rw [hRest] at h
          have hNone := forall_of_findLastOf_none hRest
          have hNil : (rest.reverse.dropWhile fun c => !test c) = [] := by
            rw [List.dropWhile_eq_nil_iff]
            intro d hd
            simp [hNone d (List.mem_reverse.mp hd)]
          split_ifs at h with hTest
          obtain rfl := Option.some.inj h
          simp [hNil, hTest]

/-- The last such character, counted from the first. -/
theorem findLastOf_of_findIdx {test : WChar → Bool} {text : WString} {first : Nat}
    (h : text.findIdx? test = some first) :
    ∃ k, findLastOf test text = some (first + k) ∧ findLastOf test (text.drop first) = some k := by
  induction text generalizing first with
  | nil => cases h
  | cons c rest ih =>
      rw [List.findIdx?_cons] at h
      split_ifs at h with hTest
      · obtain rfl := Option.some.inj h
        cases hRest : findLastOf test rest with
        | none => exact ⟨0, by simp [findLastOf, hRest, hTest], by simp [findLastOf, hRest, hTest]⟩
        | some i => exact ⟨i + 1, by simp [findLastOf, hRest], by simp [findLastOf, hRest]⟩
      · obtain ⟨i, hRest, rfl⟩ := Option.map_eq_some_iff.mp h
        obtain ⟨k, hLast, hDrop⟩ := ih hRest
        refine ⟨k, ?_, hDrop⟩
        rw [findLastOf, hLast]
        show some (i + k + 1) = some (i + 1 + k)
        rw [Nat.add_right_comm]

/-- `Trim` takes the blanks off both ends. -/
theorem trim_eq (text : WString) : trim text = Separated.trim isBlank text := by
  have hNot : (fun c => !!isBlank c) = isBlank := by
    funext c
    exact Bool.not_not _
  rw [trim, Separated.trim]
  cases hFirst : text.findIdx? (fun c => !isBlank c) with
  | none =>
      have hNone := findIdx_none hFirst
      rw [hNot] at hNone
      rw [hNone]
      rfl
  | some first =>
      obtain ⟨k, hLast, hDrop⟩ := findLastOf_of_findIdx hFirst
      have hFront := findIdx_some hFirst
      have hBack := findLastOf_some hDrop
      rw [hNot] at hFront hBack
      rw [hLast, hFront, hBack]
      show (text.drop first).take (first + k - first + 1) = _
      rw [Nat.add_sub_cancel_left]

end Trim

/-- The patterns still to come when the loop is at `start`. -/
def patternsFrom (text : WString) (start : Nat) : List WString :=
  if start ≤ text.length then patterns (text.drop start) else []

/-- One turn of the loop: the part up to the next bar, and the patterns behind it. -/
theorem patternsFrom_step {text : WString} {start : Nat} (h : start ≤ text.length) :
    patternsFrom text start =
      [trim ((text.drop start).take (findBar text start - start))].filter (· ≠ []) ++
        patternsFrom text (findBar text start + 1) := by
  rw [patternsFrom, if_pos h, findBar]
  cases hBar : (text.drop start).findIdx? (· == wchar '|') with
  | none =>
      have hNoBar : wchar '|' ∉ text.drop start := fun hMem => by
        have := List.findIdx?_eq_none_iff.mp hBar _ hMem
        simp at this
      have hAll : (text.drop start).take (text.length - start) = text.drop start :=
        List.take_of_length_le (by rw [List.length_drop])
      rw [patterns, Separated.fields_single hNoBar]
      show _ = [trim ((text.drop start).take (text.length - start))].filter (· ≠ []) ++
        patternsFrom text (text.length + 1)
      rw [patternsFrom, if_neg (by omega), hAll, trim_eq, List.append_nil]
  | some i =>
      obtain ⟨hLt, hIs, hBefore⟩ := List.findIdx?_eq_some_iff_getElem.mp hBar
      have hNoBar : wchar '|' ∉ (text.drop start).take i := fun hMem => by
        obtain ⟨j, hj, hEq⟩ := List.getElem_of_mem hMem
        rw [List.length_take] at hj
        have hNot := hBefore j (by omega)
        rw [List.getElem_take] at hEq
        simp [hEq] at hNot
      have hCut : text.drop start =
          (text.drop start).take i ++ wchar '|' :: text.drop (start + i + 1) := by
        conv_lhs => rw [← List.take_append_drop i (text.drop start), List.drop_eq_getElem_cons hLt]
        rw [eq_of_beq hIs, List.drop_drop, Nat.add_assoc]
      have hNext : start + i + 1 ≤ text.length := by
        rw [List.length_drop] at hLt
        omega
      show _ = [trim ((text.drop start).take (start + i - start))].filter (· ≠ []) ++
        patternsFrom text (start + i + 1)
      rw [patternsFrom, if_pos hNext, Nat.add_sub_cancel_left, trim_eq, patterns, patterns]
      conv_lhs => rw [hCut]
      rw [Separated.fields_append_sep, Separated.fields_single hNoBar]

section Loop

variable (cf : CaseFold) (findFiles : WString → List FoundFile)

/-- The loop looks up the patterns that are still to come, in order, until one
of them matches nothing. -/
theorem addPatterns_eq (text : WString) (start : Nat) (filenames : List WString) :
    addPatterns cf findFiles text start filenames =
      (patternsFrom text start).foldlM (addPattern cf findFiles) filenames := by
  fun_induction addPatterns cf findFiles text start filenames with
  | case1 start filenames h stop pattern hEmpty ih =>
      have hNone : pattern = [] := List.isEmpty_iff.mp hEmpty
      rw [ih, patternsFrom_step h]
      show _ = ([pattern].filter (· ≠ []) ++ patternsFrom text (stop + 1)).foldlM _ _
      simp [hNone]
  | case2 start filenames h stop pattern hEmpty message hAdd =>
      have hSome : pattern ≠ [] := fun hNone => hEmpty (List.isEmpty_iff.mpr hNone)
      rw [patternsFrom_step h]
      show _ = ([pattern].filter (· ≠ []) ++ patternsFrom text (stop + 1)).foldlM _ _
      simp only [List.filter_cons, hSome, ne_eq, not_false_eq_true, decide_true, if_true,
        List.filter_nil, List.singleton_append, List.foldlM_cons, hAdd]
      rfl
  | case3 start filenames h stop pattern hEmpty next hAdd ih =>
      have hSome : pattern ≠ [] := fun hNone => hEmpty (List.isEmpty_iff.mpr hNone)
      rw [ih, patternsFrom_step h]
      show _ = ([pattern].filter (· ≠ []) ++ patternsFrom text (stop + 1)).foldlM _ _
      simp only [List.filter_cons, hSome, ne_eq, not_false_eq_true, decide_true, if_true,
        List.filter_nil, List.singleton_append, List.foldlM_cons, hAdd]
      rfl
  | case4 start filenames h =>
      rw [patternsFrom, if_neg h]
      rfl

/-- The loop looks up the patterns of its text, in order. -/
theorem addPatterns_all (text : WString) :
    addPatterns cf findFiles text 0 [] = (patterns text).foldlM (addPattern cf findFiles) [] := by
  rw [addPatterns_eq, patternsFrom, if_pos (Nat.zero_le _), List.drop_zero]

/-- The constructor does so, and wants a file. -/
theorem aviJoinerFilenames_eq_ok {text : WString} {filenames : List WString} :
    aviJoinerFilenames cf findFiles text = .ok filenames ↔
      filenames ≠ [] ∧ (patterns text).foldlM (addPattern cf findFiles) [] = .ok filenames := by
  rw [aviJoinerFilenames, addPatterns_all]
  cases (patterns text).foldlM (addPattern cf findFiles) [] with
  | error message => exact ⟨nofun, fun h => nomatch h.2⟩
  | ok found =>
      dsimp only
      split_ifs with hEmpty
      · rw [List.isEmpty_iff] at hEmpty
        subst hEmpty
        exact ⟨nofun, fun h => absurd (Except.ok.inj h.2).symm h.1⟩
      · rw [List.isEmpty_iff] at hEmpty
        constructor
        · rintro hSame
          cases hSame
          exact ⟨hEmpty, rfl⟩
        · exact fun h => h.2

end Loop

end WinDV
