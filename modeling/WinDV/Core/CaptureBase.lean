import WinDV.Core.CaptureApart
import WinDV.Core.CaptureGuards
import Mathlib.Data.List.TakeWhile

/-! The base of a series of captures, found again in a file name. A path is its
directory part and a file name without separators; its base is the directory part
and the file name up to its first dot. What is put behind a base, a date, a number
or the extension, begins with a dot. -/
namespace WinDV

/-- A path begins with its directory part. -/
theorem captureDirectory_append_fileNamePart (path : WString) :
    captureDirectory path ++ fileNamePart path = path := by
  rw [captureDirectory, fileNamePart]
  cases findLastOf isSeparator path with
  | none => rfl
  | some pos => exact List.take_append_drop _ _

/-- What is behind the last separator of a path has none. -/
theorem fileNamePart_no_separator (path : WString) : ∀ c ∈ fileNamePart path, isSeparator c = false := by
  induction path with
  | nil => simp [fileNamePart, findLastOf]
  | cons c rest ih =>
      rw [fileNamePart, findLastOf]
      rw [fileNamePart] at ih
      cases hRest : findLastOf isSeparator rest with
      | some last =>
          rw [hRest] at ih
          simpa using ih
      | none =>
          have hNone := forall_of_findLastOf_none hRest
          by_cases hSep : isSeparator c = true
          · simpa [hSep] using hNone
          · simpa [hSep] using hNone

/-- A suffix of the file name stays behind the directory part. -/
theorem captureDirectory_append (stem : WString) {suffix : WString}
    (h : ∀ c ∈ suffix, isSeparator c = false) :
    captureDirectory (stem ++ suffix) = captureDirectory stem := by
  rw [captureDirectory, captureDirectory, findLastOf_append stem h]
  cases hPos : findLastOf isSeparator stem with
  | none => rfl
  | some pos =>
      have := findLastOf_lt hPos
      exact List.take_append_of_le_length (by omega)

/-- A directory part is its own. -/
theorem captureDirectory_idem (path : WString) :
    captureDirectory (captureDirectory path) = captureDirectory path := by
  have hPath := captureDirectory_append (captureDirectory path) (fileNamePart_no_separator path)
  rw [captureDirectory_append_fileNamePart] at hPath
  exact hPath.symm

/-- The file name behind a directory part is what was put there. -/
theorem fileNamePart_of_directory (path : WString) {name : WString}
    (h : ∀ c ∈ name, isSeparator c = false) : fileNamePart (captureDirectory path ++ name) = name := by
  have hParts := captureDirectory_append_fileNamePart (captureDirectory path ++ name)
  rw [captureDirectory_append _ h, captureDirectory_idem] at hParts
  exact List.append_cancel_left hParts

/-- A file name without its dots, as `CaptureBaseFromFilename` cuts it. -/
def beforeDot (name : WString) : WString := name.takeWhile (· != wchar '.')

theorem beforeDot_of_notMem {name : WString} (h : wchar '.' ∉ name) : beforeDot name = name := by
  apply List.takeWhile_eq_self_iff.mpr
  intro c hc
  rw [bne_iff_ne]
  rintro rfl
  exact h hc

/-- What is behind a dot does not count. -/
theorem beforeDot_append (name rest : WString) : beforeDot (name ++ wchar '.' :: rest) = beforeDot name := by
  induction name with
  | nil => rfl
  | cons c name ih =>
      rw [beforeDot, beforeDot, List.cons_append, List.takeWhile_cons, List.takeWhile_cons]
      split_ifs with hDot
      · exact congrArg (c :: ·) ih
      · rfl

theorem dot_notMem_beforeDot (name : WString) : wchar '.' ∉ beforeDot name := by
  intro hMem
  simpa using List.mem_takeWhile_imp hMem

theorem beforeDot_subset (name : WString) : beforeDot name ⊆ name := (List.takeWhile_prefix _).subset

/-- A cut at the first dot behind the directory part. -/
theorem take_first_dot (directory name : WString) :
    (name.findIdx? (· == wchar '.')).elim (directory ++ name)
      (fun dot => (directory ++ name).take (directory.length + dot)) = directory ++ beforeDot name := by
  by_cases hDot : wchar '.' ∈ name
  · obtain ⟨front, rest, rfl, hFront⟩ := List.eq_append_cons_of_mem hDot
    rw [find_append hFront, beforeDot_append, beforeDot_of_notMem hFront, Option.elim_some,
      List.take_length_add_append, List.take_left' rfl]
  · rw [find_none hDot, beforeDot_of_notMem hDot, Option.elim_none]

/-- The two searches of `CaptureBaseFromFilename`: its dot is behind its separator. -/
theorem captureBaseFromFilename_eq (file : WString) :
    captureBaseFromFilename file = captureDirectory file ++ beforeDot (fileNamePart file) := by
  rw [captureBaseFromFilename, captureDirectory, fileNamePart]
  cases hPos : findLastOf isSeparator file with
  | none =>
      have hCut := take_first_dot [] file
      cases hDot : file.findIdx? (· == wchar '.') <;> simpa [hDot] using hCut
  | some pos =>
      have hCut := take_first_dot (file.take (pos + 1)) (file.drop (pos + 1))
      have hLength : (file.take (pos + 1)).length = pos + 1 := by
        rw [List.length_take]
        exact Nat.min_eq_left (findLastOf_lt hPos)
      rw [List.take_append_drop, hLength] at hCut
      cases hDot : (file.drop (pos + 1)).findIdx? (· == wchar '.') <;>
        simpa only [hDot, Option.elim_none, Option.elim_some] using hCut

/-- A base is in the folder of the file it was found in. -/
theorem captureDirectory_captureBase (file : WString) :
    captureDirectory (captureBaseFromFilename file) = captureDirectory file := by
  have hName : ∀ c ∈ beforeDot (fileNamePart file), isSeparator c = false := fun c hc =>
    fileNamePart_no_separator file c (beforeDot_subset _ hc)
  rw [captureBaseFromFilename_eq, captureDirectory_append _ hName, captureDirectory_idem]

theorem fileNamePart_captureBase (file : WString) :
    fileNamePart (captureBaseFromFilename file) = beforeDot (fileNamePart file) := by
  rw [captureBaseFromFilename_eq]
  apply fileNamePart_of_directory
  intro c hc
  exact fileNamePart_no_separator file c (beforeDot_subset _ hc)

/-- The bases are the paths whose file name has no dot. -/
theorem captureBase_eq_self_iff (path : WString) :
    captureBaseFromFilename path = path ↔ wchar '.' ∉ fileNamePart path := by
  constructor
  · intro h
    rw [← h, fileNamePart_captureBase]
    exact dot_notMem_beforeDot _
  · intro h
    rw [captureBaseFromFilename_eq, beforeDot_of_notMem h, captureDirectory_append_fileNamePart]

/-- A base is its own base. -/
theorem captureBase_idem (file : WString) :
    captureBaseFromFilename (captureBaseFromFilename file) = captureBaseFromFilename file := by
  rw [captureBase_eq_self_iff, fileNamePart_captureBase]
  exact dot_notMem_beforeDot _

/-- A dot and more behind a path does not change its base. -/
theorem captureBase_append (path : WString) {rest : WString}
    (h : ∀ c ∈ wchar '.' :: rest, isSeparator c = false) :
    captureBaseFromFilename (path ++ wchar '.' :: rest) = captureBaseFromFilename path := by
  rw [captureBaseFromFilename_eq, captureDirectory_append path h, fileNamePart_append path h,
    beforeDot_append, captureBaseFromFilename_eq]

/-- A date, if there is one, is put behind a dot. -/
theorem captureStem_dot (base : WString) {date : WString} (h : date ≠ []) :
    captureStem base date = base ++ wchar '.' :: date := by
  rw [captureStem, if_neg (by simpa using h), wide_dot, List.append_assoc]
  rfl

theorem dot_no_separator {rest : WString} (h : ∀ c ∈ rest, isSeparator c = false) :
    ∀ c ∈ wchar '.' :: rest, isSeparator c = false := by
  intro c hc
  rcases List.mem_cons.mp hc with rfl | hRest
  · rfl
  · exact h c hRest

section Stem

variable (base : WString) {date : WString} (hDate : ∀ c ∈ date, isSeparator c = false)

include hDate

/-- Neither does a date. -/
theorem captureBase_captureStem :
    captureBaseFromFilename (captureStem base date) = captureBaseFromFilename base := by
  by_cases hEmpty : date = []
  · subst hEmpty
    rfl
  · rw [captureStem_dot base hEmpty]
    exact captureBase_append base (dot_no_separator hDate)

theorem captureDirectory_captureStem :
    captureDirectory (captureStem base date) = captureDirectory base := by
  by_cases hEmpty : date = []
  · subst hEmpty
    rfl
  · rw [captureStem_dot base hEmpty]
    exact captureDirectory_append base (dot_no_separator hDate)

end Stem

/-- Every chosen name is its stem, a dot and more, all in one file name. -/
theorem nextCaptureFilename_dot (cf : CaseFold) (stem : WString) {ndigits : Nat}
    (hDigits : ndigits ≤ kMaxDigits) (existingNames : List WString) :
    ∃ rest, nextCaptureFilename cf stem ndigits existingNames = stem ++ wchar '.' :: rest ∧
      ∀ c ∈ wchar '.' :: rest, isSeparator c = false := by
  rcases nextCaptureFilename_forms cf stem hDigits existingNames with
    ⟨-, hName⟩ | ⟨digits, hDecimal, -, hName⟩
  · exact ⟨wide "avi", hName, kExtension_no_separator⟩
  · refine ⟨digits ++ kExtension, ?_, ?_⟩
    · rw [hName, wide_dot]
      simp
    · simpa using decimal_no_separator hDecimal

/-- A chosen name stays in the directory of its stem. -/
theorem captureDirectory_next (cf : CaseFold) (stem : WString) {ndigits : Nat}
    (hDigits : ndigits ≤ kMaxDigits) (existingNames : List WString) :
    captureDirectory (nextCaptureFilename cf stem ndigits existingNames) = captureDirectory stem := by
  obtain ⟨rest, hName, hRest⟩ := nextCaptureFilename_dot cf stem hDigits existingNames
  rw [hName, captureDirectory_append stem hRest]

/-- A file of a series gives back the base of the series, and the series that goes
on from it stays in the folder of the file. -/
theorem captureBase_of_next (cf : CaseFold) (file : WString) {date : WString}
    (hDate : ∀ c ∈ date, isSeparator c = false) {ndigits : Nat} (hDigits : ndigits ≤ kMaxDigits)
    (existingNames : List WString) :
    let base := captureBaseFromFilename file
    let next := nextCaptureFilename cf (captureStem base date) ndigits existingNames
    captureBaseFromFilename next = base ∧ captureDirectory base = captureDirectory file ∧
      captureDirectory next = captureDirectory file := by
  intro base next
  have hFolder : captureDirectory base = captureDirectory file := captureDirectory_captureBase file
  obtain ⟨rest, hNext, hRest⟩ := nextCaptureFilename_dot cf (captureStem base date) hDigits existingNames
  have hBase : captureBaseFromFilename next = base := by
    calc captureBaseFromFilename next
        = captureBaseFromFilename (captureStem base date ++ wchar '.' :: rest) := congrArg _ hNext
      _ = captureBaseFromFilename (captureStem base date) := captureBase_append _ hRest
      _ = captureBaseFromFilename base := captureBase_captureStem base hDate
      _ = base := captureBase_idem file
  refine ⟨hBase, hFolder, ?_⟩
  show captureDirectory next = captureDirectory file
  rw [captureDirectory_next cf _ hDigits, captureDirectory_captureStem base hDate, hFolder]

/-- A numbered capture with a dotted date, in a folder with a dot: the number after
99 is wider. -/
def pickedCapture : WString := wide "D:\\my.videos\\tape.04.07.15.99.avi"

theorem captureBase_of_next_picked :
    let next := nextCaptureFilename CaseFold.ascii (captureStem (wide "D:\\my.videos\\tape") (wide "04.07.15"))
      (2 : Nat) [wide "tape.04.07.15.99.avi"]
    next = wide "D:\\my.videos\\tape.04.07.15.100.avi" ∧
      captureBaseFromFilename next = wide "D:\\my.videos\\tape" ∧
      captureDirectory next = wide "D:\\my.videos\\" := by
  have hBase : captureBaseFromFilename pickedCapture = wide "D:\\my.videos\\tape" := by decide
  have hDirectory : captureDirectory pickedCapture = wide "D:\\my.videos\\" := by decide
  have hPicked := captureBase_of_next CaseFold.ascii pickedCapture (no_separator_of_all rfl :
    ∀ c ∈ wide "04.07.15", isSeparator c = false) (by decide : 2 ≤ kMaxDigits)
    [wide "tape.04.07.15.99.avi"]
  rw [hBase, hDirectory] at hPicked
  exact ⟨by decide +kernel, hPicked.1, hPicked.2.2⟩

end WinDV
