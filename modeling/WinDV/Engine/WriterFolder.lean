import WinDV.Engine.WriterNames

/-! The folder a writer's files are in. The free space is asked for behind the
last separator of the base name, and only the date comes between it and the
end of a file name. -/
namespace WinDV

/-- The name is the directory part and a file name behind it. -/
def InFolder (directory name : WString) : Prop :=
  ∃ file, name = directory ++ file ∧ ∀ c ∈ file, isSeparator c = false

/-- A date that is put into a name has no separator. With no local time, or no
room for it, there is no date. -/
def DateStays (runtime : TimeRuntime) (room : Nat) (dtformat : WString) (time : Int) : Prop :=
  ∀ date, runtime.dateText room dtformat time = some date → ∀ c ∈ date, isSeparator c = false

/-- What is behind the last separator of a path has none. -/
theorem inFolder_captureDirectory (path : WString) : InFolder (captureDirectory path) path :=
  ⟨fileNamePart path, (captureDirectory_append_fileNamePart path).symm, fileNamePart_no_separator path⟩

/-- The directory part is all there is up to the last separator. -/
theorem captureDirectory_of_inFolder {base name : WString} (h : InFolder (captureDirectory base) name) :
    captureDirectory name = captureDirectory base := by
  obtain ⟨file, rfl, hFile⟩ := h
  obtain ⟨ownFile, hBase, hOwnFile⟩ := inFolder_captureDirectory base
  rw [captureDirectory_append _ hFile, ← captureDirectory_append _ hOwnFile, ← hBase]

/-- What is put behind a base stays in its folder exactly when it has no separator. -/
theorem inFolder_append_iff (base tail : WString) :
    InFolder (captureDirectory base) (base ++ tail) ↔ ∀ c ∈ tail, isSeparator c = false := by
  obtain ⟨file, hBase, hFile⟩ := inFolder_captureDirectory base
  have hParts : base ++ tail = captureDirectory base ++ (file ++ tail) := by
    rw [← List.append_assoc, ← hBase]
  constructor
  · rintro ⟨rest, hName, hRest⟩ c hc
    rw [hParts] at hName
    apply hRest
    rw [← List.append_cancel_left hName]
    exact List.mem_append_right _ hc
  · intro h
    refine ⟨file ++ tail, hParts, ?_⟩
    intro c hc
    rcases List.mem_append.mp hc with hOwn | hMore
    · exact hFile c hOwn
    · exact h c hMore

/-- A stem, numbered or not, stays in the folder of its base exactly when its date
has no separator. -/
theorem inFolder_captureStem (base date : WString) {suffix : WString}
    (hSuffix : ∀ c ∈ suffix, isSeparator c = false) :
    InFolder (captureDirectory base) (captureStem base date ++ suffix) ↔ ∀ c ∈ date, isSeparator c = false := by
  by_cases hEmpty : date = []
  · have hStem : captureStem base date = base := by
      rw [hEmpty]
      rfl
    rw [hStem, inFolder_append_iff, hEmpty]
    simpa using hSuffix
  · rw [captureStem_dot base hEmpty, List.append_assoc, inFolder_append_iff]
    constructor
    · intro h c hc
      exact h c (List.mem_append_left _ (List.mem_cons_of_mem _ hc))
    · intro hDate c hc
      rcases List.mem_append.mp hc with hIn | hEnd
      · exact dot_no_separator hDate c hIn
      · exact hSuffix c hEnd

/-- So does a chosen name. -/
theorem inFolder_next (cf : CaseFold) (base date : WString) {ndigits : Nat} (hDigits : ndigits ≤ kMaxDigits)
    (existingNames : List WString) :
    InFolder (captureDirectory base) (nextCaptureFilename cf (captureStem base date) ndigits existingNames) ↔
      ∀ c ∈ date, isSeparator c = false := by
  rcases nextCaptureFilename_forms cf (captureStem base date) hDigits existingNames with
    ⟨-, hName⟩ | ⟨digits, hDecimal, -, hName⟩
  · rw [hName]
    exact inFolder_captureStem base date kExtension_no_separator
  · rw [hName, List.append_assoc, List.append_assoc, ← List.append_assoc (wide ".")]
    exact inFolder_captureStem base date (decimal_no_separator hDecimal)

/-- A date that may be missing. -/
theorem date_no_separator {date : Option WString} :
    (∀ c ∈ date.getD [], isSeparator c = false) ↔
      ∀ text, date = some text → ∀ c ∈ text, isSeparator c = false := by
  cases date with
  | none => simp
  | some text => simp

/-- Both names of a writer are in the folder of the base name exactly when neither
date has a separator. -/
theorem writer_inFolder_iff (env : Environment) (runtime : TimeRuntime) (target : CaptureTarget)
    (hLow : 0 ≤ target.ndigits) (hHigh : target.ndigits ≤ 4)
    (hValid : isValidTimeFormat target.dtformat = true) (started finished : Answer)
    (startTime finishTime : Int) (type2AVI : Bool) :
    (InFolder (captureDirectory target.filename)
        (AVIWriter.new (env.withRuntime runtime) started target startTime type2AVI).tmpfile ∧
      InFolder (captureDirectory target.filename)
        (writerFilename (env.withRuntime runtime) finished target.filename target.dtformat target.ndigits
          finishTime)) ↔
      DateStays runtime 16383 target.dtformat (writerTime started startTime) ∧
        DateStays runtime 16384 target.dtformat (writerTime finished finishTime) := by
  obtain ⟨ndigits, hDigits⟩ := Int.eq_ofNat_of_zero_le hLow
  have hMax : ndigits ≤ kMaxDigits := by
    rw [kMaxDigits]
    omega
  have hMark : ∀ marked : Option WString,
      (∀ c ∈ (marked.map (wchar '~' :: ·)).getD [], isSeparator c = false) ↔
        ∀ text, marked = some text → ∀ c ∈ text, isSeparator c = false := by
    intro marked
    cases marked with
    | none => simp
    | some text => simp [show isSeparator (wchar '~') = false from by decide]
  have hTemporary : (AVIWriter.new (env.withRuntime runtime) started target startTime type2AVI).tmpfile =
      nextCaptureFilename env.caseFold
        (temporaryStem runtime target.filename target.dtformat (writerTime started startTime)) ndigits
        started.listing := by
    rw [← hDigits, ← writerStem_temporary env hValid]
    rfl
  have hFinal : writerFilename (env.withRuntime runtime) finished target.filename target.dtformat
      target.ndigits finishTime =
      nextCaptureFilename env.caseFold
        (finalStem runtime target.filename target.dtformat (writerTime finished finishTime)) ndigits
        finished.listing := by
    rw [← hDigits, ← writerStem_final env hValid]
    rfl
  rw [hTemporary, hFinal, temporaryStem, finalStem, inFolder_next env.caseFold _ _ hMax,
    inFolder_next env.caseFold _ _ hMax, hMark, date_no_separator]
  rfl

theorem writer_inFolder_clock :
    (0 : Int) ≤ 2 ∧ (2 : Int) ≤ 4 ∧ isValidTimeFormat (wide "%H-%M") = true ∧
      InFolder (captureDirectory (wide "d:\\dv\\tape"))
        (AVIWriter.new (clockEnvironment.withRuntime clock) {}
          { filename := wide "d:\\dv\\tape", dtformat := wide "%H-%M", ndigits := 2 } 60 false).tmpfile := by
  have hNames := writer_inFolder_iff clockEnvironment clock
    { filename := wide "d:\\dv\\tape", dtformat := wide "%H-%M", ndigits := 2 } (by decide) (by decide) rfl
    {} {} 60 60 false
  have hTemporary : clock.dateText 16383 (wide "%H-%M") 60 = some (wide "00-01") := by decide
  have hFinal : clock.dateText 16384 (wide "%H-%M") 60 = some (wide "00-01") := by decide
  refine ⟨by decide, by decide, rfl, (hNames.mpr ⟨?_, ?_⟩).1⟩
  · intro date hDate
    obtain rfl : wide "00-01" = date := Option.some.inj (hTemporary.symm.trans hDate)
    exact no_separator_of_all rfl
  · intro date hDate
    obtain rfl : wide "00-01" = date := Option.some.inj (hFinal.symm.trans hDate)
    exact no_separator_of_all rfl

/-- A slash in the format is copied, and the file is put in a folder the guard
does not ask about. -/
theorem slash_format_leaves_folder :
    isValidTimeFormat (wide "%H/%M") = true ∧
      (AVIWriter.new (clockEnvironment.withRuntime clock) {}
        { filename := wide "d:\\dv\\tape", dtformat := wide "%H/%M" } 60 false).tmpfile =
          wide "d:\\dv\\tape.~00/01.avi" ∧
      ¬ InFolder (captureDirectory (wide "d:\\dv\\tape"))
        (AVIWriter.new (clockEnvironment.withRuntime clock) {}
          { filename := wide "d:\\dv\\tape", dtformat := wide "%H/%M" } 60 false).tmpfile := by
  have hFile : (AVIWriter.new (clockEnvironment.withRuntime clock) {}
      { filename := wide "d:\\dv\\tape", dtformat := wide "%H/%M" } 60 false).tmpfile =
        wide "d:\\dv\\tape.~00/01.avi" := by
    decide
  refine ⟨rfl, hFile, ?_⟩
  rw [hFile]
  intro h
  exact absurd (captureDirectory_of_inFolder h) (by decide)

end WinDV
