import WinDV.Core.CaptureBase
import WinDV.Core.TimeFormat
import WinDV.Engine.AviWriter
import Mathlib.Data.Set.Basic

/-! The two names of a writer's file. Only the mark in front of the date keeps
the temporary ones out of the numbering, and the date may be missing. -/
namespace WinDV

/-- An environment whose `FormatTime` is that of a C runtime. -/
def Environment.withRuntime (env : Environment) (runtime : TimeRuntime) : Environment :=
  { env with formatTime := runtime.formatTime }

/-- The time a name is made for: one that is not positive means now. -/
def writerTime (ans : Answer) (tim : Int) : Int := if tim ≤ 0 then ans.now else tim

/-- The stem of a writer's names. -/
def writerStem (env : Environment) (ans : Answer) (base dtformat : WString) (tim : Int) : WString :=
  captureStem base (env.formatTime dtformat (writerTime ans tim))

/-- A file of the folder that has the temporary name of a writer for the
target, made for one of the times. `folderOf` is the folder the file system
finds under a directory part. -/
def IsTemporary {Folder : Type} (env : Environment) (folderOf : WString → Folder) (target : CaptureTarget)
    (times : Set Int) (folder : Folder) (e : WString) : Prop :=
  ∃ ans dvTime type2AVI, writerTime ans dvTime ∈ times ∧
    folderOf (captureDirectory (AVIWriter.new env ans target dvTime type2AVI).tmpfile) = folder ∧
    equalsNoCase env.caseFold e
      (fileNamePart (AVIWriter.new env ans target dvTime type2AVI).tmpfile) = true

/-- Leaving the temporary files of those times out of the listing never
changes the final name: none of them is taken for a capture. -/
def TemporaryLeftOut {Folder : Type} (env : Environment) (folderOf : WString → Folder)
    (target : CaptureTarget) (times : Set Int) (ans : Answer) (dvTime : Int) : Prop :=
  ∀ listing kept : List WString,
    (∀ e, e ∈ kept ↔ e ∈ listing ∧ ¬ IsTemporary env folderOf target times
      (folderOf (captureDirectory (writerStem env ans target.filename target.dtformat dvTime))) e) →
    writerFilename env { ans with listing := kept } target.filename target.dtformat target.ndigits dvTime =
      writerFilename env { ans with listing := listing } target.filename target.dtformat target.ndigits
        dvTime

/-- The stem of a temporary name with a valid format: the mark and the date,
when there is room for both. -/
def temporaryStem (runtime : TimeRuntime) (base dtformat : WString) (time : Int) : WString :=
  captureStem base (((runtime.dateText 16383 dtformat time).map (wchar '~' :: ·)).getD [])

/-- The stem of a final name with a valid format. -/
def finalStem (runtime : TimeRuntime) (base dtformat : WString) (time : Int) : WString :=
  captureStem base ((runtime.dateText 16384 dtformat time).getD [])

/-- The format is valid, and the two stems are in different folders or have
file names that stay apart when they are numbered. -/
def KeptApart {Folder : Type} (cf : CaseFold) (runtime : TimeRuntime) (folderOf : WString → Folder)
    (target : CaptureTarget) (temporary final : Int) : Prop :=
  isValidTimeFormat target.dtformat = true ∧
    (folderOf (captureDirectory (temporaryStem runtime target.filename target.dtformat temporary)) =
        folderOf (captureDirectory (finalStem runtime target.filename target.dtformat final)) →
      NamesApart cf target.ndigits.toNat
        (fileNamePart (temporaryStem runtime target.filename target.dtformat temporary))
        (fileNamePart (finalStem runtime target.filename target.dtformat final)))

section Stems

variable {env : Environment} {runtime : TimeRuntime} {base dtformat : WString}

theorem writerStem_temporary (env : Environment) (h : isValidTimeFormat dtformat = true) (ans : Answer) (tim : Int) :
    writerStem (env.withRuntime runtime) ans base (wide "~" ++ dtformat) tim =
      temporaryStem runtime base dtformat (writerTime ans tim) := by
  rw [writerStem, temporaryStem, ← runtime.formatTime_marked h]
  rfl

theorem writerStem_final (env : Environment) (h : isValidTimeFormat dtformat = true) (ans : Answer) (tim : Int) :
    writerStem (env.withRuntime runtime) ans base dtformat tim =
      finalStem runtime base dtformat (writerTime ans tim) := by
  rw [writerStem, finalStem, ← runtime.formatTime_valid h]
  rfl

/-- An invalid format leaves neither name a date, and no mark. -/
theorem writerStem_invalid (env : Environment) (runtime : TimeRuntime) (base : WString)
    (h : isValidTimeFormat dtformat = false) (ans : Answer) (tim : Int) :
    writerStem (env.withRuntime runtime) ans base dtformat tim = base ∧
      writerStem (env.withRuntime runtime) ans base (wide "~" ++ dtformat) tim = base := by
  have hMarked : isValidTimeFormat (wide "~" ++ dtformat) = false := by
    rw [← h]
    exact isValidTimeFormat_ordinary (by decide) dtformat
  constructor
  · show captureStem base (runtime.formatTime dtformat _) = base
    rw [runtime.formatTime_invalid h]
    rfl
  · show captureStem base (runtime.formatTime (wide "~" ++ dtformat) _) = base
    rw [runtime.formatTime_invalid hMarked]
    rfl

/-- A temporary name is one that a series of its own chooses. -/
theorem isTemporary_iff {Folder : Type} {folderOf : WString → Folder} {target : CaptureTarget} {ndigits : Nat}
    (hDigits : target.ndigits = ndigits) (hMax : ndigits ≤ kMaxDigits) {times : Set Int} {folder : Folder}
    {e : WString} :
    IsTemporary env folderOf target times folder e ↔
      ∃ own ∈ {own | ∃ ans dvTime, writerTime ans dvTime ∈ times ∧
          own = writerStem env ans target.filename (wide "~" ++ target.dtformat) dvTime ∧
          folderOf (captureDirectory own) = folder},
        ∃ existingNames, equalsNoCase env.caseFold e
          (fileNamePart (nextCaptureFilename env.caseFold own ndigits existingNames)) = true := by
  have hFile : ∀ ans dvTime type2AVI, (AVIWriter.new env ans target dvTime type2AVI).tmpfile =
      nextCaptureFilename env.caseFold
        (writerStem env ans target.filename (wide "~" ++ target.dtformat) dvTime) ndigits ans.listing := by
    intro ans dvTime type2AVI
    rw [← hDigits]
    rfl
  constructor
  · rintro ⟨ans, dvTime, type2AVI, hTime, hFolder, hEqual⟩
    rw [hFile] at hFolder hEqual
    rw [captureDirectory_next env.caseFold _ hMax] at hFolder
    exact ⟨_, ⟨ans, dvTime, hTime, rfl, hFolder⟩, ans.listing, hEqual⟩
  · rintro ⟨_, ⟨ans, dvTime, hTime, rfl, hFolder⟩, existingNames, hEqual⟩
    refine ⟨{ ans with listing := existingNames }, dvTime, false, hTime, ?_, ?_⟩
    · rw [hFile, captureDirectory_next env.caseFold _ hMax]
      exact hFolder
    · rw [hFile]
      exact hEqual

end Stems

/-- Leaving the temporary files out of the listing changes no final name
exactly when the two stems are kept apart at every time. -/
theorem temporary_left_out_iff {Folder : Type} (env : Environment) (runtime : TimeRuntime)
    (folderOf : WString → Folder) (target : CaptureTarget) (hLow : 0 ≤ target.ndigits)
    (hHigh : target.ndigits ≤ 4) (times : Set Int) (ans : Answer) (dvTime : Int) :
    TemporaryLeftOut (env.withRuntime runtime) folderOf target times ans dvTime ↔
      ∀ time ∈ times, KeptApart env.caseFold runtime folderOf target time (writerTime ans dvTime) := by
  obtain ⟨ndigits, hDigits⟩ := Int.eq_ofNat_of_zero_le hLow
  have hMax : ndigits ≤ kMaxDigits := by
    rw [kMaxDigits]
    omega
  have hFinal : ∀ listing : List WString,
      writerFilename (env.withRuntime runtime) { ans with listing := listing } target.filename
        target.dtformat target.ndigits dvTime =
      nextCaptureFilename env.caseFold
        (writerStem (env.withRuntime runtime) ans target.filename target.dtformat dvTime) ndigits
        listing := by
    intro listing
    rw [hDigits]
    rfl
  simp only [TemporaryLeftOut, hFinal, isTemporary_iff hDigits hMax]
  refine (next_without_others_iff env.caseFold _ hMax _).trans ?_
  cases hValid : isValidTimeFormat target.dtformat with
  | true =>
      constructor
      · intro hApart time hTime
        have hNow : writerTime { ans with now := time } 0 = time := rfl
        refine ⟨hValid, fun hFolder => ?_⟩
        have hOwn := hApart (temporaryStem runtime target.filename target.dtformat time)
        rw [writerStem_final env hValid] at hOwn
        rw [hDigits, Int.toNat_natCast]
        refine hOwn ⟨{ ans with now := time }, 0, hNow ▸ hTime, ?_, hFolder⟩
        rw [writerStem_temporary env hValid, hNow]
      · rintro hApart _ ⟨own, tim, hTime, rfl, hFolder⟩
        have hKept := (hApart _ hTime).2
        rw [hDigits, Int.toNat_natCast, ← writerStem_temporary env hValid,
          ← writerStem_final env hValid] at hKept
        exact hKept hFolder
  | false =>
      constructor
      · intro hApart time hTime
        have hNow : writerTime { ans with now := time } 0 = time := rfl
        have hStems := writerStem_invalid env runtime target.filename hValid
        have hOwn := hApart target.filename
        rw [(hStems ans dvTime).1] at hOwn
        have hSame := (hOwn ⟨{ ans with now := time }, 0, hNow ▸ hTime, (hStems _ _).2.symm, rfl⟩).1
        rw [equalsNoCase_refl] at hSame
        cases hSame
      · rintro hApart _ ⟨own, tim, hTime, -, -⟩
        have hKept := (hApart _ hTime).1
        rw [hValid] at hKept
        cases hKept

section Marked

variable {cf : CaseFold} {name : WString}

/-- A name with a mark behind its dot equals only one that has the mark there. -/
theorem mark_of_equal {more tail : WString}
    (h : equalsNoCase cf (name ++ wide "." ++ wchar '~' :: more) (name ++ tail) = true) :
    ∃ c, tail[1]? = some c ∧ cf.fold c = cf.fold (wchar '~') := by
  simp only [equalsNoCase_iff, wide_dot, List.append_assoc, List.singleton_append, List.map_append,
    List.map_cons] at h
  have hTail := List.append_cancel_left h
  cases tail with
  | nil => simp at hTail
  | cons d rest =>
      cases rest with
      | nil => simp at hTail
      | cons c others =>
          simp only [List.map_cons, List.cons.injEq] at hTail
          exact ⟨c, rfl, hTail.2.1.symm⟩

/-- Behind the name the other stem has its date, and then a number. -/
theorem marked_ne {more date suffix : WString}
    (hDate : ∀ c, date.head? = some c → cf.fold c ≠ cf.fold (wchar '~'))
    (hSuffix : ∀ c, suffix[1]? = some c → cf.fold c ≠ cf.fold (wchar '~')) :
    equalsNoCase cf (name ++ wide "." ++ wchar '~' :: more) (captureStem name date ++ suffix) = false := by
  rw [Bool.eq_false_iff]
  intro hEqual
  cases date with
  | nil =>
      obtain ⟨c, hSecond, hFold⟩ := mark_of_equal hEqual
      exact hSuffix c hSecond hFold
  | cons first others =>
      have hStem : captureStem name (first :: others) ++ suffix =
          name ++ (wide "." ++ first :: (others ++ suffix)) := by
        simp [captureStem]
      rw [hStem] at hEqual
      obtain ⟨c, hSecond, hFold⟩ := mark_of_equal hEqual
      have hFirst : first = c := by simpa using hSecond
      exact hDate c (by rw [hFirst]; rfl) hFold

theorem fold_digit_ne {c : WChar} (h : isDigit c = true) : cf.fold c ≠ cf.fold (wchar '~') := by
  intro hFold
  have hSame := cf.eq_of_fold_other (cf.digit_other c h) hFold.symm
  rw [← hSame] at h
  exact absurd h (by decide)

/-- The mark keeps the two names apart, unless the date has one too. -/
theorem namesApart_marked {marked date : WString} (ndigits : Nat)
    (hDate : ∀ c, date.head? = some c → cf.fold c ≠ cf.fold (wchar '~')) :
    NamesApart cf ndigits (captureStem name (wchar '~' :: marked)) (captureStem name date) := by
  have hOwn : ∀ suffix : WString, captureStem name (wchar '~' :: marked) ++ suffix =
      name ++ wide "." ++ wchar '~' :: (marked ++ suffix) := by
    intro suffix
    simp [captureStem]
  have hNone : ∀ more : WString,
      equalsNoCase cf (name ++ wide "." ++ wchar '~' :: more) (captureStem name date) = false := by
    intro more
    rw [← List.append_nil (captureStem name date)]
    exact marked_ne hDate (by simp)
  refine ⟨hNone marked, fun _ => ⟨fun digits _ => ?_, fun digits hDecimal _ => ?_⟩⟩
  · rw [List.append_assoc, hOwn]
    exact hNone _
  · rw [List.append_assoc]
    apply marked_ne hDate
    intro c hSecond
    have hMember : c ∈ digits := by
      rw [wide_dot, List.singleton_append, List.getElem?_cons_succ] at hSecond
      exact List.mem_of_getElem? hSecond
    exact fold_digit_ne (((isDecimal_iff digits).mp hDecimal).2 c hMember)

end Marked

theorem fileNamePart_captureStem (base : WString) {date : WString}
    (h : ∀ c ∈ date, isSeparator c = false) :
    fileNamePart (captureStem base date) = captureStem (fileNamePart base) date := by
  by_cases hEmpty : date = []
  · subst hEmpty
    rfl
  · rw [captureStem_dot base hEmpty, captureStem_dot _ hEmpty]
    exact fileNamePart_append base (dot_no_separator h)

/-- The names are kept apart when the temporary one has its date, no date has
a separator and the final one does not begin with the mark. -/
theorem KeptApart.of_marked {Folder : Type} {cf : CaseFold} {runtime : TimeRuntime}
    {folderOf : WString → Folder} {target : CaptureTarget} {temporary final : Int} {marked : WString}
    (hValid : isValidTimeFormat target.dtformat = true)
    (hMarked : runtime.dateText 16383 target.dtformat temporary = some marked)
    (hWhole : ∀ c ∈ marked, isSeparator c = false)
    (hFinal : ∀ date, runtime.dateText 16384 target.dtformat final = some date →
      (∀ c ∈ date, isSeparator c = false) ∧ ∀ c, date.head? = some c → cf.fold c ≠ cf.fold (wchar '~')) :
    KeptApart cf runtime folderOf target temporary final := by
  refine ⟨hValid, fun _ => ?_⟩
  have hMark : ∀ c ∈ wchar '~' :: marked, isSeparator c = false := by
    intro c hc
    rcases List.mem_cons.mp hc with rfl | hDate
    · decide
    · exact hWhole c hDate
  rw [temporaryStem, hMarked, Option.map_some, Option.getD_some, fileNamePart_captureStem _ hMark, finalStem]
  cases hDate : runtime.dateText 16384 target.dtformat final with
  | none =>
      rw [Option.getD_none, fileNamePart_captureStem _ (by simp)]
      exact namesApart_marked _ (by simp)
  | some date =>
      obtain ⟨hPlain, hFirst⟩ := hFinal date hDate
      rw [Option.getD_some, fileNamePart_captureStem _ hPlain]
      exact namesApart_marked _ hFirst

/-- Hours, minutes and seconds, as two digits each. -/
def clockField (c : WChar) (time : Int) : WString :=
  numberDigits 2 (if c = wchar 'H' then time / 3600 % 24 else if c = wchar 'M' then time / 60 % 60
    else time % 60).toNat

def clockText : WString → Int → WString
  | [], _ => []
  | c :: rest, time =>
      if c ≠ wchar '%' then c :: clockText rest time
      else
        match rest with
        | [] => []
        | d :: tail => clockField d time ++ clockText tail time

theorem clockText_ordinary {c : WChar} (h : c ≠ wchar '%') (rest : WString) (time : Int) :
    clockText (c :: rest) time = c :: clockText rest time := by
  conv_lhs => unfold clockText
  rw [if_pos h]

/-- A runtime that keeps UTC, for formats of `%H`, `%M` and `%S`. -/
def clock : TimeRuntime where
  Local := Int
  localtime time := if 0 ≤ time then some time else none
  text := clockText
  text_nil := fun _ => rfl
  text_ordinary := fun _ rest tm h => clockText_ordinary h rest tm

/-- An environment for the examples: no frame carries a time. -/
def clockEnvironment : Environment where
  mktime := fun _ => none
  formatTime := clock.formatTime
  caseFold := CaseFold.ascii

theorem temporary_left_out_clock :
    (0 : Int) ≤ 2 ∧ (2 : Int) ≤ 4 ∧
      TemporaryLeftOut (clockEnvironment.withRuntime clock) captureDirectory
        { filename := wide "c:\\tape", dtformat := wide "%H-%M", ndigits := 2 } {60} {} 120 := by
  have hKept : KeptApart CaseFold.ascii clock captureDirectory
      { filename := wide "c:\\tape", dtformat := wide "%H-%M", ndigits := 2 } 60 120 := by
    have hMarked : clock.dateText 16383 (wide "%H-%M") 60 = some (wide "00-01") := by decide
    have hFinal : clock.dateText 16384 (wide "%H-%M") 120 = some (wide "00-02") := by decide
    apply KeptApart.of_marked rfl hMarked (no_separator_of_all rfl)
    intro date hDate
    obtain rfl : wide "00-02" = date := Option.some.inj (hFinal.symm.trans hDate)
    refine ⟨no_separator_of_all rfl, ?_⟩
    rintro c ⟨⟩
    exact fold_digit_ne rfl
  refine ⟨by decide, by decide, ?_⟩
  rw [temporary_left_out_iff _ _ _ _ (by decide) (by decide)]
  rintro _ rfl
  exact hKept

/-- A lone `%` is no valid format: the temporary file is `tape.avi`, and the
capture gets the number after it. -/
theorem invalid_format_mixes :
    ¬ ∀ (env : Environment) (runtime : TimeRuntime) (folderOf : WString → WString) (target : CaptureTarget),
      0 ≤ target.ndigits → target.ndigits ≤ 4 → ∀ (times : Set Int) (ans : Answer) (dvTime : Int),
        TemporaryLeftOut (env.withRuntime runtime) folderOf target times ans dvTime := by
  intro hAlways
  have hSame := hAlways clockEnvironment clock captureDirectory
    { filename := wide "tape", dtformat := wide "%" } (by decide) (by decide) {60} {} 60
    [wide "tape.avi"] [] (by
      intro e
      constructor
      · intro he
        cases he
      · rintro ⟨he, hOther⟩
        rw [List.mem_singleton.mp he] at hOther
        exact absurd ⟨{}, 60, false, rfl, rfl, by decide⟩ hOther)
  exact absurd hSame (by decide)

end WinDV
