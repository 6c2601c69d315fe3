import WinDV.Core.CommandLine
import WinDV.Engine.Playlist
import WinDV.Native.CopyOut
import WinDV.Native.ErrorText

/-! The record files' way from the command line to the playlist: parsed and joined
in C++, copied out to C#, put between the prefix and the suffix of the settings,
and split again in C++. -/
namespace WinDV

open GrowingBuffer

/-- A string argument of the C API, read as a C string. -/
def arg (text : WString) : WString := text.takeWhile (· ≠ 0)

/-- `windv_command_line`. -/
structure NativeCommandLine where
  mode : CommandLineMode := .interactive
  exitOnFinish : Bool := false
  duration : Int64 := 0
  deriving DecidableEq, Repr

/-- What `windv_parse_command_line` returns and leaves behind its pointers. -/
structure ParseAnswer where
  result : NativeResult
  commandLine : NativeCommandLine := {}
  needed : Int32 := 0
  files : WString
  deriving DecidableEq, Repr

/-- The file or files of a command line in one text. -/
def commandLineText (parsed : CommandLine) : WString :=
  Separated.join (wchar '|') (wchar ' ') parsed.captureFile parsed.recordFiles

/-- `windv_parse_command_line`. -/
def windvParseCommandLine (args : List WString) (buffer : WString) : ParseAnswer :=
  match parseCommandLine (args.map arg) with
  | none => { result := .usageError, files := buffer }
  | some parsed =>
      let copy := copyOut (commandLineText parsed) buffer
      { result := if (buffer.length : Int) < copy.1.toInt then .bufferTooSmall else .ok
        commandLine :=
          { mode := parsed.mode, exitOnFinish := parsed.exitOnFinish, duration := parsed.duration }
        needed := copy.1
        files := copy.2 }

/-- `ParsedCommandLine`. -/
structure ParsedCommandLine where
  mode : CommandLineMode
  exitOnFinish : Bool
  duration : Int64
  files : WString
  deriving DecidableEq, Repr

/-- One turn of the loop of `DvEngine.ParseCommandLine`. -/
def parseCommandLineTry (args : List WString) (length : Nat) : Attempt (Option ParsedCommandLine) :=
  let answer := windvParseCommandLine args (List.replicate length 0)
  if answer.result = .bufferTooSmall then .tooSmall answer.needed.toInt.toNat
  else if answer.result ≠ .ok then .done none
  else
    .done (some
      { mode := answer.commandLine.mode, exitOnFinish := answer.commandLine.exitOnFinish
        duration := answer.commandLine.duration
        files := answer.files.take (answer.needed.toInt - 1).toNat })

theorem parseCommandLineTry_grows (args : List WString) (length needed : Nat)
    (h : parseCommandLineTry args length = .tooSmall needed) : length < needed ∧ needed ≤ 2 ^ 31 := by
  unfold parseCommandLineTry windvParseCommandLine at h
  cases hParsed : parseCommandLine (args.map arg) with
  | none => simp [hParsed] at h
  | some parsed =>
      simp only [hParsed, List.length_replicate] at h
      have hLt := (copyOut (commandLineText parsed) (List.replicate length 0)).1.toInt_lt
      by_cases hTooSmall : (length : Int) < (copyOut (commandLineText parsed) (List.replicate length 0)).1.toInt
      · simp only [hTooSmall, if_true] at h
        have hNeeded := Attempt.tooSmall.inj h
        omega
      · simp [hTooSmall] at h

def parseCommandLineFiller (args : List WString) : Filler Unit (Option ParsedCommandLine) where
  limit := 2 ^ 31
  fill _ length := (parseCommandLineTry args length, ())
  grows _ := parseCommandLineTry_grows args

/-- `DvEngine.ParseCommandLine`. -/
def dvEngineParseCommandLine (args : List WString) : Option ParsedCommandLine :=
  ((parseCommandLineFiller args).read 1024 ()).1

/-- `char.IsWhiteSpace`. -/
def isWhiteSpace (c : WChar) : Bool :=
  let n := c.toNat
  9 ≤ n && n ≤ 13 || n == 0x20 || n == 0x85 || n == 0xA0 || n == 0x1680 || 0x2000 ≤ n && n ≤ 0x200A ||
    n == 0x2028 || n == 0x2029 || n == 0x202F || n == 0x205F || n == 0x3000

/-- `string.IsNullOrWhiteSpace`. -/
def isNullOrWhiteSpace (text : WString) : Bool := text.all isWhiteSpace

/-- `MainViewModel.BuildRecordAsync`: the list it passes on. -/
def buildRecordList (aviPrefix recordFiles aviSuffix recordDevice : WString) : Except WString WString :=
  if isNullOrWhiteSpace recordFiles then .error (wide "Choose the AVI files to record first.")
  else if isNullOrWhiteSpace recordDevice then .error (wide "Choose a DV device first.")
  else .ok (aviPrefix ++ wide "|" ++ recordFiles ++ wide "|" ++ aviSuffix)

section Copy

variable {args : List WString} {parsed : CommandLine}

/-- What the C# side makes of a command line. -/
def toParsedCommandLine (parsed : CommandLine) : ParsedCommandLine where
  mode := parsed.mode
  exitOnFinish := parsed.exitOnFinish
  duration := parsed.duration
  files := commandLineText parsed

/-- One turn of the loop, for a text an `int32` can count. -/
theorem parseCommandLineTry_eq (h : parseCommandLine (args.map arg) = some parsed)
    (hSize : (commandLineText parsed).length + 1 < 2 ^ 31) (length : Nat) :
    parseCommandLineTry args length =
      if (commandLineText parsed).length + 1 ≤ length then .done (some (toParsedCommandLine parsed))
      else .tooSmall ((commandLineText parsed).length + 1) := by
  have hNeeded : (neededSize (commandLineText parsed)).toInt = (commandLineText parsed).length + 1 :=
    neededSize_of_lt hSize
  have hCopy : (copyOut (commandLineText parsed) (List.replicate length 0)).1 =
      neededSize (commandLineText parsed) := rfl
  unfold parseCommandLineTry windvParseCommandLine
  simp only [h, hCopy, hNeeded, List.length_replicate]
  by_cases hFits : (commandLineText parsed).length + 1 ≤ length
  · have hNot : ¬ ((length : Int) < (commandLineText parsed).length + 1) := by omega
    have hTake := copyOut_take (commandLineText parsed) (List.replicate length 0)
      (by rw [hNeeded, List.length_replicate]; omega)
    have hIndex : ((commandLineText parsed).length + 1 - 1 : Int).toNat =
        (neededSize (commandLineText parsed)).toInt.toNat - 1 := by
      rw [hNeeded]
      omega
    rw [if_pos hFits, hIndex, hTake, copied_of_lt hSize]
    simp [hNot, toParsedCommandLine]
  · have hTooSmall : (length : Int) < (commandLineText parsed).length + 1 := by omega
    rw [if_neg hFits]
    simp [hTooSmall]

/-- However long the text is, it arrives whole. -/
theorem dvEngineParseCommandLine_eq (h : parseCommandLine (args.map arg) = some parsed)
    (hSize : (commandLineText parsed).length + 1 < 2 ^ 31) :
    dvEngineParseCommandLine args = some (toParsedCommandLine parsed) := by
  have hTry (length : Nat) := parseCommandLineTry_eq h hSize length
  by_cases hFits : (commandLineText parsed).length + 1 ≤ 1024
  · have hDone : (parseCommandLineFiller args).fill () 1024 =
        (.done (some (toParsedCommandLine parsed)), ()) := by
      show (parseCommandLineTry args 1024, ()) = _
      rw [hTry, if_pos hFits]
    rw [dvEngineParseCommandLine, Filler.read_done hDone]
  · have hFirst : (parseCommandLineFiller args).fill () 1024 =
        (.tooSmall ((commandLineText parsed).length + 1), ()) := by
      show (parseCommandLineTry args 1024, ()) = _
      rw [hTry, if_neg hFits]
    have hSecond : (parseCommandLineFiller args).fill () ((commandLineText parsed).length + 1) =
        (.done (some (toParsedCommandLine parsed)), ()) := by
      show (parseCommandLineTry args _, ()) = _
      rw [hTry, if_pos (Nat.le_refl _)]
    rw [dvEngineParseCommandLine, Filler.read_steady hFirst hSecond]

end Copy

section List

theorem arg_of_no_null {text : WString} (h : (0 : WChar) ∉ text) : arg text = text := by
  rw [arg, List.takeWhile_eq_self_iff]
  intro c hc
  rw [decide_eq_true_eq]
  rintro rfl
  exact h hc

theorem arg_no_null (text : WString) : (0 : WChar) ∉ arg text := by
  intro hMem
  have := List.mem_takeWhile_imp hMem
  simp at this

/-- The patterns of three lists with bars between them. -/
theorem patterns_append (first second third : WString) :
    patterns (first ++ wide "|" ++ second ++ wide "|" ++ third) =
      patterns first ++ patterns second ++ patterns third := by
  have hBar : wide "|" = [wchar '|'] := rfl
  have hText : first ++ wide "|" ++ second ++ wide "|" ++ third =
      first ++ wchar '|' :: (second ++ wchar '|' :: third) := by
    simp [hBar]
  rw [hText, patterns, Separated.fields_append_sep, Separated.fields_append_sep, List.append_assoc]
  rfl

/-- The patterns of joined files: each file, trimmed, unless nothing is left. -/
theorem patterns_join {files : List WString} (h : ∀ file ∈ files, wchar '|' ∉ file) :
    patterns (Separated.join (wchar '|') (wchar ' ') [] files) =
      (files.map trim).filter (· ≠ []) := by
  rw [patterns, Separated.fields_join rfl rfl, Separated.fields_nil, List.nil_append]
  induction files with
  | nil => rfl
  | cons file rest ih =>
      have hFile : Separated.fields (wchar '|') isBlank file = _ :=
        Separated.fields_single (h file List.mem_cons_self)
      have hRest := ih fun other hOther => h other (List.mem_cons_of_mem _ hOther)
      rw [List.flatMap_cons, hFile, hRest, List.map_cons, trim_eq, ← List.filter_append]
      rfl

end List

/-- The record files on a command line, and what becomes of them. -/
theorem record_files_survive {args : List WString} {commandLine : CommandLine}
    (hParsed : parseCommandLine (args.map arg) = some commandLine)
    (hMode : commandLine.mode = .record)
    (hBar : ∀ file ∈ commandLine.recordFiles, wchar '|' ∉ file)
    (hNotBlank : ∃ file ∈ commandLine.recordFiles, isNullOrWhiteSpace file = false)
    (hSize : (commandLineText commandLine).length + 1 < 2 ^ 31)
    (aviPrefix aviSuffix : WString) {recordDevice : WString}
    (hDevice : isNullOrWhiteSpace recordDevice = false) :
    ∃ parsed list, dvEngineParseCommandLine args = some parsed ∧
      buildRecordList aviPrefix parsed.files aviSuffix recordDevice = .ok list ∧
      patterns list = patterns aviPrefix ++ (commandLine.recordFiles.map trim).filter (· ≠ []) ++
        patterns aviSuffix ∧
      (∀ cf findFiles, addPatterns cf findFiles list 0 [] =
        (patterns list).foldlM (addPattern cf findFiles) []) ∧
      (∀ cf findFiles filenames, aviJoinerFilenames cf findFiles list = .ok filenames ↔
        filenames ≠ [] ∧ (patterns list).foldlM (addPattern cf findFiles) [] = .ok filenames) ∧
      ((0 : WChar) ∉ aviPrefix → (0 : WChar) ∉ aviSuffix → arg list = list) := by
  obtain ⟨hCapture, hArgs⟩ := parseCommandLine_record hParsed hMode
  have hText : commandLineText commandLine =
      Separated.join (wchar '|') (wchar ' ') [] commandLine.recordFiles := by
    rw [commandLineText, hCapture]
  have hFiles : isNullOrWhiteSpace (commandLineText commandLine) = false := by
    obtain ⟨file, hFile, hSome⟩ := hNotBlank
    obtain ⟨c, hc, hVisible⟩ := List.all_eq_false.mp hSome
    rw [isNullOrWhiteSpace, List.all_eq_false, hText]
    exact ⟨c, Separated.mem_join (Or.inr ⟨file, hFile, hc⟩), hVisible⟩
  have hNoNull : (0 : WChar) ∉ commandLineText commandLine := by
    intro hMem
    rw [hText] at hMem
    rcases Separated.mem_of_mem_join hMem with hNil | ⟨file, hFile, hc⟩ | hGap | hSep
    · cases hNil
    · obtain ⟨original, -, rfl⟩ := List.mem_map.mp (hArgs file hFile)
      exact arg_no_null original hc
    · cases hGap
    · cases hSep
  refine ⟨toParsedCommandLine commandLine,
    aviPrefix ++ wide "|" ++ commandLineText commandLine ++ wide "|" ++ aviSuffix,
    dvEngineParseCommandLine_eq hParsed hSize, ?_, ?_, ?_, ?_, ?_⟩
  · simp only [buildRecordList, toParsedCommandLine, hFiles, hDevice, Bool.false_eq_true, if_false]
  · rw [patterns_append, hText, patterns_join hBar]
  · intro cf findFiles
    exact addPatterns_all cf findFiles _
  · intro cf findFiles filenames
    exact aviJoinerFilenames_eq_ok cf findFiles
  · intro hPrefix hSuffix
    apply arg_of_no_null
    have hBarNull : (0 : WChar) ∉ wide "|" := by decide
    simp [hPrefix, hSuffix, hNoNull, hBarNull]

/-- Three files, one of them empty and one with blanks around it. -/
theorem record_files_survive_three :
    ∃ parsed list,
      dvEngineParseCommandLine [wide "record", wide "a.avi", [], wide " b*.avi "] = some parsed ∧
      buildRecordList (wide "intro.avi|") parsed.files [] (wide "DV") = .ok list ∧
      patterns list = [wide "intro.avi", wide "a.avi", wide "b*.avi"] := by
  have hParsed : parseCommandLine ([wide "record", wide "a.avi", [], wide " b*.avi "].map arg) =
      some { mode := .record, recordFiles := [wide "a.avi", [], wide " b*.avi "] } := by decide
  obtain ⟨parsed, list, hFiles, hList, hPatterns, -⟩ :=
    record_files_survive hParsed rfl (by decide) ⟨wide "a.avi", by decide, by decide⟩ (by decide)
      (wide "intro.avi|") [] (show isNullOrWhiteSpace (wide "DV") = false by decide)
  refine ⟨parsed, list, hFiles, hList, hPatterns.trans ?_⟩
  decide

end WinDV
