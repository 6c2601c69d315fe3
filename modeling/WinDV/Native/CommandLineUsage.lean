import WinDV.Core.Duration
import WinDV.Native.RecordFiles

/-! The command lines of the usage text, and what the window gets of them. Every command
line that is taken is one of these. -/
namespace WinDV

/-- A command line as the usage text has it. -/
inductive CommandLineUsage where
  | interactive
  | capture (exit : Bool) (duration : DurationText) (file : WString)
  | record (exit : Bool) (first : WString) (rest : List WString)

namespace CommandLineUsage

/-- `[-exit]`. -/
def exitOption (exit : Bool) : List WString := if exit then [wide "-exit"] else []

/-- The arguments. -/
def args : CommandLineUsage → List WString
  | interactive => []
  | capture exit duration file => wide "capture" :: (exitOption exit ++ [duration.text, file])
  | record exit first rest => wide "record" :: (exitOption exit ++ first :: rest)

/-- Behind the command `-exit` is the option, and never a file. -/
def Proper : CommandLineUsage → Prop
  | record false first _ => first ≠ wide "-exit"
  | _ => True

/-- What is meant. -/
def commandLine : CommandLineUsage → CommandLine
  | interactive => {}
  | capture exit duration file =>
      { mode := .capture, exitOnFinish := exit, duration := Int64.ofInt duration.units, captureFile := file }
  | record exit first rest => { mode := .record, exitOnFinish := exit, recordFiles := first :: rest }

/-- A duration begins with a field. -/
theorem duration_begins (duration : DurationText) :
    ∃ (field : DurationField) (rest : WString), duration.text = field.text ++ rest := by
  obtain ⟨clock, fraction⟩ := duration
  cases clock with
  | seconds s => exact ⟨s, _, rfl⟩
  | minutes m s => exact ⟨m, _, List.append_assoc _ _ _⟩
  | hours h m s => exact ⟨h, _, List.append_assoc _ _ _⟩

/-- No duration is `-exit`. -/
theorem duration_ne_exit (duration : DurationText) : duration.text ≠ wide "-exit" := by
  intro hText
  obtain ⟨field, rest, hField⟩ := duration_begins duration
  obtain ⟨c, digits, hDigits⟩ := List.exists_cons_of_ne_nil field.isField.nonempty
  have hDigit : isDigit c = true := field.isField.digits c (by rw [hDigits]; exact List.mem_cons_self)
  rw [hField, hDigits] at hText
  obtain rfl : c = wchar '-' := (List.cons.inj hText).1
  cases hDigit

/-- What is meant is what is understood. -/
theorem parseCommandLine_args {usage : CommandLineUsage} (h : usage.Proper) :
    parseCommandLine usage.args = some usage.commandLine := by
  have hRecord : wide "record" ≠ wide "capture" := by decide
  cases usage with
  | interactive => rfl
  | capture exit duration file =>
      cases exit with
      | true =>
          simp only [args, exitOption, if_true, parseCommandLine, parseCommand, List.singleton_append,
            List.head?_cons, List.tail_cons, duration.parseDuration_text, Option.map_some]
          rfl
      | false =>
          have hOption : some duration.text ≠ some (wide "-exit") := fun hSame =>
            duration_ne_exit duration (Option.some.inj hSame)
          simp only [args, exitOption, parseCommandLine, parseCommand, List.nil_append, List.head?_cons,
            duration.parseDuration_text, Option.map_some, Bool.false_eq_true, if_false, if_neg hOption, if_true]
          rfl
  | record exit first rest =>
      cases exit with
      | true =>
          simp only [args, exitOption, if_true, parseCommandLine, parseCommand, List.singleton_append,
            List.head?_cons, List.tail_cons, if_neg hRecord, List.isEmpty_cons, Bool.false_eq_true, if_false]
          rfl
      | false =>
          have hOption : some first ≠ some (wide "-exit") := fun hSame => h (Option.some.inj hSame)
          simp only [args, exitOption, parseCommandLine, parseCommand, List.nil_append, List.head?_cons,
            if_neg hRecord, List.isEmpty_cons, Bool.false_eq_true, if_false, if_neg hOption, if_true]
          rfl

/-- What is taken behind the command and the option. -/
theorem exists_of_parseCommand {exit : Bool} {command : WString} {rest : List WString} {parsed : CommandLine}
    (h : parseCommand { exitOnFinish := exit } command rest = some parsed) :
    ∃ usage : CommandLineUsage, usage.args = command :: (exitOption exit ++ rest) ∧ usage.commandLine = parsed ∧
      (exit = true ∨ rest.head? ≠ some (wide "-exit") → usage.Proper) := by
  unfold parseCommand at h
  split_ifs at h with hCapture hRecord hNone
  · split at h
    · rename_i text file
      obtain ⟨value, hValue, rfl⟩ := Option.map_eq_some_iff.mp h
      obtain ⟨duration, rfl⟩ := DurationText.exists_of_parseDuration hValue
      rw [duration.parseDuration_text] at hValue
      cases hValue
      rw [hCapture]
      exact ⟨.capture exit duration file, rfl, rfl, fun _ => trivial⟩
    · cases h
  · cases h
    cases rest with
    | nil => simp at hNone
    | cons first rest =>
        rw [hRecord]
        refine ⟨.record exit first rest, rfl, rfl, fun hHead => ?_⟩
        cases exit with
        | true => trivial
        | false =>
            intro hFirst
            exact hHead.resolve_left Bool.false_ne_true (congrArg some hFirst)

/-- What is understood was meant. -/
theorem exists_of_parseCommandLine {given : List WString} {parsed : CommandLine}
    (h : parseCommandLine given = some parsed) :
    ∃ usage : CommandLineUsage, usage.Proper ∧ usage.args = given ∧ usage.commandLine = parsed := by
  cases given with
  | nil =>
      cases h
      exact ⟨.interactive, trivial, rfl, rfl⟩
  | cons command rest =>
      simp only [parseCommandLine] at h
      split_ifs at h with hOption
      · obtain ⟨usage, hArgs, hMeant, hProper⟩ := exists_of_parseCommand h
        refine ⟨usage, hProper (Or.inl rfl), ?_, hMeant⟩
        obtain ⟨first, tail, rfl⟩ := List.exists_cons_of_ne_nil (show rest ≠ [] by rintro rfl; cases hOption)
        cases hOption
        exact hArgs
      · obtain ⟨usage, hArgs, hMeant, hProper⟩ := exists_of_parseCommand h
        exact ⟨usage, hProper (Or.inr hOption), hArgs, hMeant⟩

end CommandLineUsage

section Arrival

open CommandLineUsage GrowingBuffer

/-- The text of a command line is no longer than its arguments with three characters for each. -/
theorem commandLineText_length (usage : CommandLineUsage) :
    (commandLineText usage.commandLine).length ≤ usage.args.flatten.length + 3 * usage.args.length := by
  rw [commandLineText]
  have hJoin := Separated.join_length_le (wchar '|') (wchar ' ') usage.commandLine.captureFile
    usage.commandLine.recordFiles
  apply Nat.le_trans hJoin
  cases usage with
  | interactive => simp [commandLine, args]
  | capture exit duration file =>
      simp only [commandLine, args, List.flatten_cons, List.flatten_append, List.length_append, List.length_cons]
      simp
      omega
  | record exit first rest =>
      simp only [commandLine, args, List.flatten_cons, List.flatten_append, List.length_append, List.length_cons]
      simp
      omega

/-- Of a usage error nothing arrives. -/
theorem dvEngineParseCommandLine_none {given : List WString} (h : parseCommandLine (given.map arg) = none) :
    dvEngineParseCommandLine given = none := by
  have hDone : (parseCommandLineFiller given).fill () 1024 = (.done none, ()) := by
    show (parseCommandLineTry given 1024, ()) = _
    simp only [parseCommandLineTry, windvParseCommandLine, h]
    rfl
  rw [dvEngineParseCommandLine, Filler.read_done hDone]

/-- What arrives in the window of command lines as Windows gives them. The window gets something
exactly of those of the usage text, each for what it means, with the exact duration. -/
theorem command_line_arrives {given : List WString} (hNull : ∀ argument ∈ given, (0 : WChar) ∉ argument)
    (hSize : given.flatten.length + 3 * given.length + 1 < 2 ^ 31) :
    (∀ parsed, dvEngineParseCommandLine given = some parsed ↔
      ∃ usage : CommandLineUsage, usage.Proper ∧ usage.args = given ∧
        toParsedCommandLine usage.commandLine = parsed) ∧
    ∀ exit (duration : DurationText) file, args (.capture exit duration file) = given →
      duration.units < 2 ^ 63 → ∃ parsed, dvEngineParseCommandLine given = some parsed ∧
        parsed.mode = .capture ∧ parsed.exitOnFinish = exit ∧ parsed.duration.toInt = duration.units ∧
        parsed.files = file := by
  have hGiven : given.map arg = given := by
    rw [List.map_congr_left fun argument hArgument => arg_of_no_null (hNull argument hArgument), List.map_id']
  have hArrives : ∀ usage : CommandLineUsage, usage.Proper → usage.args = given →
      dvEngineParseCommandLine given = some (toParsedCommandLine usage.commandLine) := by
    intro usage hProper hArgs
    apply dvEngineParseCommandLine_eq
    · rw [hGiven, ← hArgs]
      exact parseCommandLine_args hProper
    · have hLength := commandLineText_length usage
      rw [hArgs] at hLength
      omega
  constructor
  · intro parsed
    constructor
    · intro hParsed
      cases hTaken : parseCommandLine (given.map arg) with
      | none =>
          rw [dvEngineParseCommandLine_none hTaken] at hParsed
          cases hParsed
      | some commandLine =>
          rw [hGiven] at hTaken
          obtain ⟨usage, hProper, hArgs, -⟩ := exists_of_parseCommandLine hTaken
          refine ⟨usage, hProper, hArgs, ?_⟩
          rw [hArrives usage hProper hArgs] at hParsed
          exact Option.some.inj hParsed
    · rintro ⟨usage, hProper, hArgs, rfl⟩
      exact hArrives usage hProper hArgs
  · intro exit duration file hArgs hUnits
    have hNonneg := duration.units_nonneg
    refine ⟨_, hArrives (.capture exit duration file) trivial hArgs, rfl, rfl, ?_, rfl⟩
    exact Int64.toInt_ofInt_of_le (by omega) hUnits

/-- Half a minute. -/
def thirtySeconds : DurationText :=
  ⟨.seconds ⟨wide "30", ⟨by decide, by decide, List.all_eq_true.mp (by decide)⟩⟩, none⟩

/-- A capture of half a minute that ends WinDV. -/
theorem command_line_arrives_capture :
    ∃ parsed, dvEngineParseCommandLine [wide "capture", wide "-exit", wide "30", wide "tape"] = some parsed ∧
      parsed.mode = .capture ∧ parsed.exitOnFinish = true ∧ parsed.duration.toInt = 300000000 ∧
      parsed.files = wide "tape" := by
  have hNull : ∀ argument ∈ [wide "capture", wide "-exit", wide "30", wide "tape"], (0 : WChar) ∉ argument := by
    decide
  obtain ⟨parsed, hParsed, hMode, hExit, hUnits, hFiles⟩ :=
    (command_line_arrives hNull (by decide)).2 true thirtySeconds (wide "tape") rfl (by decide)
  exact ⟨parsed, hParsed, hMode, hExit, hUnits.trans (by decide), hFiles⟩

end Arrival

end WinDV
