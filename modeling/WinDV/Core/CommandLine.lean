import WinDV.Core.WideString

/-! Parsing WinDV's command line. -/
namespace WinDV

/-- `kUnitsPerSecond`. -/
def kUnitsPerSecond : Int64 := 10000000

/-- `kMaxFieldDigits`. -/
def kMaxFieldDigits : Nat := 9

/-- `ParseField`. -/
def parseField (text : WString) : Option Int64 :=
  if text.isEmpty || kMaxFieldDigits < text.length then none
  else if text.all isDigit then
    some (text.foldl (fun value c => value * 10 + Int64.ofNat (digitValue c)) 0)
  else none

/-- The part of a duration after the dot: each digit counts a tenth of the one
before, down to nothing. -/
def parseFraction (digits : WString) : Option Int64 :=
  if digits.all isDigit then
    some (digits.foldl (fun (sum : Int64 × Int64) c =>
      (sum.1 + sum.2 * Int64.ofNat (digitValue c), sum.2 / 10)) (0, kUnitsPerSecond / 10)).1
  else none

/-- The loop over the fields between colons, after `fields` of them. -/
def parseFields (fields : Nat) (seconds : Int64) (text : WString) : Option Int64 :=
  let colon := text.findIdx? (· == wchar ':')
  match parseField (match colon with | some i => text.take i | none => text) with
  | none => none
  | some field =>
      if _h : fields + 1 > 3 then none
      else
        match colon with
        | none => some (seconds * 60 + field)
        | some i => parseFields (fields + 1) (seconds * 60 + field) (text.drop (i + 1))
termination_by 3 - fields

/-- `ParseDuration`. -/
def parseDuration (text : WString) : Option Int64 :=
  match text.findIdx? (· == wchar '.') with
  | none => (parseFields 0 0 text).map fun seconds => seconds * kUnitsPerSecond + 0
  | some dot =>
      match parseFraction (text.drop (dot + 1)) with
      | none => none
      | some fraction =>
          (parseFields 0 0 (text.take dot)).map fun seconds => seconds * kUnitsPerSecond + fraction

/-- `CommandLine::Mode`. -/
inductive CommandLineMode where
  | interactive
  | capture
  | record
  deriving DecidableEq, Repr

/-- `CommandLine`. -/
structure CommandLine where
  mode : CommandLineMode := .interactive
  exitOnFinish : Bool := false
  duration : Int64 := 0
  captureFile : WString := []
  recordFiles : List WString := []
  deriving DecidableEq, Repr

/-- `ParseCommandLine`, behind the command and `-exit`. -/
def parseCommand (result : CommandLine) (command : WString) (args : List WString) : Option CommandLine :=
  if command = wide "capture" then
    match args with
    | [duration, file] =>
        (parseDuration duration).map fun duration =>
          { result with mode := .capture, duration := duration, captureFile := file }
    | _ => none
  else if command = wide "record" then
    if args.isEmpty then none else some { result with mode := .record, recordFiles := args }
  else none

/-- `ParseCommandLine`. -/
def parseCommandLine : List WString → Option CommandLine
  | [] => some {}
  | command :: args =>
      if args.head? = some (wide "-exit") then parseCommand { exitOnFinish := true } command args.tail
      else parseCommand {} command args

/-- A command line that records has no capture file, and its files are among the
arguments. -/
theorem parseCommand_record {result commandLine : CommandLine} {command : WString} {args : List WString}
    (h : parseCommand result command args = some commandLine) (hMode : commandLine.mode = .record)
    (hCapture : result.captureFile = []) :
    commandLine.captureFile = [] ∧ commandLine.recordFiles = args := by
  unfold parseCommand at h
  split_ifs at h with hCommand hRecord hNone
  · split at h
    · obtain ⟨duration, -, rfl⟩ := Option.map_eq_some_iff.mp h
      cases hMode
    · cases h
  · cases h
    exact ⟨hCapture, rfl⟩

theorem parseCommandLine_record {args : List WString} {commandLine : CommandLine}
    (h : parseCommandLine args = some commandLine) (hMode : commandLine.mode = .record) :
    commandLine.captureFile = [] ∧ ∀ file ∈ commandLine.recordFiles, file ∈ args := by
  cases args with
  | nil =>
      cases h
      cases hMode
  | cons command rest =>
      simp only [parseCommandLine] at h
      split_ifs at h
      · obtain ⟨hCapture, hFiles⟩ := parseCommand_record h hMode rfl
        refine ⟨hCapture, fun file hFile => ?_⟩
        rw [hFiles] at hFile
        exact List.mem_cons_of_mem _ (List.mem_of_mem_tail hFile)
      · obtain ⟨hCapture, hFiles⟩ := parseCommand_record h hMode rfl
        refine ⟨hCapture, fun file hFile => ?_⟩
        rw [hFiles] at hFile
        exact List.mem_cons_of_mem _ hFile

end WinDV
