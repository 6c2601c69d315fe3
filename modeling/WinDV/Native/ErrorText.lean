import WinDV.Native.CopyOut

/-! The way of an error text to the user: stored by a failed call or by a worker,
handed out once by `windv_take_error`, read by `ReadString`. The hand-over clears
the text also when the buffer was too small for it. -/
namespace WinDV

open GrowingBuffer

/-- The two places a text waits in: `windv_engine::m_callError`, and `m_error` of
the `DVEngine` while there is one. -/
structure ErrorPlaces where
  callError : WString := []
  engineError : Option WString := some []
  deriving DecidableEq, Repr

inductive NativeResult where
  | ok
  | failed
  | deviceNotFound
  | invalidArgument
  | bufferTooSmall
  | usageError
  deriving DecidableEq, Repr

/-- How C# writes the member out. -/
def NativeResult.name : NativeResult → WString
  | .ok => wide "Ok"
  | .failed => wide "Failed"
  | .deviceNotFound => wide "DeviceNotFound"
  | .invalidArgument => wide "InvalidArgument"
  | .bufferTooSmall => wide "BufferTooSmall"
  | .usageError => wide "UsageError"

/-- How the action of a `Call` ends; `what` is already widened. -/
inductive ActionEnd where
  | returned
  | dshowError (message : WString) (deviceNotFound : Bool)
  | stdException (what : WString)
  | otherException
  deriving DecidableEq, Repr

structure EngineException where
  message : WString
  deviceNotFound : Bool
  deriving DecidableEq, Repr

namespace ErrorPlaces

/-- `windv_engine::SetError`. -/
def setError (s : ErrorPlaces) (message : WString) : ErrorPlaces := { s with callError := message }

/-- `DVEngine::ReportError`: the first error stays. -/
def reportError (s : ErrorPlaces) (message : WString) : ErrorPlaces :=
  if s.engineError = some [] then { s with engineError := some message } else s

/-- `windv_engine::Call`. -/
def call (s : ErrorPlaces) (action : ActionEnd) : NativeResult × ErrorPlaces :=
  match if s.engineError.isNone then .dshowError (wide "The engine is not running") false else action with
  | .returned => (.ok, s)
  | .dshowError message deviceNotFound =>
      (if deviceNotFound then .deviceNotFound else .failed, s.setError message)
  | .stdException what => (.failed, s.setError what)
  | .otherException => (.failed, s.setError (wide "Unexpected error"))

/-- `windv_engine::TakeError`. -/
def takeError (s : ErrorPlaces) : WString × ErrorPlaces :=
  if !s.callError.isEmpty then (s.callError, { s with callError := [] })
  else
    match s.engineError with
    | some message => (message, { s with engineError := some [] })
    | none => ([], s)

/-- `windv_take_error`. -/
def windvTakeError (s : ErrorPlaces) (buffer : WString) : (Int32 × WString) × ErrorPlaces :=
  (copyOut s.takeError.1 buffer, s.takeError.2)

/-- `DvEngine.TakeError`. -/
def dvEngineTakeError (s : ErrorPlaces) : WString × ErrorPlaces := readString windvTakeError s

/-- `DvEngine.Check`. -/
def check (s : ErrorPlaces) (result : NativeResult) : Option EngineException × ErrorPlaces :=
  if result = .ok then (none, s)
  else
    let (message, next) := s.dvEngineTakeError
    let message :=
      if message.length = 0 then wide "The DV engine reported an error (" ++ result.name ++ wide ")."
      else message
    (some { message := message, deviceNotFound := result = .deviceNotFound }, next)

/-- `DvEngine.Raise` for `NativeEvent.Error`: the text of the `Error` event, if
it is raised. -/
def raiseError (s : ErrorPlaces) : Option WString × ErrorPlaces :=
  let (message, next) := s.dvEngineTakeError
  (if 0 < message.length then some message else none, next)

/-- The text reaches the user: `TakeError` returns it, `Check` throws it and
`Raise` forwards it. -/
structure Reaches (s : ErrorPlaces) (text : WString) : Prop where
  taken : s.dvEngineTakeError.1 = text
  thrown : ∀ result, result ≠ .ok → ∃ e, (s.check result).1 = some e ∧ e.message = text
  forwarded : s.raiseError.1 = some text

/-- The text handed out next. -/
def waiting (s : ErrorPlaces) : WString := s.takeError.1

/-- The text handed out after that. -/
def behind (s : ErrorPlaces) : WString := s.takeError.2.takeError.1

/-- The text in question is not empty, and it is the next one and fits the first
buffer; or the next one does not, is dropped, and the text fits the buffer that
was made for the dropped one. -/
def Fits (s : ErrorPlaces) (text : WString) : Prop :=
  text ≠ [] ∧
  ((neededSize s.waiting).toInt ≤ 512 ∧ copied s.waiting = text ∨
    512 < (neededSize s.waiting).toInt ∧
      (neededSize s.behind).toInt ≤ (neededSize s.waiting).toInt ∧ copied s.behind = text)

section Places

variable {s : ErrorPlaces} {text : WString}

/-- A text that a failed call has stored is the next one handed out. -/
theorem waiting_setError (h : text ≠ []) : (s.setError text).waiting = text := by
  have hSome : (!text.isEmpty) = true := by simpa using h
  rw [waiting, takeError, setError, if_pos hSome]

/-- So is one a worker has reported, unless a call has failed as well. -/
theorem waiting_reportError (hCall : s.callError = []) (hFirst : s.engineError = some []) :
    (s.reportError text).waiting = text := by
  simp [waiting, takeError, reportError, hCall, hFirst]

/-- There are two places, so a third text is never found. -/
theorem takeError_third : s.takeError.2.takeError.2.takeError.1 = [] := by
  obtain ⟨callError, engineError⟩ := s
  cases callError <;> cases engineError <;> rfl

/-- A text of a failed call that the first buffer has room for. -/
theorem fits_setError (hText : text ≠ []) (hShort : text.length < 512) : (s.setError text).Fits text := by
  have hNeeded : (neededSize text).toInt = text.length + 1 := neededSize_of_lt (by omega)
  refine ⟨hText, Or.inl ?_⟩
  rw [waiting_setError hText]
  exact ⟨by omega, copied_of_lt (by omega)⟩

end Places

section Taking

variable {s : ErrorPlaces} {text : WString}

/-- One turn of `ReadString` over `windv_take_error` always uses the text up. -/
theorem takeError_try (s : ErrorPlaces) (length : Nat) :
    (readStringFiller windvTakeError).fill s length =
      (if (neededSize s.waiting).toInt ≤ length then .done (copied s.waiting)
        else .tooSmall (neededSize s.waiting).toInt.toNat, s.takeError.2) :=
  readStringTry_copyOut (fun _ => rfl) length

/-- A text that fits the first buffer. -/
theorem take_first (h : (neededSize s.waiting).toInt ≤ 512) :
    s.dvEngineTakeError.1 = copied s.waiting := by
  have hTry := takeError_try s 512
  rw [if_pos (by exact h)] at hTry
  rw [dvEngineTakeError, readString, Filler.read_done hTry]

/-- One that does not is gone, and what waited behind it is read instead. -/
theorem take_second (h : 512 < (neededSize s.waiting).toInt) :
    s.dvEngineTakeError.1 =
      if (neededSize s.behind).toInt ≤ (neededSize s.waiting).toInt then copied s.behind else [] := by
  have hNat : ((neededSize s.waiting).toInt.toNat : Int) = (neededSize s.waiting).toInt := by omega
  have hFirst := takeError_try s 512
  rw [if_neg (by exact not_le.mpr h)] at hFirst
  have hSecond := takeError_try s.takeError.2 (neededSize s.waiting).toInt.toNat
  rw [hNat] at hSecond
  rw [dvEngineTakeError, readString, Filler.read_tooSmall hFirst]
  split_ifs with hFits
  · rw [if_pos (by exact hFits)] at hSecond
    rw [Filler.read_done hSecond]
    rfl
  · rw [if_neg (by exact hFits)] at hSecond
    have hEmpty : waiting s.takeError.2.takeError.2 = [] := takeError_third
    have hThird := takeError_try s.takeError.2.takeError.2 (neededSize s.behind).toInt.toNat
    have hOne : (neededSize []).toInt = 1 := by decide
    rw [hEmpty, hOne, if_pos (by omega)] at hThird
    rw [Filler.read_tooSmall hSecond]
    exact congrArg Prod.fst (Filler.read_done hThird)

/-- `Check` and `Raise` pass on what `TakeError` returns, if there is anything. -/
theorem reaches_iff : s.Reaches text ↔ text ≠ [] ∧ s.dvEngineTakeError.1 = text := by
  constructor
  · intro h
    have hRaised := h.forwarded
    simp only [raiseError] at hRaised
    split_ifs at hRaised with hSome
    refine ⟨?_, h.taken⟩
    rw [← h.taken]
    exact List.ne_nil_of_length_pos hSome
  · rintro ⟨hText, hTaken⟩
    have hPos : 0 < text.length := List.length_pos_of_ne_nil hText
    refine ⟨hTaken, fun result hResult => ?_, ?_⟩
    · refine ⟨_, by simp only [check, if_neg hResult]; rfl, ?_⟩
      show (if s.dvEngineTakeError.1.length = 0 then _ else s.dvEngineTakeError.1) = text
      rw [hTaken, if_neg hPos.ne']
    · simp only [raiseError]
      rw [hTaken, if_pos hPos]

/-- A text longer than the first buffer, with nothing behind it, is lost. -/
theorem long_text_lost (hNext : s.waiting = text) (hLong : 512 < (neededSize text).toInt)
    (hBehind : s.behind = []) : s.dvEngineTakeError.1 = [] := by
  rw [take_second (by rwa [hNext]), hBehind]
  split_ifs <;> rfl

end Taking

/-- Exactly which texts reach the user, whatever the two places hold. -/
theorem reaches_user_iff (s : ErrorPlaces) (text : WString) : s.Reaches text ↔ s.Fits text := by
  rw [reaches_iff, Fits]
  refine and_congr_right fun hText => ?_
  by_cases hFirst : (neededSize s.waiting).toInt ≤ 512
  · rw [take_first hFirst]
    simp [hFirst, not_lt.mpr hFirst]
  · have hLong := not_le.mp hFirst
    rw [take_second hLong]
    simp only [hFirst, hLong, false_and, true_and, false_or]
    split_ifs with hRoom
    · simp [hRoom]
    · simp [hRoom, Ne.symm hText]

/-- The message of the exception of a failed call: the text that reaches the user, or only the
name of the result. -/
theorem check_message {s : ErrorPlaces} {result : NativeResult} {e : EngineException}
    (h : (s.check result).1 = some e) :
    (∀ text, s.Fits text → e.message = text) ∧
      ((∀ text, ¬ s.Fits text) →
        e.message = wide "The DV engine reported an error (" ++ result.name ++ wide ").") := by
  have hResult : result ≠ .ok := by
    rintro rfl
    cases h
  constructor
  · intro text hFits
    obtain ⟨other, hThrown, hMessage⟩ := ((reaches_user_iff s text).mpr hFits).thrown result hResult
    obtain rfl := Option.some.inj (h.symm.trans hThrown)
    exact hMessage
  · intro hNone
    have hTaken : s.dvEngineTakeError.1 = [] := by
      by_contra hSome
      exact hNone _ ((reaches_user_iff s _).mp (reaches_iff.mpr ⟨hSome, rfl⟩))
    rw [check, if_neg hResult] at h
    obtain rfl := Option.some.inj h
    exact if_pos (congrArg List.length hTaken)

/-- A message of a worker that quotes two paths of 259 characters. -/
def renameMessage : WString :=
  wide "Can't rename " ++ List.replicate 259 (wchar 'a') ++ wide " to " ++ List.replicate 259 (wchar 'b')

/-- Such a message, reported while nothing else waits, never reaches the user. -/
theorem rename_message_lost :
    (reportError {} renameMessage).engineError = some renameMessage ∧
      (reportError {} renameMessage).dvEngineTakeError.1 = [] ∧
      ¬ (reportError {} renameMessage).Reaches renameMessage := by
  have hLost : (reportError {} renameMessage).dvEngineTakeError.1 = [] := by
    apply long_text_lost (waiting_reportError rfl rfl)
    · decide +kernel
    · rfl
  refine ⟨rfl, hLost, fun hReaches => ?_⟩
  have hEmpty : renameMessage = [] := hReaches.taken.symm.trans hLost
  exact absurd (congrArg List.length hEmpty) (by decide +kernel)

end ErrorPlaces

end WinDV
