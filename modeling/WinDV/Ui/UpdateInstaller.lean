import WinDV.Library.Dialogue
import WinDV.Ui.UpdateChecker

/-! The download of an update. The network and the disk answer as they like; the
URLs that are asked for, and what the returned file holds, are read off the
questions and answers. -/
namespace WinDV

open Dialogue

/-- What is used of an `HttpResponseMessage`: `content` is the whole body. -/
structure HttpResponse where
  statusCode : Int
  location : Option Uri := none
  content : List UInt8 := []
  deriving DecidableEq, Repr

/-- What a download asks of the network and the disk. -/
inductive DownloadQuery where
  | enumerateFiles (searchPattern : WString)
  | tempFile
  | getAsync (url : Uri)
  | readAsStreamAsync (response : HttpResponse)
  | create (path : WString)
  | copyToAsync (source : HttpResponse) (path : WString)
  | disposeAsync (path : WString)
  | fileExists (path : WString)
  | delete (path : WString)

namespace DownloadQuery

/-- Anything can fail. An enumeration can after some files, a copy after some bytes. -/
@[reducible] def Answer : DownloadQuery → Type
  | enumerateFiles _ => List WString × Option DownloadException
  | tempFile => Except DownloadException WString
  | getAsync _ => Except DownloadException HttpResponse
  | readAsStreamAsync _ => Except DownloadException Unit
  | create _ => Except DownloadException Unit
  | copyToAsync _ _ => Except (DownloadException × Nat) Unit
  | disposeAsync _ => Except DownloadException Unit
  | fileExists _ => Except DownloadException Bool
  | delete _ => Except DownloadException Unit

end DownloadQuery

/-- Code that downloads. -/
abbrev Download := Dialogue DownloadException DownloadQuery DownloadQuery.Answer

abbrev DownloadTrace := Trace DownloadQuery.Answer

/-- `MaxRedirects`. -/
def maxRedirects : Nat := 5

/-- `IsRedirect`: MovedPermanently, Found, SeeOther, TemporaryRedirect, PermanentRedirect. -/
def isRedirect (statusCode : Int) : Bool :=
  statusCode = 301 || statusCode = 302 || statusCode = 303 || statusCode = 307 || statusCode = 308

/-- `IsSuccessStatusCode`. -/
def isSuccessStatusCode (statusCode : Int) : Bool := 200 ≤ statusCode && statusCode ≤ 299

/-- `EnsureSuccessStatusCode`. -/
def ensureSuccessStatusCode (response : HttpResponse) : Download HttpResponse :=
  if isSuccessStatusCode response.statusCode then return response
  else .fail (.unsuccessful response.statusCode)

/-- `TryDeleteFile`. -/
def tryDeleteFile (path : WString) : Download Unit :=
  if path.isEmpty then return
  else
    Dialogue.catching
      (do
        if ← .ask (.fileExists path) ofExcept then
          .ask (.delete path) ofExcept)
      fun _ => return

/-- The loop of `DeleteStaleDownloads`. -/
def tryDeleteFiles : List WString → Download Unit
  | [] => return
  | file :: rest => do
      tryDeleteFile file
      tryDeleteFiles rest

/-- `DeleteStaleDownloads`. -/
def deleteStaleDownloads : Download Unit := do
  let (files, failure) ← .ask (.enumerateFiles (wide "WinDV-Update-*.exe")) .done
  tryDeleteFiles files
  match failure with
  | none => return
  -- Best-effort cleanup.
  | some .io => return
  | some .unauthorizedAccess => return
  | some e => .fail e

/-- `location.IsAbsoluteUri ? location : new Uri(url, location)`, with the constructor
as `newUri`. -/
def resolve (newUri : Uri → Uri → Except DownloadException Uri) (url location : Uri) :
    Except DownloadException Uri :=
  if location.isAbsoluteUri then .ok location else newUri url location

/-- The end of the loop of `GetFollowingRedirectsAsync`: the URL of the next request. -/
def redirectedUrl (cf : CaseFold) (newUri : Uri → Uri → Except DownloadException Uri) (url : Uri)
    (response : HttpResponse) : Except DownloadException Uri :=
  match response.location with
  | none => .error (.httpRequest (wide "Redirect without a location."))
  | some location => do
      let url ← resolve newUri url location
      if ← isValidAssetUrl cf (some url) then return url
      else .error (.httpRequest (wide "Update download redirected to an untrusted URL."))

/-- `GetFollowingRedirectsAsync`, with so many requests left. -/
def getFollowingRedirectsAsync (cf : CaseFold) (newUri : Uri → Uri → Except DownloadException Uri) :
    Nat → Uri → Download HttpResponse
  | 0, _ => .fail (.httpRequest (wide "Too many redirects."))
  | left + 1, url => do
      let response ← .ask (.getAsync url) ofExcept
      if isRedirect response.statusCode then
        let url ← ofExcept (redirectedUrl cf newUri url response)
        getFollowingRedirectsAsync cf newUri left url
      else ensureSuccessStatusCode response

/-- The body of the `try` of `DownloadAsync`, behind the response. -/
def saveResponse (response : HttpResponse) (path : WString) : Download WString := do
  .ask (.readAsStreamAsync response) ofExcept
  .ask (.create path) ofExcept
  Dialogue.finishing
    (.ask (.copyToAsync response path) fun answer => ofExcept (answer.mapError Prod.fst))
    (.ask (.disposeAsync path) ofExcept)
  return path

/-- `DownloadAsync`. -/
def downloadAsync (cf : CaseFold) (newUri : Uri → Uri → Except DownloadException Uri) (assetUrl : Uri) :
    Download WString := do
  if ← ofExcept (isValidAssetUrl cf (some assetUrl)) then
    deleteStaleDownloads
    let path ← .ask .tempFile ofExcept
    Dialogue.catching
      (do
        let response ← getFollowingRedirectsAsync cf newUri (maxRedirects + 1) assetUrl
        saveResponse response path)
      fun e => do
        tryDeleteFile path
        .fail e
  else .fail (.argument (wide "Untrusted or invalid update URL.") (wide "assetUrl"))

/-- A request and its answer. -/
abbrev Exchange := Uri × Except DownloadException HttpResponse

/-- The requests of a trace, in their order. -/
def exchanges (trace : DownloadTrace) : List Exchange :=
  trace.filterMap fun
    | ⟨.getAsync url, answer⟩ => some (url, answer)
    | _ => none

/-- What a file holds after a question. -/
def diskStep (path : WString) (held : Option (List UInt8)) :
    Sigma DownloadQuery.Answer → Option (List UInt8)
  | ⟨.create own, .ok _⟩ => if own = path then some [] else held
  | ⟨.copyToAsync source own, .ok _⟩ => if own = path then some source.content else held
  | ⟨.copyToAsync source own, .error (_, written)⟩ =>
      if own = path then some (source.content.take written) else held
  | ⟨.delete own, .ok _⟩ => if own = path then none else held
  | _ => held

/-- What a file holds at the end of a trace. -/
def onDisk (path : WString) (trace : DownloadTrace) : Option (List UInt8) :=
  trace.foldl (diskStep path) none

/-- A question that is no request. -/
def DownloadQuery.Local (query : DownloadQuery) : Prop := ∀ url, query ≠ .getAsync url

theorem exchanges_append (past more : DownloadTrace) :
    exchanges (past ++ more) = exchanges past ++ exchanges more :=
  List.filterMap_append

theorem exchanges_local {more : DownloadTrace} (h : ∀ event ∈ more, event.1.Local) :
    exchanges more = [] := by
  apply List.filterMap_eq_nil_iff.mpr
  rintro ⟨query, answer⟩ hEvent
  cases query with
  | getAsync url => exact absurd rfl (h _ hEvent url)
  | _ => rfl

/-- Code without requests adds none. -/
theorem always_local {α : Type} {program : Download α} (h : program.Asks DownloadQuery.Local)
    (past : DownloadTrace) : Always (fun after _ => exchanges after = exchanges past) past program := by
  apply (h.always past).mono
  rintro after result ⟨more, rfl, hMore⟩
  rw [exchanges_append, exchanges_local hMore, List.append_nil]

theorem tryDeleteFile_local (path : WString) : (tryDeleteFile path).Asks DownloadQuery.Local := by
  rw [tryDeleteFile]
  split_ifs with hEmpty
  · exact trivial
  · apply Asks.catching
    · refine ⟨nofun, fun answer => (Asks.ofExcept answer).bind fun found => ?_⟩
      cases found with
      | false => exact trivial
      | true => exact ⟨nofun, fun deleted => Asks.ofExcept deleted⟩
    · exact fun _ => trivial

theorem deleteStaleDownloads_local : deleteStaleDownloads.Asks DownloadQuery.Local := by
  have hFiles : ∀ files, (tryDeleteFiles files).Asks DownloadQuery.Local := by
    intro files
    induction files with
    | nil => exact trivial
    | cons file rest ih => exact (tryDeleteFile_local file).bind fun _ => ih
  refine ⟨nofun, fun answer => ?_⟩
  obtain ⟨files, failure⟩ := answer
  apply (hFiles files).bind
  intro result
  cases failure with
  | none => exact trivial
  | some e => cases e <;> exact trivial

/-- Few requests, and all to allowed hosts. -/
structure Allowed (cf : CaseFold) (limit : Nat) (requests : List Exchange) : Prop where
  trusted : ∀ exchange ∈ requests, exchange.1.Trusted cf
  few : requests.length ≤ limit

/-- What the redirect loop leaves behind: a response is that of its last request, final
and successful. -/
structure Fetched (cf : CaseFold) (limit : Nat) (requests : List Exchange)
    (result : Except DownloadException HttpResponse) : Prop where
  allowed : Allowed cf limit requests
  last : ∀ response, result = .ok response → ∃ url, requests.getLast? = some (url, .ok response)
  success : ∀ response, result = .ok response →
    isSuccessStatusCode response.statusCode = true ∧ isRedirect response.statusCode = false

section Redirects

variable {cf : CaseFold} {newUri : Uri → Uri → Except DownloadException Uri} {limit : Nat}
  {url : Uri} {answer : Except DownloadException HttpResponse}

theorem Allowed.nil : Allowed cf limit [] where
  trusted := by simp
  few := Nat.zero_le _

theorem Allowed.cons {requests : List Exchange} (h : Allowed cf limit requests) (hUrl : url.Trusted cf) :
    Allowed cf (limit + 1) ((url, answer) :: requests) where
  trusted := by
    intro exchange hExchange
    rcases List.mem_cons.mp hExchange with rfl | hRest
    · exact hUrl
    · exact h.trusted exchange hRest
  few := Nat.succ_le_succ h.few

theorem Fetched.failed {requests : List Exchange} (h : Allowed cf limit requests) (e : DownloadException) :
    Fetched cf limit requests (.error e) where
  allowed := h
  last := nofun
  success := nofun

/-- A request, and the rest of the loop. -/
theorem Fetched.cons {requests : List Exchange} {result : Except DownloadException HttpResponse}
    (h : Fetched cf limit requests result) (hUrl : url.Trusted cf) :
    Fetched cf (limit + 1) ((url, answer) :: requests) result where
  allowed := h.allowed.cons hUrl
  last := by
    intro response hResult
    obtain ⟨final, hLast⟩ := h.last response hResult
    refine ⟨final, ?_⟩
    rw [List.getLast?_cons, hLast]
    rfl
  success := h.success

/-- What the loop has added to the earlier requests when it ends. -/
def Fetches (cf : CaseFold) (limit : Nat) (earlier : List Exchange) (after : DownloadTrace)
    (result : Except DownloadException HttpResponse) : Prop :=
  ∃ requests, exchanges after = earlier ++ requests ∧ Fetched cf limit requests result

/-- `EnsureSuccessStatusCode` behind a response that is no redirect. -/
theorem fetches_ensured {response : HttpResponse} {earlier : List Exchange} {past : DownloadTrace}
    (hPast : exchanges past = earlier ++ [(url, .ok response)]) (hUrl : url.Trusted cf)
    (hRedirect : isRedirect response.statusCode = false) :
    Always (Fetches cf (limit + 1) earlier) past (ensureSuccessStatusCode response) := by
  rw [ensureSuccessStatusCode]
  split_ifs with hSuccess
  · refine ⟨_, hPast, Allowed.nil.cons hUrl, ?_, ?_⟩
    · rintro result ⟨⟩
      exact ⟨url, rfl⟩
    · rintro result ⟨⟩
      exact ⟨hSuccess, hRedirect⟩
  · exact ⟨_, hPast, Fetched.failed (Allowed.nil.cons hUrl) _⟩

/-- A redirect is followed to a URL that passes the check. -/
theorem redirectedUrl_trusted {response : HttpResponse} {next : Uri}
    (h : redirectedUrl cf newUri url response = .ok next) : next.Trusted cf := by
  rw [redirectedUrl] at h
  cases hLocation : response.location with
  | none =>
      rw [hLocation] at h
      cases h
  | some location =>
      rw [hLocation] at h
      obtain ⟨reached, -, hReached⟩ := ok_of_bind h
      obtain ⟨valid, hValid, hEnd⟩ := ok_of_bind hReached
      cases valid with
      | false => cases hEnd
      | true =>
          obtain rfl : reached = next := Except.ok.inj hEnd
          exact (isValidAssetUrl_iff cf reached).mp hValid

/-- The loop, whatever the network answers: a URL is checked before it is asked for. -/
theorem getFollowingRedirects_fetches (hUrl : url.Trusted cf) (past : DownloadTrace) :
    Always (Fetches cf limit (exchanges past)) past (getFollowingRedirectsAsync cf newUri limit url) := by
  induction limit generalizing url past with
  | zero => exact ⟨[], (List.append_nil _).symm, Fetched.failed Allowed.nil _⟩
  | succ left ih =>
      intro answer
      -- The trace with the request of this hop.
      have hHere : exchanges (past ++ [⟨.getAsync url, answer⟩]) = exchanges past ++ [(url, answer)] :=
        exchanges_append past _
      cases answer with
      | error e => exact ⟨_, hHere, Fetched.failed (Allowed.nil.cons hUrl) e⟩
      | ok response =>
          show Always _ _ (if isRedirect response.statusCode = true then
            (ofExcept (redirectedUrl cf newUri url response)).bind (getFollowingRedirectsAsync cf newUri left)
            else ensureSuccessStatusCode response)
          split_ifs with hRedirect
          · cases hNext : redirectedUrl cf newUri url response with
            | error e => exact ⟨_, hHere, Fetched.failed (Allowed.nil.cons hUrl) e⟩
            | ok next =>
                apply (ih (redirectedUrl_trusted hNext) _).mono
                rintro after result ⟨requests, hAfter, hRest⟩
                refine ⟨(url, .ok response) :: requests, ?_, hRest.cons hUrl⟩
                rw [hAfter, hHere]
                simp
          · exact fetches_ensured hHere hUrl (by simpa using hRedirect)

end Redirects

theorem saveResponse_local (response : HttpResponse) (path : WString) :
    (saveResponse response path).Asks DownloadQuery.Local := by
  refine ⟨nofun, fun read => (Asks.ofExcept read).bind fun _ => ?_⟩
  refine ⟨nofun, fun created => (Asks.ofExcept created).bind fun _ => ?_⟩
  have hCopy : (Dialogue.finishing
      (.ask (.copyToAsync response path) fun answer => ofExcept (answer.mapError Prod.fst))
      (.ask (.disposeAsync path) ofExcept) : Download Unit).Asks DownloadQuery.Local :=
    Asks.finishing ⟨nofun, fun _ => Asks.ofExcept _⟩ ⟨nofun, Asks.ofExcept⟩
  exact hCopy.bind fun _ => trivial

/-- A response that was saved is on the disk, all of it. -/
theorem saveResponse_onDisk (response : HttpResponse) (path : WString) (past : DownloadTrace) :
    Always (fun after result => ∀ saved, result = .ok saved →
      saved = path ∧ onDisk path after = some response.content) past (saveResponse response path) := by
  intro read
  cases read with
  | error e => exact nofun
  | ok _ =>
      intro created
      cases created with
      | error e => exact nofun
      | ok _ =>
          intro copied
          cases copied with
          | error e =>
              intro disposed
              cases disposed <;> exact nofun
          | ok _ =>
              intro disposed
              cases disposed with
              | error e => exact nofun
              | ok _ =>
                  rintro saved ⟨⟩
                  simp [onDisk, diskStep]

/-- The URLs that were asked for. -/
def requested (trace : DownloadTrace) : List Uri := (exchanges trace).map Prod.fst

/-- The file is the body of the last response, which is a success and no redirect. -/
structure Received (trace : DownloadTrace) (path : WString) (url : Uri) (response : HttpResponse) :
    Prop where
  last : (exchanges trace).getLast? = some (url, .ok response)
  success : isSuccessStatusCode response.statusCode = true
  final : isRedirect response.statusCode = false
  saved : onDisk path trace = some response.content

/-- How a download may end. -/
structure Downloaded (cf : CaseFold) (trace : DownloadTrace) (result : Except DownloadException WString) :
    Prop where
  allowed : Allowed cf (maxRedirects + 1) (exchanges trace)
  received : ∀ path, result = .ok path → ∃ url response, Received trace path url response

section Download

variable {cf : CaseFold} {newUri : Uri → Uri → Except DownloadException Uri} {assetUrl : Uri}
  {past : DownloadTrace}

theorem Downloaded.failed (h : Allowed cf (maxRedirects + 1) (exchanges past)) (e : DownloadException) :
    Downloaded cf past (.error e) where
  allowed := h
  received := nofun

/-- A download that fails before its first request. -/
theorem Downloaded.unasked (h : exchanges past = []) (e : DownloadException) :
    Downloaded cf past (.error e) := by
  apply Downloaded.failed
  rw [h]
  exact Allowed.nil

/-- The cleanup of a failed download adds no request. -/
theorem Downloaded.cleanup {e : DownloadException} (h : Downloaded cf past (.error e)) (path : WString) :
    Always (Downloaded cf) past (do tryDeleteFile path; .fail e : Download WString) := by
  have hAllowed : ∀ after, exchanges after = exchanges past →
      Allowed cf (maxRedirects + 1) (exchanges after) := by
    intro after hSame
    rw [hSame]
    exact h.allowed
  apply Always.bind (always_local (tryDeleteFile_local path) past)
  · exact fun after _ hSame => Downloaded.failed (hAllowed after hSame) e
  · exact fun after error hSame => Downloaded.failed (hAllowed after hSame) error

/-- The body of the `try`. -/
theorem downloaded_try (hUrl : assetUrl.Trusted cf) (hPast : exchanges past = []) (path : WString) :
    Always (Downloaded cf) past (do
      let response ← getFollowingRedirectsAsync cf newUri (maxRedirects + 1) assetUrl
      saveResponse response path) := by
  apply Always.bind (getFollowingRedirects_fetches hUrl past)
  · rintro after response ⟨requests, hAfter, hFetched⟩
    rw [hPast, List.nil_append] at hAfter
    apply ((always_local (saveResponse_local response path) after).and
      (saveResponse_onDisk response path after)).mono
    rintro final result ⟨hSame, hSaved⟩
    rw [hAfter] at hSame
    obtain ⟨url, hLast⟩ := hFetched.last response rfl
    obtain ⟨hSuccess, hFinal⟩ := hFetched.success response rfl
    constructor
    · rw [hSame]
      exact hFetched.allowed
    · intro saved hResult
      obtain ⟨rfl, hHeld⟩ := hSaved saved hResult
      refine ⟨url, response, ?_, hSuccess, hFinal, hHeld⟩
      rw [hSame, hLast]
  · rintro after error ⟨requests, hAfter, hFetched⟩
    rw [hPast, List.nil_append] at hAfter
    apply Downloaded.failed
    rw [hAfter]
    exact hFetched.allowed

/-- A whole download, whatever the network and the disk answer. -/
theorem downloaded_always (cf : CaseFold) (newUri : Uri → Uri → Except DownloadException Uri)
    (assetUrl : Uri) : Always (Downloaded cf) [] (downloadAsync cf newUri assetUrl) := by
  have hNone : exchanges [] = [] := rfl
  rw [downloadAsync]
  cases hValid : isValidAssetUrl cf (some assetUrl) with
  | error e => exact Downloaded.unasked hNone e
  | ok valid =>
      cases valid with
      | false => exact Downloaded.unasked hNone _
      | true =>
          have hUrl := (isValidAssetUrl_iff cf assetUrl).mp hValid
          apply Always.bind (always_local deleteStaleDownloads_local [])
          · intro swept _ hSwept answer
            have hStill : exchanges (swept ++ [⟨.tempFile, answer⟩]) = [] := by
              rw [exchanges_append, hSwept]
              rfl
            cases answer with
            | error e => exact Downloaded.unasked hStill e
            | ok path =>
                apply (downloaded_try hUrl hStill path).catching
                · exact fun after saved h => h
                · exact fun after e h => h.cleanup path
          · exact fun swept e hSwept => Downloaded.unasked (hSwept.trans hNone) e

end Download

/-- Whatever is answered, a download asks allowed hosts only, at most six times, and
returns a file only when it holds the body of a final, successful response of one of
them; otherwise it ends in an exception. -/
theorem downloads_from_allowed_hosts (cf : CaseFold) (newUri : Uri → Uri → Except DownloadException Uri)
    (assetUrl : Uri) (respondent : Respondent DownloadQuery.Answer) :
    let outcome := (downloadAsync cf newUri assetUrl).run respondent []
    (∀ url ∈ requested outcome.1, isValidAssetUrl cf (some url) = .ok true ∧ url.Trusted cf) ∧
      (requested outcome.1).length ≤ maxRedirects + 1 ∧
      ((∃ path url response, outcome.2 = .ok path ∧ url.Trusted cf ∧
          Received outcome.1 path url response) ∨
        ∃ e, outcome.2 = .error e) := by
  intro outcome
  have h : Downloaded cf outcome.1 outcome.2 := (downloaded_always cf newUri assetUrl).run respondent
  refine ⟨?_, ?_, ?_⟩
  · intro url hAsked
    obtain ⟨exchange, hExchange, rfl⟩ := List.mem_map.mp hAsked
    have hTrusted := h.allowed.trusted exchange hExchange
    exact ⟨(isValidAssetUrl_iff cf _).mpr hTrusted, hTrusted⟩
  · rw [requested, List.length_map]
    exact h.allowed.few
  · cases hResult : outcome.2 with
    | error e => exact Or.inr ⟨e, rfl⟩
    | ok path =>
        obtain ⟨url, response, hReceived⟩ := h.received path hResult
        have hTrusted := h.allowed.trusted _ (List.mem_of_getLast? hReceived.last)
        exact Or.inl ⟨path, url, response, rfl, hTrusted, hReceived⟩

/-- A host that redirects to one URL and to nothing else. -/
def redirecting (url : Uri) : Respondent DownloadQuery.Answer
  | _, .enumerateFiles _ => ([], none)
  | _, .tempFile => .ok (wide "update.exe")
  | _, .getAsync _ => .ok { statusCode := 302, location := some url }
  | _, .readAsStreamAsync _ => .ok ()
  | _, .create _ => .ok ()
  | _, .copyToAsync _ _ => .ok ()
  | _, .disposeAsync _ => .ok ()
  | _, .fileExists _ => .ok false
  | _, .delete _ => .ok ()

/-- The limit is reached. -/
example :
    let url := Uri.absolute uriSchemeHttps (wide "github.com") []
    let outcome := (downloadAsync .ascii (fun _ location => .ok location) url).run (redirecting url) []
    (requested outcome.1).length = maxRedirects + 1 ∧
      outcome.2 = .error (.httpRequest (wide "Too many redirects.")) := by decide +kernel

end WinDV
