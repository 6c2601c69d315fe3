import WinDV.Ui.ReleaseQuery
import WinDV.Ui.UpdateInstaller

/-! Update Now, from the question for the latest release to the start of its installer. The
network, the disk and Windows answer as they like. -/
namespace WinDV

open Dialogue

/-- What can go wrong; a `Win32Exception` is that of the launch. -/
inductive InstallException where
  | download (e : DownloadException)
  | win32 (nativeErrorCode : Int)
  deriving DecidableEq, Repr

/-- What is asked: the JSON of the latest release, what a download asks, and Windows to start
a program. -/
inductive InstallQuery where
  | latestRelease
  | download (query : DownloadQuery)
  | start (path : WString)

namespace InstallQuery

@[reducible] def Answer : InstallQuery → Type
  | latestRelease => Except DownloadException Json
  | download query => query.Answer
  | start _ => Except InstallException Unit

end InstallQuery

/-- Code that installs. -/
abbrev Install := Dialogue InstallException InstallQuery InstallQuery.Answer

abbrev InstallTrace := Trace InstallQuery.Answer

/-- How an attempt ends: `UpdateInstallError`, and whether `CloseRequested` was raised. -/
structure InstallEnd where
  error : WString := []
  closeRequested : Bool := false
  deriving DecidableEq, Repr

/-- The exceptions that are reported to the user. -/
def InstallException.isReported : InstallException → Bool
  | download (.httpRequest _) | download (.unsuccessful _) | download .io | download (.argument _ _) => true
  | download (.other name) =>
      name = wide "OperationCanceledException" || name = wide "TaskCanceledException"
  | download _ => false
  | win32 _ => true

/-- `ERROR_CANCELLED`: the user said no to the elevation. -/
def InstallException.isCancelled (e : InstallException) : Bool := e = .win32 1223

/-- A part of an attempt that only downloads. -/
def Install.ofDownload {α : Type} (program : Download α) : Install α :=
  program.embed InstallException.download InstallQuery.download fun _ answer => answer

/-- The handlers of `InstallUpdateAsync`; `TryDeleteFile` takes a path that may be null. -/
def installFailed (installerPath : Option WString) (e : InstallException) : Install InstallEnd := do
  if e.isCancelled || e.isReported then
    Install.ofDownload (installerPath.elim (return ()) tryDeleteFile)
    return if e.isCancelled then {}
      else { error := wide "Couldn't download or run the update. Use the link below instead." }
  else .fail e

section Attempt

variable (cf : CaseFold) (tryCreate : WString → Option (WString × WString × WString))
  (newUri : Uri → Uri → Except DownloadException Uri) (current : Version) (architecture : Architecture)

/-- The asset that is downloaded: one of a newer release, for this architecture. -/
def installerAsset (result : UpdateCheckResult) : Option UpdateAsset :=
  if result.outcome = .available then
    result.tag.bind fun tag => findInstallerAsset cf architecture result.assets tag
  else none

/-- The download, if there is an asset. -/
def downloadAsset : Option UpdateAsset → Install (Option WString)
  | none => return none
  | some asset => do
      let path ← Install.ofDownload (downloadAsync cf newUri asset.url)
      return some path

/-- The `try` up to the download. -/
def downloadUpdate : Install (Option WString) := do
  let answer ← .ask .latestRelease .done
  let result ← ofExcept ((getLatestRelease cf tryCreate current answer).mapError .download)
  downloadAsset cf newUri (installerAsset cf architecture result)

/-- The `try` from there: the installer is started, and the window closes. -/
def launchInstaller (path : WString) : Install InstallEnd := do
  .ask (.start path) ofExcept
  return { closeRequested := true }

/-- What follows the download. -/
def installDownloaded : Except InstallException (Option WString) → Install InstallEnd
  | .error e => installFailed none e
  | .ok none => return { error := wide "Couldn't find a matching update to download. Use the link below instead." }
  | .ok (some path) => (launchInstaller path).catching (installFailed (some path))

/-- `InstallUpdateAsync`. -/
def installUpdate : Install InstallEnd := do
  installDownloaded (← (downloadUpdate cf tryCreate newUri current architecture).attempt)

end Attempt

/-- The part of a trace that belongs to downloads. -/
def downloadView : Sigma InstallQuery.Answer → Option (Sigma DownloadQuery.Answer)
  | ⟨.download query, answer⟩ => some ⟨query, answer⟩
  | _ => none

def downloads (trace : InstallTrace) : DownloadTrace := trace.filterMap downloadView

/-- The programs that were started, with what came of it. -/
def launches (trace : InstallTrace) : List (WString × Except InstallException Unit) :=
  trace.filterMap fun
    | ⟨.start path, answer⟩ => some (path, answer)
    | _ => none

section Files

/-- The disk can be relied on for the files of an attempt: it finds one that was written and
lets it be deleted, and it gives no empty name. -/
def Reliable (before : DownloadTrace) : Sigma DownloadQuery.Answer → Prop
  | ⟨.tempFile, answer⟩ => answer ≠ .ok []
  | ⟨.fileExists path, answer⟩ => onDisk path before ≠ none → answer = .ok true
  | ⟨.delete path, answer⟩ => onDisk path before ≠ none → answer = .ok ()
  | _ => True

/-- The disk has been reliable all along. -/
def ReliableDisk (trace : DownloadTrace) : Prop :=
  ∀ before event after, trace = before ++ event :: after → Reliable before event

theorem ReliableDisk.earlier {before after : DownloadTrace} (h : ReliableDisk after) (hPrefix : before <+: after) :
    ReliableDisk before := by
  obtain ⟨more, rfl⟩ := hPrefix
  rintro first event rest rfl
  exact h first event (rest ++ more) (by simp)

theorem ReliableDisk.last {before : DownloadTrace} {event : Sigma DownloadQuery.Answer}
    (h : ReliableDisk (before ++ [event])) : Reliable before event := h before event [] rfl

/-- A question that does not write the file of a name. -/
def DownloadQuery.Spares (path : WString) : DownloadQuery → Prop
  | create own => own ≠ path
  | copyToAsync _ own => own ≠ path
  | _ => True

theorem onDisk_concat (path : WString) (trace : DownloadTrace) (event : Sigma DownloadQuery.Answer) :
    onDisk path (trace ++ [event]) = diskStep path (onDisk path trace) event := by
  rw [onDisk, List.foldl_append]
  rfl

/-- Without a write, what is not there does not come. -/
theorem diskStep_spares {path : WString} {event : Sigma DownloadQuery.Answer} (h : event.1.Spares path)
    {held : Option (List UInt8)} (hNone : held = none) : diskStep path held event = none := by
  obtain ⟨query, answer⟩ := event
  subst hNone
  cases query with
  | create own =>
      cases answer with
      | ok _ => exact if_neg h
      | error e => rfl
  | copyToAsync source own =>
      cases answer with
      | ok _ => exact if_neg h
      | error e => exact if_neg h
  | delete own =>
      cases answer with
      | ok _ => exact ite_self none
      | error e => rfl
  | _ => rfl

/-- A file is not there at the end of code that does not write it. -/
theorem always_spares {α : Type} {path : WString} {program : Download α}
    (h : program.Asks (DownloadQuery.Spares path)) {past : DownloadTrace} (hPast : onDisk path past = none) :
    Always (fun after _ => onDisk path after = none) past program := by
  apply (h.always past).mono
  rintro after result ⟨more, rfl, hMore⟩
  induction more using List.reverseRecOn with
  | nil => simpa using hPast
  | append_singleton more event ih =>
      rw [← List.append_assoc, onDisk_concat]
      apply diskStep_spares
      · exact hMore event (by simp)
      · exact ih fun earlier hEarlier => hMore earlier (List.mem_append_left _ hEarlier)

theorem tryDeleteFile_spares (path other : WString) :
    (tryDeleteFile path).Asks (DownloadQuery.Spares other) := by
  rw [tryDeleteFile]
  split_ifs with hEmpty
  · exact trivial
  · apply Asks.catching
    · refine ⟨trivial, fun answer => (Asks.ofExcept answer).bind fun found => ?_⟩
      cases found with
      | false => exact trivial
      | true => exact ⟨trivial, fun deleted => Asks.ofExcept deleted⟩
    · exact fun _ => trivial

theorem deleteStaleDownloads_spares (path : WString) :
    deleteStaleDownloads.Asks (DownloadQuery.Spares path) := by
  have hFiles : ∀ files, (tryDeleteFiles files).Asks (DownloadQuery.Spares path) := by
    intro files
    induction files with
    | nil => exact trivial
    | cons file rest ih => exact (tryDeleteFile_spares file path).bind fun _ => ih
  refine ⟨trivial, fun answer => ?_⟩
  obtain ⟨files, failure⟩ := answer
  apply (hFiles files).bind
  intro result
  cases failure with
  | none => exact trivial
  | some e => cases e <;> exact trivial

theorem getFollowingRedirects_spares (cf : CaseFold) (newUri : Uri → Uri → Except DownloadException Uri)
    (path : WString) (left : Nat) (url : Uri) :
    (getFollowingRedirectsAsync cf newUri left url).Asks (DownloadQuery.Spares path) := by
  induction left generalizing url with
  | zero => exact trivial
  | succ left ih =>
      refine ⟨trivial, fun answer => ?_⟩
      apply (Asks.ofExcept answer).bind
      intro response
      split_ifs with hRedirect
      · exact (Asks.ofExcept _).bind fun next => ih next
      · rw [ensureSuccessStatusCode]
        split_ifs with hSuccess
        · exact trivial
        · exact trivial

theorem saveResponse_spares (response : HttpResponse) {path other : WString} (h : path ≠ other) :
    (saveResponse response path).Asks (DownloadQuery.Spares other) := by
  refine ⟨trivial, fun read => (Asks.ofExcept read).bind fun _ => ?_⟩
  refine ⟨h, fun created => (Asks.ofExcept created).bind fun _ => ?_⟩
  have hCopy : (Dialogue.finishing
      (.ask (.copyToAsync response path) fun answer => ofExcept (answer.mapError Prod.fst))
      (.ask (.disposeAsync path) ofExcept) : Download Unit).Asks (DownloadQuery.Spares other) :=
    Asks.finishing ⟨h, fun _ => Asks.ofExcept _⟩ ⟨trivial, Asks.ofExcept⟩
  exact hCopy.bind fun _ => trivial

/-- The files that are there at the end were there before, and are none of this name. -/
def Cleared (path : WString) (past after : DownloadTrace) : Prop :=
  ReliableDisk after → ∀ other, onDisk other after ≠ none → other ≠ path ∧ onDisk other past ≠ none

theorem cleared_of_absent {path : WString} {past after : DownloadTrace}
    (hSame : ∀ other, onDisk other after = onDisk other past)
    (hAbsent : ReliableDisk after → onDisk path past = none) : Cleared path past after := by
  intro hReliable other hThere
  rw [hSame] at hThere
  refine ⟨?_, hThere⟩
  rintro rfl
  exact hThere (hAbsent hReliable)

/-- A file is deleted, and no other comes in its place. -/
theorem tryDeleteFile_clears {path : WString} (hPath : path ≠ []) (past : DownloadTrace) :
    Always (fun after result => result = .ok () ∧ Cleared path past after) past (tryDeleteFile path) := by
  have hEmpty : path.isEmpty = false := by
    cases path with
    | nil => exact absurd rfl hPath
    | cons c rest => rfl
  rw [tryDeleteFile, hEmpty]
  intro found
  have hSeen : ∀ other, onDisk other (past ++ [⟨.fileExists path, found⟩]) = onDisk other past :=
    fun other => onDisk_concat other past _
  have hAbsent : found ≠ .ok true → ReliableDisk (past ++ [⟨.fileExists path, found⟩]) →
      onDisk path past = none := by
    intro hNot hReliable
    by_contra hThere
    exact hNot (hReliable.last hThere)
  cases found with
  | error e => exact ⟨rfl, cleared_of_absent hSeen (hAbsent (by simp))⟩
  | ok there =>
      cases there with
      | false => exact ⟨rfl, cleared_of_absent hSeen (hAbsent (by simp))⟩
      | true =>
          intro deleted
          cases deleted with
          | ok _ =>
              refine ⟨rfl, fun _ other hThere => ?_⟩
              rw [onDisk_concat, hSeen] at hThere
              simp only [diskStep, ne_eq, ite_eq_left_iff, not_forall] at hThere
              obtain ⟨hOther, hBefore⟩ := hThere
              exact ⟨fun hSame => hOther hSame.symm, hBefore⟩
          | error e =>
              refine ⟨rfl, cleared_of_absent (fun other => ?_) fun hReliable => ?_⟩
              · rw [onDisk_concat]
                exact hSeen other
              · by_contra hThere
                rw [← hSeen] at hThere
                cases hReliable.last hThere

/-- What a download leaves behind: a file it returns was asked for under the URL of the asset,
and a file that is there is the one it returns. -/
structure Left (url : Uri) (after : DownloadTrace) (result : Except DownloadException WString) : Prop where
  first : ∀ path, result = .ok path → (requested after).head? = some url
  only : ReliableDisk after → ∀ path, onDisk path after ≠ none → path ≠ [] ∧ result = .ok path

theorem Left.nothing {url : Uri} {after : DownloadTrace} (hNone : ∀ path, onDisk path after = none)
    (e : DownloadException) : Left url after (.error e) where
  first := nofun
  only := fun _ path hThere => absurd (hNone path) hThere

/-- The first request of a trace stays the first. -/
theorem requested_head {past after : DownloadTrace} {url : Uri} {answer : Except DownloadException HttpResponse}
    (hPast : exchanges past = []) (hAfter : past ++ [⟨.getAsync url, answer⟩] <+: after) :
    (requested after).head? = some url := by
  obtain ⟨more, rfl⟩ := hAfter
  rw [requested, exchanges_append, exchanges_append, hPast]
  rfl

/-- The body of the `try` of a download writes one file, for the URL it begins with. -/
theorem download_try_left (cf : CaseFold) (newUri : Uri → Uri → Except DownloadException Uri) (url : Uri)
    {path : WString} {past : DownloadTrace} (hNone : ∀ other, onDisk other past = none) (hAsked : exchanges past = []) :
    Always (fun after result => past <+: after ∧ (requested after).head? = some url ∧
        (∀ other, onDisk other after ≠ none → other = path) ∧ ∀ saved, result = .ok saved → saved = path) past (do
      let response ← getFollowingRedirectsAsync cf newUri (maxRedirects + 1) url
      saveResponse response path) := by
  apply (Always.extends past _).and
  have hFirst : Always (fun after _ => (requested after).head? = some url) past (do
      let response ← getFollowingRedirectsAsync cf newUri (maxRedirects + 1) url
      saveResponse response path) := by
    intro answer
    apply (Always.extends _ _).mono
    exact fun after _ hAfter => requested_head hAsked hAfter
  apply hFirst.and
  have hFetch : Always (fun after _ => ∀ other, onDisk other after = none) past
      (getFollowingRedirectsAsync cf newUri (maxRedirects + 1) url) :=
    Always.all fun other => always_spares (getFollowingRedirects_spares cf newUri other _ url) (hNone other)
  apply hFetch.bind
  · intro fetched response hNone
    have hOthers : Always (fun after _ => ∀ other, onDisk other after ≠ none → other = path) fetched
        (saveResponse response path) := by
      apply Always.all
      intro other
      by_cases hSame : path = other
      · apply (Always.extends fetched _).mono
        exact fun _ _ _ _ => hSame.symm
      · apply (always_spares (saveResponse_spares response hSame) (hNone other)).mono
        exact fun _ _ hAbsent hThere => absurd hAbsent hThere
    apply hOthers.and
    apply (saveResponse_onDisk response path fetched).mono
    intro after result hSaved saved hResult
    exact (hSaved saved hResult).1
  · intro fetched e hNone
    exact ⟨fun other hThere => absurd (hNone other) hThere, nofun⟩

/-- The cleanup of a failed download leaves nothing. -/
theorem cleanup_left {url : Uri} {path : WString} {past : DownloadTrace}
    (hPast : ∀ other, onDisk other past ≠ none → other = path)
    (hNamed : ∀ later, past <+: later → ReliableDisk later → path ≠ []) (e : DownloadException) :
    Always (Left url) past (do tryDeleteFile path; .fail e : Download WString) := by
  by_cases hPath : path = []
  · have hNoFile : Always (Left url) past (.fail e : Download WString) :=
      ⟨nofun, fun hReliable => absurd hPath (hNamed past (List.prefix_refl past) hReliable)⟩
    rw [hPath]
    exact hNoFile
  · apply (tryDeleteFile_clears hPath past).bind
    · rintro after _ ⟨-, hCleared⟩
      refine ⟨nofun, fun hReliable other hThere => ?_⟩
      obtain ⟨hOther, hBefore⟩ := hCleared hReliable other hThere
      exact absurd (hPast other hBefore) hOther
    · rintro after error ⟨hOk, -⟩
      cases hOk

/-- A download, whatever the network answers. -/
theorem downloadAsync_left (cf : CaseFold) (newUri : Uri → Uri → Except DownloadException Uri) (url : Uri) :
    Always (Left url) [] (downloadAsync cf newUri url) := by
  rw [downloadAsync]
  cases hValid : isValidAssetUrl cf (some url) with
  | error e => exact Left.nothing (fun _ => rfl) e
  | ok valid =>
      cases valid with
      | false => exact Left.nothing (fun _ => rfl) _
      | true =>
          have hSwept : Always (fun after _ => ∀ path, onDisk path after = none) [] deleteStaleDownloads :=
            Always.all fun path => always_spares (deleteStaleDownloads_spares path) rfl
          apply (hSwept.and (always_local deleteStaleDownloads_local [])).bind
          · rintro swept _ ⟨hNone, hLocal⟩ answer
            have hStill : ∀ path, onDisk path (swept ++ [⟨.tempFile, answer⟩]) = none := by
              intro path
              rw [onDisk_concat]
              exact hNone path
            have hAsked : exchanges (swept ++ [⟨.tempFile, answer⟩]) = [] := by
              rw [exchanges_append, hLocal]
              rfl
            cases answer with
            | error e => exact Left.nothing hStill e
            | ok path =>
                have hNamed : ∀ after, swept ++ [⟨.tempFile, .ok path⟩] <+: after → ReliableDisk after →
                    path ≠ [] := by
                  rintro after hAfter hReliable rfl
                  exact (hReliable.earlier hAfter).last rfl
                apply (download_try_left cf newUri url hStill hAsked).catching
                · rintro after saved ⟨hAfter, hFirst, hOthers, hSaved⟩
                  refine ⟨fun _ _ => hFirst, fun hReliable other hThere => ?_⟩
                  obtain rfl := hOthers other hThere
                  exact ⟨hNamed after hAfter hReliable, congrArg _ (hSaved saved rfl)⟩
                · rintro after e ⟨hAfter, -, hOthers, -⟩
                  apply cleanup_left hOthers _ e
                  exact fun later hLater => hNamed later (hAfter.trans hLater)
          · exact fun swept e hBoth => Left.nothing hBoth.1 e

end Files

section Attempt

variable {cf : CaseFold} {tryCreate : WString → Option (WString × WString × WString)}
  {newUri : Uri → Uri → Except DownloadException Uri} {current : Version} {architecture : Architecture}

/-- A part that only downloads starts nothing, and is what it is on its own. -/
theorem ofDownload_always {α : Type} {program : Download α} (past : InstallTrace)
    {post : DownloadTrace → Except DownloadException α → Prop} (h : Always post (downloads past) program) :
    Always (fun after result => launches after = launches past ∧
        ∃ own, post (downloads after) own ∧ result = own.mapError InstallException.download)
      past (Install.ofDownload program) := by
  have hOwn : Always (fun after result => ∃ own, post (downloads after) own ∧
      result = own.mapError InstallException.download) past (Install.ofDownload program) :=
    h.embed downloadView (fun _ _ => rfl) rfl
  have hAsks : (Install.ofDownload program).Asks fun query => ∀ path, query ≠ .start path :=
    (Asks.all program).embed fun _ _ => nofun
  apply Always.and _ hOwn
  apply (hAsks.always past).mono
  rintro after result ⟨more, rfl, hMore⟩
  rw [launches, launches, List.filterMap_append]
  have hNone : List.filterMap (fun
      | ⟨.start path, answer⟩ => some (path, answer)
      | _ => none) more = ([] : List (WString × Except InstallException Unit)) := by
    apply List.filterMap_eq_nil_iff.mpr
    rintro ⟨query, answer⟩ hEvent
    cases query with
    | start path => exact absurd rfl (hMore _ hEvent path)
    | _ => rfl
  rw [hNone, List.append_nil]

/-- The asset that is downloaded: one the answer lists for a newer version, under the name of
the installer for this architecture. -/
structure Offered (cf : CaseFold) (tryCreate : WString → Option (WString × WString × WString)) (current : Version)
    (architecture : Architecture) (answer : Except DownloadException Json) (asset : UpdateAsset) : Prop where
  listed : ∃ root tag version assets, answer = .ok root ∧ root.HasProperty "tag_name" (.text (some tag)) ∧
    tryParseVersion tag = some version ∧ version.newer current = true ∧
    root.ListsAssets cf tryCreate assets ∧ asset ∈ assets ∧
    ∃ arch, architecture.name = some arch ∧ equalsNoCase cf asset.name (installerName version arch) = true

theorem installerAsset_offered {answer : Except DownloadException Json} {result : UpdateCheckResult}
    (hRelease : getLatestRelease cf tryCreate current answer = .ok result) {asset : UpdateAsset}
    (hAsset : installerAsset cf architecture result = some asset) :
    Offered cf tryCreate current architecture answer asset := by
  rw [installerAsset] at hAsset
  split_ifs at hAsset with hAvailable
  rw [getLatestRelease_eq_iff] at hRelease
  cases hRelease with
  | offline => cases hAvailable
  | @read root _ reads =>
      cases reads with
      | noVersion => cases hAvailable
      | @release tag version assets tagged versioned listed =>
          obtain ⟨arch, other, hArch, hOther, hMember, hName⟩ := find_installer hAsset
          rw [versioned] at hOther
          obtain rfl := Option.some.inj hOther
          have hNewer : version.newer current = true := by
            cases hNewer : version.newer current with
            | true => rfl
            | false =>
                rw [hNewer] at hAvailable
                cases hAvailable
          exact ⟨root, tag, version, assets, rfl, tagged, versioned, hNewer, listed, hMember, arch, hArch, hName⟩

/-- A file that may be started: it was downloaded for an asset that the answer offers, and holds
what an allowed host has sent. -/
structure Installable (cf : CaseFold) (tryCreate : WString → Option (WString × WString × WString))
    (current : Version) (architecture : Architecture) (trace : InstallTrace) (path : WString) : Prop where
  asset : ∃ answer asset rest, trace = ⟨.latestRelease, answer⟩ :: rest ∧
    Offered cf tryCreate current architecture answer asset ∧
    (requested (downloads trace)).head? = some asset.url
  received : ∃ url response, url.Trusted cf ∧ Received (downloads trace) path url response

/-- How the `try` is left before the launch. -/
structure Prepared (cf : CaseFold) (tryCreate : WString → Option (WString × WString × WString))
    (current : Version) (architecture : Architecture) (trace : InstallTrace)
    (result : Except InstallException (Option WString)) : Prop where
  unlaunched : launches trace = []
  trusted : ∀ url ∈ requested (downloads trace), url.Trusted cf
  installable : ∀ path, result = .ok (some path) → Installable cf tryCreate current architecture trace path
  only : ReliableDisk (downloads trace) → ∀ path, onDisk path (downloads trace) ≠ none →
    path ≠ [] ∧ result = .ok (some path)

/-- Nothing was downloaded. -/
theorem Prepared.nothing {trace : InstallTrace} {result : Except InstallException (Option WString)}
    (hLaunches : launches trace = []) (hDownloads : downloads trace = []) (hNone : ∀ path, result ≠ .ok (some path)) :
    Prepared cf tryCreate current architecture trace result where
  unlaunched := hLaunches
  trusted := by
    rw [hDownloads]
    simp [requested, exchanges]
  installable := fun path hPath => absurd hPath (hNone path)
  only := by
    rw [hDownloads]
    exact fun _ path hThere => absurd rfl hThere

theorem downloadUpdate_prepared : Always (Prepared cf tryCreate current architecture) []
    (downloadUpdate cf tryCreate newUri current architecture) := by
  intro answer
  have hLaunches : launches [⟨InstallQuery.latestRelease, answer⟩] = [] := rfl
  have hDownloads : downloads [⟨InstallQuery.latestRelease, answer⟩] = [] := rfl
  show Always _ [⟨InstallQuery.latestRelease, answer⟩] ((ofExcept ((getLatestRelease cf tryCreate current
    answer).mapError InstallException.download)).bind fun result =>
      downloadAsset cf newUri (installerAsset cf architecture result))
  cases hRelease : getLatestRelease cf tryCreate current answer with
  | error e => exact Prepared.nothing hLaunches hDownloads nofun
  | ok result =>
      show Always _ [⟨InstallQuery.latestRelease, answer⟩]
        (downloadAsset cf newUri (installerAsset cf architecture result))
      cases hAsset : installerAsset cf architecture result with
      | none => exact Prepared.nothing hLaunches hDownloads nofun
      | some asset =>
          have hOffered := installerAsset_offered hRelease hAsset
          have hDownload := ofDownload_always [⟨InstallQuery.latestRelease, answer⟩]
            ((downloaded_always cf newUri asset.url).and (downloadAsync_left cf newUri asset.url))
          apply (hDownload.and (Always.extends _ _)).bind
          · rintro after path ⟨⟨hNone, own, ⟨hDownloaded, hLeft⟩, hOwn⟩, rest, hAfter⟩
            obtain rfl : own = .ok path := by
              cases own with
              | ok other =>
                  obtain rfl := Except.ok.inj hOwn
                  rfl
              | error e => cases hOwn
            obtain ⟨url, response, hReceived⟩ := hDownloaded.received path rfl
            have hUrl := hDownloaded.allowed.trusted _ (List.mem_of_getLast? hReceived.last)
            refine ⟨hNone, ?_, ?_, ?_⟩
            · intro url hAsked
              obtain ⟨exchange, hExchange, rfl⟩ := List.mem_map.mp hAsked
              exact hDownloaded.allowed.trusted exchange hExchange
            · rintro other hOther
              obtain rfl := Option.some.inj (Except.ok.inj hOther)
              exact ⟨⟨answer, asset, rest, hAfter.symm, hOffered, hLeft.first _ rfl⟩, url, response, hUrl,
                hReceived⟩
            · intro hReliable other hThere
              obtain ⟨hName, hSame⟩ := hLeft.only hReliable other hThere
              obtain rfl := Except.ok.inj hSame
              exact ⟨hName, rfl⟩
          · rintro after e ⟨⟨hNone, own, ⟨hDownloaded, hLeft⟩, hOwn⟩, -⟩
            refine ⟨hNone, ?_, nofun, ?_⟩
            · intro url hAsked
              obtain ⟨exchange, hExchange, rfl⟩ := List.mem_map.mp hAsked
              exact hDownloaded.allowed.trusted exchange hExchange
            · intro hReliable other hThere
              obtain ⟨-, rfl⟩ := hLeft.only hReliable other hThere
              cases hOwn

/-- A program was started behind this part of the trace. -/
def StartedAt (trace before : InstallTrace) (path : WString) : Prop :=
  ∃ answer after, trace = before ++ ⟨.start path, answer⟩ :: after

/-- How an attempt ends. -/
structure Attempted (cf : CaseFold) (tryCreate : WString → Option (WString × WString × WString))
    (current : Version) (architecture : Architecture) (trace : InstallTrace)
    (result : Except InstallException InstallEnd) : Prop where
  once : (launches trace).length ≤ 1
  trusted : ∀ url ∈ requested (downloads trace), url.Trusted cf
  installable : ∀ before path, StartedAt trace before path →
    Installable cf tryCreate current architecture before path
  closes : (∃ ended, result = .ok ended ∧ ended.closeRequested = true) ↔ ∃ path, launches trace = [(path, .ok ())]
  only : ReliableDisk (downloads trace) → ∀ path, onDisk path (downloads trace) ≠ none →
    launches trace = [(path, .ok ())] ∨ ∃ e, launches trace = [(path, .error e)] ∧ e.isReported = false

theorem launches_start {before after : InstallTrace} {path : WString} {answer : Except InstallException Unit} :
    launches (before ++ ⟨.start path, answer⟩ :: after) = launches before ++ (path, answer) :: launches after := by
  rw [launches, List.filterMap_append]
  rfl

theorem launches_append (before after : InstallTrace) :
    launches (before ++ after) = launches before ++ launches after := List.filterMap_append

theorem not_startedAt {trace before : InstallTrace} {path : WString} (hNone : launches trace = []) :
    ¬ StartedAt trace before path := by
  rintro ⟨answer, after, rfl⟩
  rw [launches_start] at hNone
  simp at hNone

/-- Between two parts that start nothing there is one place where something is started. -/
theorem startedAt_unique {first second before : InstallTrace} {path other : WString}
    {answer : Except InstallException Unit} (hFirst : launches first = []) (hSecond : launches second = [])
    (h : StartedAt (first ++ ⟨.start path, answer⟩ :: second) before other) : before = first ∧ other = path := by
  obtain ⟨given, after, hTrace⟩ := h
  rcases List.append_eq_append_iff.mp hTrace with ⟨between, rfl, hRest⟩ | ⟨between, rfl, hRest⟩
  · cases between with
    | nil =>
        obtain ⟨hHere, -⟩ := List.cons.inj hRest
        cases hHere
        exact ⟨by simp, rfl⟩
    | cons event between =>
        obtain ⟨-, rfl⟩ := List.cons.inj hRest
        exact absurd ⟨given, after, rfl⟩ (not_startedAt hSecond)
  · cases between with
    | nil =>
        obtain ⟨hHere, -⟩ := List.cons.inj hRest
        cases hHere
        exact ⟨by simp, rfl⟩
    | cons event between =>
        obtain ⟨rfl, -⟩ := List.cons.inj hRest
        exact absurd ⟨given, between, rfl⟩ (not_startedAt hFirst)

/-- An attempt that starts nothing. -/
theorem Prepared.attempted {trace : InstallTrace} {result : Except InstallException (Option WString)}
    (h : Prepared cf tryCreate current architecture trace result) (hNone : ∀ path, result ≠ .ok (some path))
    {ended : Except InstallException InstallEnd} (hEnded : ∀ final, ended = .ok final → final.closeRequested = false) :
    Attempted cf tryCreate current architecture trace ended where
  once := by
    rw [h.unlaunched]
    exact Nat.zero_le 1
  trusted := h.trusted
  installable := fun before path hStart => absurd hStart (not_startedAt h.unlaunched)
  closes := by
    rw [h.unlaunched]
    constructor
    · rintro ⟨final, hFinal, hCloses⟩
      rw [hEnded final hFinal] at hCloses
      cases hCloses
    · rintro ⟨path, hPath⟩
      cases hPath
  only := fun hReliable path hThere => absurd (h.only hReliable path hThere).2 (hNone path)

theorem installFailed_none (e : InstallException) {trace : InstallTrace}
    {result : Except InstallException (Option WString)} (h : Prepared cf tryCreate current architecture trace result)
    (hNone : ∀ path, result ≠ .ok (some path)) :
    Always (Attempted cf tryCreate current architecture) trace (installFailed none e) := by
  rw [installFailed]
  split_ifs with hHandled hCancelled
  · exact h.attempted hNone fun final hFinal => by cases hFinal; rfl
  · exact h.attempted hNone fun final hFinal => by cases hFinal; rfl
  · exact h.attempted hNone nofun

/-- What is started after that, and what it leaves. -/
theorem Prepared.launched {trace second : InstallTrace} {path : WString} {answer : Except InstallException Unit}
    (h : Prepared cf tryCreate current architecture trace (.ok (some path))) (hSecond : launches second = [])
    (hSame : exchanges (downloads (trace ++ ⟨.start path, answer⟩ :: second)) = exchanges (downloads trace))
    {ended : Except InstallException InstallEnd}
    (hCloses : (∃ final, ended = .ok final ∧ final.closeRequested = true) ↔ answer = .ok ())
    (hOnly : ReliableDisk (downloads (trace ++ ⟨.start path, answer⟩ :: second)) → ∀ other,
      onDisk other (downloads (trace ++ ⟨.start path, answer⟩ :: second)) ≠ none →
      other = path ∧ ∀ e, answer = .error e → e.isReported = false) :
    Attempted cf tryCreate current architecture (trace ++ ⟨.start path, answer⟩ :: second) ended := by
  have hLaunches : launches (trace ++ ⟨.start path, answer⟩ :: second) = [(path, answer)] := by
    rw [launches_start, h.unlaunched, hSecond, List.nil_append]
  constructor
  · rw [hLaunches]
    exact Nat.le_refl 1
  · rw [requested, hSame]
    exact h.trusted
  · intro before other hStart
    obtain ⟨rfl, rfl⟩ := startedAt_unique h.unlaunched hSecond hStart
    exact h.installable _ rfl
  · rw [hCloses, hLaunches]
    constructor
    · rintro rfl
      exact ⟨path, rfl⟩
    · rintro ⟨other, hOther⟩
      cases hOther
      rfl
  · intro hReliable other hThere
    obtain ⟨rfl, hUnreported⟩ := hOnly hReliable other hThere
    rw [hLaunches]
    cases answer with
    | ok _ => exact Or.inl rfl
    | error e => exact Or.inr ⟨e, rfl, hUnreported e rfl⟩

/-- The failed launch is no download. -/
theorem downloads_start {trace : InstallTrace} {path : WString} {answer : Except InstallException Unit} :
    downloads (trace ++ [⟨.start path, answer⟩]) = downloads trace := by
  rw [downloads, downloads, List.filterMap_append]
  exact List.append_nil _

theorem downloads_extends (trace more : InstallTrace) : downloads trace <+: downloads (trace ++ more) := by
  rw [downloads, downloads, List.filterMap_append]
  exact List.prefix_append _ _

/-- A launch that failed and is handled: the file goes. -/
theorem cleanup_attempted (e : InstallException) {trace : InstallTrace} {path : WString}
    (h : Prepared cf tryCreate current architecture trace (.ok (some path))) {final : InstallEnd}
    (hFinal : final.closeRequested = false) :
    Always (Attempted cf tryCreate current architecture) (trace ++ [⟨.start path, .error e⟩]) (do
      Install.ofDownload (tryDeleteFile path)
      return final) := by
  have hCloses : (∃ other, (Except.ok final : Except InstallException InstallEnd) = .ok other ∧
      other.closeRequested = true) ↔ (Except.error e : Except InstallException Unit) = .ok () := by
    constructor
    · rintro ⟨other, ⟨⟩, hCloses⟩
      rw [hFinal] at hCloses
      cases hCloses
    · rintro ⟨⟩
  by_cases hPath : path = []
  · subst hPath
    apply h.launched rfl (by rw [downloads_start]) hCloses
    rw [downloads_start]
    intro hReliable other hThere
    obtain ⟨hOther, hSame⟩ := h.only hReliable other hThere
    cases hSame
    exact absurd rfl hOther
  · have hDelete := ofDownload_always (trace ++ [⟨.start path, .error e⟩])
      ((tryDeleteFile_clears hPath _).and (always_local (tryDeleteFile_local path) _))
    apply (hDelete.and (Always.extends _ _)).bind
    · rintro after _ ⟨⟨hNone, own, ⟨⟨-, hCleared⟩, hSame⟩, -⟩, second, rfl⟩
      rw [downloads_start] at hCleared hSame
      rw [launches_append, List.append_right_eq_self] at hNone
      rw [List.append_assoc] at hCleared hSame
      show Attempted cf tryCreate current architecture (trace ++ [⟨.start path, .error e⟩] ++ second) (.ok final)
      rw [List.append_assoc]
      apply h.launched hNone hSame hCloses
      intro hReliable other hThere
      obtain ⟨hOther, hBefore⟩ := hCleared hReliable other hThere
      have hReliableBefore := hReliable.earlier (downloads_extends trace _)
      obtain ⟨-, hOwn⟩ := h.only hReliableBefore other hBefore
      cases hOwn
      exact absurd rfl hOther
    · rintro after error ⟨⟨-, own, ⟨⟨rfl, -⟩, -⟩, hOwn⟩, -⟩
      cases hOwn

/-- A launch that failed: the file goes, unless the error is one that is not handled. -/
theorem installFailed_some (e : InstallException) {trace : InstallTrace} {path : WString}
    (h : Prepared cf tryCreate current architecture trace (.ok (some path))) :
    Always (Attempted cf tryCreate current architecture) (trace ++ [⟨.start path, .error e⟩])
      (installFailed (some path) e) := by
  rw [installFailed]
  split_ifs with hHandled hCancelled
  · exact cleanup_attempted e h rfl
  · exact cleanup_attempted e h rfl
  · have hUnreported : e.isReported = false := by
      rw [Bool.or_eq_true, not_or] at hHandled
      exact Bool.eq_false_iff.mpr hHandled.2
    have hNoEnd : (∃ final, (Except.error e : Except InstallException InstallEnd) = .ok final ∧
        final.closeRequested = true) ↔ (Except.error e : Except InstallException Unit) = .ok () := by
      constructor
      · rintro ⟨final, ⟨⟩, -⟩
      · rintro ⟨⟩
    apply h.launched rfl (by rw [downloads_start]) hNoEnd
    rw [downloads_start]
    intro hReliable other hThere
    obtain ⟨-, hSame⟩ := h.only hReliable other hThere
    cases hSame
    refine ⟨rfl, ?_⟩
    rintro _ ⟨⟩
    exact hUnreported

/-- What follows the download, however that went. -/
theorem installDownloaded_attempted {trace : InstallTrace} {result : Except InstallException (Option WString)}
    (h : Prepared cf tryCreate current architecture trace result) :
    Always (Attempted cf tryCreate current architecture) trace (installDownloaded result) := by
  cases result with
  | error e => exact installFailed_none e h nofun
  | ok found =>
      cases found with
      | none => exact h.attempted nofun fun final hFinal => by cases hFinal; rfl
      | some path =>
          intro answer
          cases answer with
          | error e => exact installFailed_some e h
          | ok _ =>
              apply h.launched rfl (by rw [downloads_start])
              · exact ⟨fun _ => rfl, fun _ => ⟨_, rfl, rfl⟩⟩
              · rw [downloads_start]
                intro hReliable other hThere
                obtain ⟨-, hSame⟩ := h.only hReliable other hThere
                cases hSame
                exact ⟨rfl, nofun⟩

theorem installUpdate_attempted : Always (Attempted cf tryCreate current architecture) []
    (installUpdate cf tryCreate newUri current architecture) :=
  downloadUpdate_prepared.attempt fun _ _ h => installDownloaded_attempted h

/-- Update Now, whatever the network, the disk and Windows answer. -/
theorem update_installs_offered (cf : CaseFold) (tryCreate : WString → Option (WString × WString × WString))
    (newUri : Uri → Uri → Except DownloadException Uri) (current : Version) (architecture : Architecture)
    (respondent : Respondent InstallQuery.Answer) :
    Attempted cf tryCreate current architecture
      ((installUpdate cf tryCreate newUri current architecture).run respondent []).1
      ((installUpdate cf tryCreate newUri current architecture).run respondent []).2 :=
  installUpdate_attempted.run respondent

end Attempt

end WinDV
