import WinDV.Library.Transition
import WinDV.Ui.ReleaseQuery
import WinDV.Ui.SettingsView

/-! The notice of a newer release, and how often it is looked for: over any order of the
checks, their answers, the settings screen, closing the notice, and the ends of WinDV. -/
namespace WinDV

/-- `UpdateCheckIntervalSeconds`. -/
def updateCheckIntervalSeconds : Int64 := 24 * 60 * 60

/-- A `CheckForUpdatesAsync` that waits for its answer. -/
structure UpdateCheck where
  force : Bool
  now : Int64
  deriving DecidableEq, Repr

/-- When the checks that were answered had begun, and which releases were dismissed: in the
sessions that were closed, and in the one that runs. A session that crashes is forgotten. -/
structure NoticeHistory where
  answered : List Int64 := []
  dismissed : List WString := []
  deriving DecidableEq, Repr

/-- A check that asked, with the setting and the answered checks at that time. -/
structure AskedCheck where
  check : UpdateCheck
  enabled : Bool
  answered : List Int64
  deriving DecidableEq, Repr

/-- What `MainViewModel` shows of a newer release, the checks that wait and the settings. `UpdateUri`
is the page of `updateTag`. The rest is what has happened: whether this session has looked
for a known release, who has asked, and what the settings and the registry go back to; after
a crash that is `saved`, from the end of the last session that was closed. -/
structure UpdateNotice where
  session : SettingsSession
  hasUpdate : Bool := false
  updateTitle : WString := []
  updateTag : WString := []
  updateCheckStatus : WString := []
  checks : List UpdateCheck := []
  looked : Bool := false
  asked : List AskedCheck := []
  past : NoticeHistory := {}
  saved : NoticeHistory := {}

namespace UpdateNotice

open Transition

/-- The release in the settings may be announced. -/
def known (current : Version) (settings : Settings) : Option Version :=
  if !settings.checkForUpdates || settings.latestRelease = settings.dismissedRelease then none
  else newerThanCurrent current settings.latestRelease

def title (newer : Version) : WString := wide "WinDV " ++ newer.toString3 ++ wide " is available"

/-- A start over what is in the registry. -/
def start (registry : Registry) : UpdateNotice := { session := .start registry }

section Notice

variable (current : Version)

/-- `ShowKnownUpdate`. -/
def showKnownUpdate (s : UpdateNotice) : UpdateNotice :=
  match known current s.session.settings with
  | none => { s with looked := true }
  | some newer =>
      { s with
        updateTitle := title newer, updateTag := s.session.settings.latestRelease, hasUpdate := true,
        looked := true }

/-- `GetLatestReleaseAsync` is called, unless it was answered less than a day ago. -/
def getLatestReleaseAsync (s : UpdateNotice) (force : Bool) (now : Int64) : UpdateNotice :=
  let age := now - s.session.settings.lastUpdateCheck
  if !force && (0 ≤ age && age < updateCheckIntervalSeconds) then s
  else
    { s with
      checks := s.checks ++ [⟨force, now⟩]
      asked := s.asked ++ [⟨⟨force, now⟩, s.session.settings.checkForUpdates, s.past.answered⟩] }

/-- `CheckForUpdatesAsync` until it waits for the answer. -/
def checkForUpdates (s : UpdateNotice) (force : Bool) (now : Int64) : UpdateNotice :=
  if !force && !s.session.settings.checkForUpdates then s
  else (s.showKnownUpdate current).getLatestReleaseAsync force now

/-- The text behind the button "Check Now". -/
def checkStatus (result : UpdateCheckResult) : WString :=
  if result.outcome = .available then
    wide "WinDV " ++ ((result.tag.bind (newerThanCurrent current)).elim [] Version.toString3) ++
      wide " is available."
  else wide "You're up to date."

/-- `CheckForUpdatesAsync` behind the answer. An exception ends it. -/
def checkAnswered (s : UpdateNotice) (check : UpdateCheck) :
    Except DownloadException UpdateCheckResult → UpdateNotice
  | .error _ => s
  | .ok result =>
      if result.outcome = .checkFailed then
        if check.force then { s with updateCheckStatus := wide "Couldn't reach GitHub. Try again later." }
        else s
      else
        showKnownUpdate current { s with
          session := s.session.step (.updateChecked check.now (result.tag.getD []))
          past := { s.past with answered := s.past.answered ++ [check.now] }
          updateCheckStatus := if check.force then checkStatus current result else s.updateCheckStatus }

/-- `DismissUpdate`. -/
def dismissUpdate (s : UpdateNotice) : UpdateNotice :=
  { s with
    hasUpdate := false
    session := s.session.step .dismissUpdate
    past := { s.past with dismissed := s.past.dismissed ++ [s.session.settings.latestRelease] } }

/-- `ApplySettings`, but for the options of the engine. -/
def applySettings (s : UpdateNotice) (now : Int64) : UpdateNotice :=
  if !s.session.settings.checkForUpdates then { s with hasUpdate := false }
  else if !s.hasUpdate then s.checkForUpdates current false now
  else s

/-- What may happen: a check begins, one of those that wait is answered, the notice is closed,
the settings are saved, the tool or the window's place changes; WinDV is closed and started
again, or it ends without that. -/
inductive Action where
  | check (force : Bool) (now : Int64)
  | answer (index : Nat) (result : Except DownloadException UpdateCheckResult)
  | dismissUpdate
  | saveClick (form : SettingsForm) (now : Int64)
  | selectTool (tool : Tool)
  | saveWindowPlacement (x y width height : Int32)
  | close (view : ClosingView)
  | crash

/-- The step function. The notice can be closed as long as it is shown. -/
def step (s : UpdateNotice) : Action → Option UpdateNotice
  | .check force now => some (s.checkForUpdates current force now)
  | .answer index result =>
      s.checks[index]?.map fun check =>
        checkAnswered current { s with checks := s.checks.eraseIdx index } check result
  | .dismissUpdate => if s.hasUpdate then some s.dismissUpdate else none
  | .saveClick form now =>
      match s.session.settings.saveClick form with
      | .error _ => some s
      | .ok _ => some (applySettings current { s with session := s.session.step (.saveClick form) } now)
  | .selectTool tool => some { s with session := s.session.step (.selectTool tool) }
  | .saveWindowPlacement x y width height =>
      some { s with session := s.session.step (.saveWindowPlacement x y width height) }
  | .close view =>
      some { session := s.session.step (.close view), asked := s.asked, past := s.past, saved := s.past }
  | .crash =>
      some { session := .start s.session.registry, asked := s.asked, past := s.saved, saved := s.saved }

end Notice

section Steps

variable {current : Version} {registry : Registry} {s : UpdateNotice}

/-- The settings have what the history says, over those of the start. -/
structure Tells (registry : Registry) (past : NoticeHistory) (settings : Settings) : Prop where
  answered : settings.lastUpdateCheck = past.answered.getLastD (Settings.load registry).lastUpdateCheck
  dismissed : settings.dismissedRelease = past.dismissed.getLastD (Settings.load registry).dismissedRelease

/-- What is shown is a newer release that was not dismissed, while the checks are on. -/
structure Shows (current : Version) (s : UpdateNotice) : Prop where
  enabled : s.session.settings.checkForUpdates = true
  undismissed : s.updateTag ≠ s.session.settings.dismissedRelease
  newer : ∃ newer, newerThanCurrent current s.updateTag = some newer ∧ s.updateTitle = title newer

/-- Who asks of its own accord does so with the checks on, and not within a day of the
beginning of the check that was answered last. -/
def AskedCheck.Due (registry : Registry) (asked : AskedCheck) : Prop :=
  let last := asked.answered.getLastD (Settings.load registry).lastUpdateCheck
  asked.check.force = true ∨
    asked.enabled = true ∧ (asked.check.now.toInt < last.toInt ∨
      last.toInt + updateCheckIntervalSeconds.toInt ≤ asked.check.now.toInt)

/-- What holds between any two steps, whether the session has looked or not. -/
structure Steady (current : Version) (registry : Registry) (s : UpdateNotice) : Prop where
  tells : Tells registry s.past s.session.settings
  tellsSaved : Tells registry s.saved (Settings.load s.session.registry)
  shows : s.hasUpdate = true → Shows current s
  asked : ∀ asked ∈ s.asked, AskedCheck.Due registry asked

/-- A release that may be announced is announced. -/
def Announced (current : Version) (s : UpdateNotice) : Prop :=
  s.looked = true → (known current s.session.settings).isSome = true →
    s.hasUpdate = true ∧ s.updateTag = s.session.settings.latestRelease

theorem known_some {settings : Settings} {newer : Version} (h : known current settings = some newer) :
    settings.checkForUpdates = true ∧ settings.latestRelease ≠ settings.dismissedRelease ∧
      newerThanCurrent current settings.latestRelease = some newer := by
  unfold known at h
  split_ifs at h with hHidden
  simp only [Bool.or_eq_true, Bool.not_eq_true', decide_eq_true_eq, not_or, Bool.not_eq_false] at hHidden
  exact ⟨hHidden.1, hHidden.2, h⟩

theorem Steady.showKnownUpdate (h : Steady current registry s) :
    Steady current registry (s.showKnownUpdate current) ∧ Announced current (s.showKnownUpdate current) := by
  unfold UpdateNotice.showKnownUpdate
  cases hKnown : known current s.session.settings with
  | none =>
      refine ⟨{ h with shows := fun hUpdate => { h.shows hUpdate with } }, ?_⟩
      intro _ hSome
      simp [hKnown] at hSome
  | some newer =>
      obtain ⟨hEnabled, hOther, hNewer⟩ := known_some hKnown
      exact ⟨{ h with shows := fun _ => ⟨hEnabled, hOther, newer, hNewer, rfl⟩ }, fun _ _ => ⟨rfl, rfl⟩⟩

/-- Within a day of it the check that was answered last is young enough. -/
theorem young {now last : Int64}
    (h : ¬ (now.toInt < last.toInt ∨ last.toInt + updateCheckIntervalSeconds.toInt ≤ now.toInt)) :
    0 ≤ now - last ∧ now - last < updateCheckIntervalSeconds := by
  have hDay : updateCheckIntervalSeconds.toInt = 86400 := by decide
  have hNow : 0 ≤ now.toInt - last.toInt ∧ now.toInt - last.toInt < 86400 := by
    constructor <;> omega
  have hSame : (now - last).toInt = now.toInt - last.toInt := by
    rw [Int64.toInt_sub]
    apply Int.bmod_eq_of_le
    · exact le_trans (by decide) hNow.1
    · exact lt_trans hNow.2 (by decide)
  rw [Int64.le_iff_toInt_le, Int64.lt_iff_toInt_lt, hSame, hDay]
  exact hNow

theorem Steady.getLatestReleaseAsync (h : Steady current registry s) (hAnnounced : Announced current s)
    {force : Bool} {now : Int64} (hAsks : force = true ∨ s.session.settings.checkForUpdates = true) :
    Steady current registry (s.getLatestReleaseAsync force now) ∧
      Announced current (s.getLatestReleaseAsync force now) := by
  simp only [UpdateNotice.getLatestReleaseAsync]
  split_ifs with hYoung
  · exact ⟨h, hAnnounced⟩
  · refine ⟨{ h with shows := fun hUpdate => { h.shows hUpdate with }, asked := ?_ }, hAnnounced⟩
    intro asked hAsked
    rcases List.mem_append.mp hAsked with hOld | hNew
    · exact h.asked asked hOld
    · rw [List.mem_singleton.mp hNew]
      cases force with
      | true => exact Or.inl rfl
      | false =>
          right
          constructor
          · exact hAsks.resolve_left Bool.false_ne_true
          · rw [← h.tells.answered]
            by_contra hSoon
            apply hYoung
            simpa using young hSoon

theorem showKnownUpdate_session (s : UpdateNotice) : (s.showKnownUpdate current).session = s.session := by
  unfold UpdateNotice.showKnownUpdate
  cases known current s.session.settings with
  | none => rfl
  | some newer => rfl

theorem Steady.checkForUpdates (h : Steady current registry s) (hAnnounced : Announced current s)
    (force : Bool) (now : Int64) :
    Steady current registry (s.checkForUpdates current force now) ∧
      Announced current (s.checkForUpdates current force now) := by
  unfold UpdateNotice.checkForUpdates
  split_ifs with hOff
  · exact ⟨h, hAnnounced⟩
  · obtain ⟨hSteady, hKnown⟩ := h.showKnownUpdate
    apply hSteady.getLatestReleaseAsync hKnown
    rw [showKnownUpdate_session]
    cases force with
    | true => exact Or.inl rfl
    | false => exact Or.inr (by simpa using hOff)

/-- An answer: what it says is kept, and announced. -/
theorem Steady.checkAnswered (h : Steady current registry s) (hAnnounced : Announced current s)
    (check : UpdateCheck) (result : Except DownloadException UpdateCheckResult) :
    Steady current registry (s.checkAnswered current check result) ∧
      Announced current (s.checkAnswered current check result) := by
  cases result with
  | error e => exact ⟨h, hAnnounced⟩
  | ok result =>
      simp only [UpdateNotice.checkAnswered]
      split_ifs with hFailed hForce
      · exact ⟨{ h with shows := fun hUpdate => { h.shows hUpdate with } }, hAnnounced⟩
      · exact ⟨h, hAnnounced⟩
      all_goals
        apply Steady.showKnownUpdate
        constructor
        · exact ⟨List.getLastD_concat.symm, h.tells.dismissed⟩
        · exact h.tellsSaved
        · exact fun hUpdate => { h.shows hUpdate with }
        · exact h.asked

/-- Settings that say the same of the releases. -/
structure SameReleases (old new : Settings) : Prop where
  lastUpdateCheck : new.lastUpdateCheck = old.lastUpdateCheck
  latestRelease : new.latestRelease = old.latestRelease
  dismissedRelease : new.dismissedRelease = old.dismissedRelease

theorem SameReleases.tells {old new : Settings} {past : NoticeHistory} (h : SameReleases old new)
    (hTells : Tells registry past old) : Tells registry past new :=
  ⟨h.lastUpdateCheck.trans hTells.answered, h.dismissedRelease.trans hTells.dismissed⟩

/-- What the settings say of the releases comes back when they have been saved. -/
theorem load_save_releases (s : Settings) (registry : Registry) :
    SameReleases s (Settings.load (s.save registry)) where
  lastUpdateCheck := by
    show getLong (s.save registry) .updates "LastCheck" 0 = s.lastUpdateCheck
    rw [getLong, Settings.save_get (i := 25) rfl]
  latestRelease := by
    show getString (s.save registry) .updates "LatestRelease" [] = s.latestRelease
    exact Settings.getString_save 26 rfl
  dismissedRelease := by
    show getString (s.save registry) .updates "DismissedRelease" [] = s.dismissedRelease
    exact Settings.getString_save 27 rfl

theorem saveClick_releases {settings kept : Settings} {form : SettingsForm}
    (h : settings.saveClick form = .ok kept) : SameReleases settings kept := by
  unfold Settings.saveClick at h
  split at h
  · obtain rfl := Except.ok.inj h
    exact ⟨rfl, rfl, rfl⟩
  · cases h

/-- New settings that say the same of the checks too. -/
theorem Steady.other {new : Settings} (h : Steady current registry s) (hAnnounced : Announced current s)
    (hSame : SameReleases s.session.settings new)
    (hEnabled : new.checkForUpdates = s.session.settings.checkForUpdates) :
    Steady current registry { s with session := { s.session with settings := new } } ∧
      Announced current { s with session := { s.session with settings := new } } := by
  constructor
  · constructor
    · exact hSame.tells h.tells
    · exact h.tellsSaved
    · intro hShown
      have hShows := h.shows hShown
      constructor
      · exact hEnabled.trans hShows.enabled
      · show s.updateTag ≠ new.dismissedRelease
        rw [hSame.dismissedRelease]
        exact hShows.undismissed
      · exact hShows.newer
    · exact h.asked
  · intro hLooked hKnown
    have hSameKnown : known current new = known current s.session.settings := by
      rw [known, known, hEnabled, hSame.latestRelease, hSame.dismissedRelease]
    show s.hasUpdate = true ∧ s.updateTag = new.latestRelease
    rw [hSame.latestRelease]
    apply hAnnounced hLooked
    rw [← hSameKnown]
    exact hKnown

/-- New settings, with the checks on or off, and what `ApplySettings` makes of them. -/
theorem Steady.applySettings {session : SettingsSession} (h : Steady current registry s)
    (hAnnounced : Announced current s) (hRegistry : session.registry = s.session.registry)
    (hSame : SameReleases s.session.settings session.settings) (now : Int64) :
    Steady current registry (UpdateNotice.applySettings current { s with session } now) ∧
      Announced current (UpdateNotice.applySettings current { s with session } now) := by
  have hSaved : Tells registry s.saved (Settings.load session.registry) := by
    rw [hRegistry]
    exact h.tellsSaved
  have hSteady : ∀ shown : Bool, (shown = true → Shows current { s with session, hasUpdate := shown }) →
      Steady current registry { s with session, hasUpdate := shown } := fun shown hShows =>
    ⟨hSame.tells h.tells, hSaved, hShows, h.asked⟩
  unfold UpdateNotice.applySettings
  by_cases hOn : session.settings.checkForUpdates = true
  · rw [if_neg (by simp [hOn])]
    by_cases hShown : s.hasUpdate = true
    · rw [if_neg (by simp [hShown])]
      have hShows := h.shows hShown
      have hSameKnown : known current session.settings = known current s.session.settings := by
        rw [known, known, hOn, hShows.enabled, hSame.latestRelease, hSame.dismissedRelease]
      have hTag : s.updateTag ≠ session.settings.dismissedRelease := by
        rw [hSame.dismissedRelease]
        exact hShows.undismissed
      refine ⟨hSteady s.hasUpdate fun _ => ⟨hOn, hTag, hShows.newer⟩, ?_⟩
      intro hLooked hKnown
      show s.hasUpdate = true ∧ s.updateTag = session.settings.latestRelease
      rw [hSame.latestRelease]
      apply hAnnounced hLooked
      rw [← hSameKnown]
      exact hKnown
    · rw [if_pos (by simp [hShown])]
      obtain ⟨hLook, hKnown⟩ := (hSteady s.hasUpdate fun hUpdate => absurd hUpdate hShown).showKnownUpdate
      rw [UpdateNotice.checkForUpdates, if_neg (by simp [hOn])]
      apply hLook.getLatestReleaseAsync hKnown
      rw [showKnownUpdate_session]
      exact Or.inr hOn
  · rw [if_pos (by simp [hOn])]
    refine ⟨hSteady false nofun, ?_⟩
    intro _ hKnown
    simp [known, hOn] at hKnown

/-- A session that has just begun shows nothing, and has not looked. -/
theorem Steady.begun {session : SettingsSession} {past : NoticeHistory} {earlier : List AskedCheck}
    (hSaved : session.settings = Settings.load session.registry) (hTells : Tells registry past session.settings) (hAsked : ∀ asked ∈ earlier, AskedCheck.Due registry asked) :
    Steady current registry { session, asked := earlier, past, saved := past } ∧
      Announced current { session, asked := earlier, past, saved := past } := by
  constructor
  · constructor
    · exact hTells
    · rw [← hSaved]
      exact hTells
    · intro hShown
      cases hShown
    · exact hAsked
  · intro hLooked
    cases hLooked

/-- One step. -/
theorem Steady.step {action : Action} {t : UpdateNotice} (h : Steady current registry s)
    (hAnnounced : Announced current s) (hStep : s.step current action = some t) :
    Steady current registry t ∧ Announced current t := by
  cases action with
  | check force now =>
      obtain rfl := Option.some.inj hStep
      exact h.checkForUpdates hAnnounced force now
  | answer index result =>
      obtain ⟨check, -, rfl⟩ := Option.map_eq_some_iff.mp hStep
      apply Steady.checkAnswered
      · exact { h with shows := fun hUpdate => { h.shows hUpdate with } }
      · exact hAnnounced
  | dismissUpdate =>
      simp only [UpdateNotice.step] at hStep
      split_ifs at hStep with hShown
      obtain rfl := Option.some.inj hStep
      constructor
      · constructor
        · exact ⟨h.tells.answered, List.getLastD_concat.symm⟩
        · exact h.tellsSaved
        · intro hAgain
          cases hAgain
        · exact h.asked
      · intro _ hKnown
        simp [known, dismissUpdate, SettingsSession.step] at hKnown
  | saveClick form now =>
      simp only [UpdateNotice.step] at hStep
      cases hSave : s.session.settings.saveClick form with
      | error message =>
          rw [hSave] at hStep
          obtain rfl := Option.some.inj hStep
          exact ⟨h, hAnnounced⟩
      | ok kept =>
          rw [hSave] at hStep
          obtain rfl := Option.some.inj hStep
          have hSettings : (s.session.step (.saveClick form)).settings = kept := by
            rw [SettingsSession.step, hSave]
            rfl
          apply h.applySettings hAnnounced
          · rfl
          · rw [hSettings]
            exact saveClick_releases hSave
  | selectTool tool =>
      obtain rfl := Option.some.inj hStep
      exact h.other hAnnounced ⟨rfl, rfl, rfl⟩ rfl
  | saveWindowPlacement x y width height =>
      obtain rfl := Option.some.inj hStep
      exact h.other hAnnounced ⟨rfl, rfl, rfl⟩ rfl
  | close view =>
      obtain rfl := Option.some.inj hStep
      have hTells : Tells registry s.past (s.session.settings.detach view) := ⟨h.tells.answered, h.tells.dismissed⟩
      exact Steady.begun rfl ((load_save_releases _ _).tells hTells) h.asked
  | crash =>
      obtain rfl := Option.some.inj hStep
      exact Steady.begun rfl h.tellsSaved h.asked

end Steps

/-- Over any order of what may happen, any number of restarts and any answers, whatever was in the
registry: what is shown is newer than this copy and not what was dismissed last; a newer release
that is known is announced; and who asks of its own accord leaves a day between. What a session
was told that has crashed does not count. -/
theorem update_notice_sound (current : Version) (registry : Registry)
    {log : List (UpdateNotice × Action)} {s : UpdateNotice}
    (run : Runs (step current) (start registry) log s) :
    (s.hasUpdate = true → Shows current s ∧
      s.updateTag ≠ s.past.dismissed.getLastD (Settings.load registry).dismissedRelease) ∧
    Announced current s ∧
    ∀ asked ∈ s.asked, AskedCheck.Due registry asked := by
  have hStart : Steady current registry (start registry) ∧ Announced current (start registry) :=
    Steady.begun rfl ⟨rfl, rfl⟩ (by simp)
  obtain ⟨hSteady, hAnnounced⟩ :=
    run.invariant (fun s => Steady current registry s ∧ Announced current s) hStart
      fun _ _ _ h hStep => h.1.step h.2 hStep
  refine ⟨fun hShown => ?_, hAnnounced, hSteady.asked⟩
  have hShows := hSteady.shows hShown
  refine ⟨hShows, ?_⟩
  rw [← hSteady.tells.dismissed]
  exact hShows.undismissed

/-- An empty registry, a copy of version 2.2.2 and an answer with release 9.0.0: it is
announced, and a check an hour later does not ask again. -/
theorem update_notice_sound_once :
    ∃ log s, Runs (step { major := 2, minor := 2, build := 2 }) (start fun _ => none) log s ∧
      s.hasUpdate = true ∧ s.updateTag = wide "v9.0.0" ∧ s.asked.length = 1 ∧
      Shows { major := 2, minor := 2, build := 2 } s := by
  obtain ⟨log, s, run, hTest⟩ := exec_witness (step { major := 2, minor := 2, build := 2 })
    (start fun _ => none)
    [.check false 1700000000, .answer 0 (.ok ⟨.available, some (wide "v9.0.0"), []⟩), .check false 1700003600]
    (fun _ s => s.hasUpdate && s.updateTag == wide "v9.0.0" && s.asked.length == 1) (by decide)
  simp only [Bool.and_eq_true, beq_iff_eq] at hTest
  obtain ⟨⟨hShown, hTag⟩, hAsked⟩ := hTest
  have hSound := update_notice_sound { major := 2, minor := 2, build := 2 } (fun _ => none) run
  exact ⟨log, s, run, hShown, hTag, hAsked, (hSound.1 hShown).1⟩

end UpdateNotice

end WinDV
