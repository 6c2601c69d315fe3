import WinDV.Ui.ReleaseVersion

/-! What is made of the answer to the question for the latest release. The answer is taken
as the JSON reader has parsed it; it may be of any shape. -/
namespace WinDV

/-- `JsonElement`, as far as it is looked at. A text whose escapes leave half a surrogate
pair is there, but has no value. -/
inductive Json where
  | null
  | bool (value : Bool)
  | number
  | text (value : Option WString)
  | array (elements : List Json)
  | object (members : List (WString × Json))

/-- `TryGetProperty`: the last property of that name. Only an object has properties. -/
def Json.tryGetProperty (name : String) : Json → Except DownloadException (Option Json)
  | object members => .ok ((members.reverse.find? fun member => member.1 = wide name).map Prod.snd)
  | _ => .error .invalidOperation

/-- `GetString` of a property, if it is there and is a text. -/
def Json.textProperty (name : String) (element : Json) : Except DownloadException (Option WString) := do
  match ← element.tryGetProperty name with
  | some (.text (some value)) => return some value
  | some (.text none) => throw .invalidOperation
  | _ => return none

/-- `UpdateCheckOutcome`. -/
inductive UpdateCheckOutcome where
  | upToDate
  | available
  | checkFailed
  deriving DecidableEq, Repr

/-- `UpdateCheckResult`. -/
structure UpdateCheckResult where
  outcome : UpdateCheckOutcome
  tag : Option WString
  assets : List UpdateAsset
  deriving DecidableEq, Repr

/-- `UpdateCheckResult.Failed`. -/
def UpdateCheckResult.failed : UpdateCheckResult := ⟨.checkFailed, none, []⟩

/-- The exceptions `GetLatestReleaseAsync` catches. -/
def isOffline : DownloadException → Bool
  | .httpRequest _ | .unsuccessful _ | .io => true
  | .other name => name = wide "TaskCanceledException" || name = wide "JsonException"
  | _ => false

section Query

variable (cf : CaseFold) (tryCreate : WString → Option (WString × WString × WString)) (current : Version)

/-- The end of the condition in the loop over the assets, and the asset. -/
def checkedAsset (name : WString) (url : Uri) : Except DownloadException (Option UpdateAsset) := do
  if ← isValidAssetUrl cf (some url) then return some ⟨name, url⟩ else return none

/-- One turn of the loop over the assets: the asset, if it is one that may be offered.
`tryCreate` is `Uri.TryCreate` of an absolute URL: its scheme, its host and the rest. -/
def assetOf (element : Json) : Except DownloadException (Option UpdateAsset) := do
  match ← element.textProperty "name" with
  | none => return none
  | some name =>
      match ← element.textProperty "browser_download_url" with
      | none => return none
      | some text =>
          match tryCreate text with
          | none => return none
          | some (scheme, host, rest) => checkedAsset cf name (.absolute scheme host rest)

/-- The loop over the assets. -/
def assetsOf : List Json → Except DownloadException (List UpdateAsset)
  | [] => return []
  | element :: rest => do
      let asset ← assetOf cf tryCreate element
      return asset.toList ++ (← assetsOf rest)

/-- The assets of a release, if there is an array of them. -/
def releaseAssets (root : Json) : Except DownloadException (List UpdateAsset) := do
  match ← root.tryGetProperty "assets" with
  | some (.array elements) => assetsOf cf tryCreate elements
  | _ => return []

/-- The body of the `try` of `GetLatestReleaseAsync`, behind the parsed answer. -/
def readRelease (root : Json) : Except DownloadException UpdateCheckResult := do
  match ← root.textProperty "tag_name" with
  | none => return .failed
  | some tag =>
      if (tryParseVersion tag).isNone then return .failed
      else
        let assets ← releaseAssets cf tryCreate root
        let outcome := if (newerThanCurrent current tag).isSome then .available else .upToDate
        return ⟨outcome, some tag, assets⟩

/-- `GetLatestReleaseAsync`. -/
def getLatestRelease (answer : Except DownloadException Json) :
    Except DownloadException UpdateCheckResult :=
  tryCatch (answer.bind (readRelease cf tryCreate current)) fun e =>
    if isOffline e then .ok .failed else .error e

end Query

section Property

/-- An object's property of that name: the last one. -/
def Json.HasProperty (element : Json) (name : String) (value : Json) : Prop :=
  ∃ before after, element = .object (before ++ (wide name, value) :: after) ∧
    ∀ member ∈ after, member.1 ≠ wide name

def Json.IsObject (element : Json) : Prop := ∃ members, element = .object members

variable {element : Json} {name : String}

theorem Json.tryGetProperty_eq_error {e : DownloadException} :
    element.tryGetProperty name = .error e ↔ ¬ element.IsObject ∧ e = .invalidOperation := by
  cases element with
  | object members => exact ⟨nofun, fun h => absurd ⟨members, rfl⟩ h.1⟩
  | _ =>
      constructor
      · rintro ⟨⟩
        exact ⟨nofun, rfl⟩
      · rintro ⟨-, rfl⟩
        rfl

theorem Json.tryGetProperty_eq_some {value : Json} :
    element.tryGetProperty name = .ok (some value) ↔ element.HasProperty name value := by
  cases element with
  | object members =>
      rw [tryGetProperty, Except.ok.injEq, Option.map_eq_some_iff]
      constructor
      · rintro ⟨⟨found, held⟩, hFind, rfl⟩
        obtain ⟨hName, after, before, hSplit, hAfter⟩ := List.find?_eq_some_iff_append.mp hFind
        obtain rfl : found = wide name := of_decide_eq_true hName
        refine ⟨before.reverse, after.reverse, ?_, ?_⟩
        · rw [List.reverse_eq_iff] at hSplit
          rw [hSplit]
          simp
        · intro member hMember
          simpa using hAfter member (List.mem_reverse.mp hMember)
      · rintro ⟨before, after, hMembers, hAfter⟩
        obtain rfl := Json.object.inj hMembers
        refine ⟨(wide name, value), ?_, rfl⟩
        apply List.find?_eq_some_iff_append.mpr
        refine ⟨decide_eq_true rfl, after.reverse, before.reverse, by simp, ?_⟩
        intro member hMember
        simpa using hAfter member (List.mem_reverse.mp hMember)
  | _ => exact ⟨nofun, nofun⟩

theorem Json.not_isObject_iff (name : String) :
    ¬ element.IsObject ↔ element.tryGetProperty name = .error .invalidOperation := by
  rw [tryGetProperty_eq_error]
  exact (and_iff_left rfl).symm

theorem Json.textProperty_eq_error {e : DownloadException} :
    element.textProperty name = .error e ↔
      (¬ element.IsObject ∨ element.HasProperty name (.text none)) ∧ e = .invalidOperation := by
  rw [not_isObject_iff name, ← tryGetProperty_eq_some, textProperty]
  cases hGet : element.tryGetProperty name with
  | error other =>
      obtain ⟨-, rfl⟩ := tryGetProperty_eq_error.mp hGet
      show Except.error DownloadException.invalidOperation = Except.error e ↔ _
      simp [eq_comm]
  | ok found =>
      cases found with
      | none => simp [pure, Except.pure, bind, Except.bind]
      | some value =>
          cases value with
          | text text =>
              cases text with
              | none =>
                  show Except.error DownloadException.invalidOperation = Except.error e ↔ _
                  simp [eq_comm]
              | some text => simp [pure, Except.pure, bind, Except.bind]
          | _ => simp [pure, Except.pure, bind, Except.bind]

theorem Json.textProperty_eq_some {text : WString} :
    element.textProperty name = .ok (some text) ↔ element.HasProperty name (.text (some text)) := by
  rw [← tryGetProperty_eq_some, textProperty]
  cases hGet : element.tryGetProperty name with
  | error e => simp [bind, Except.bind]
  | ok found =>
      cases found with
      | none => simp [pure, Except.pure, bind, Except.bind]
      | some value =>
          cases value with
          | text held =>
              cases held with
              | none =>
                  show Except.error DownloadException.invalidOperation = Except.ok (some text) ↔ _
                  simp
              | some held => simp [pure, Except.pure, bind, Except.bind]
          | _ => simp [pure, Except.pure, bind, Except.bind]

end Property

section Release

variable (cf : CaseFold) (tryCreate : WString → Option (WString × WString × WString)) (current : Version)

/-- The asset an element of the list offers: it has a name, and an absolute URL of an allowed
host. -/
def Json.Offers (element : Json) (asset : UpdateAsset) : Prop :=
  element.HasProperty "name" (.text (some asset.name)) ∧ ∃ text scheme host rest,
    element.HasProperty "browser_download_url" (.text (some text)) ∧
      tryCreate text = some (scheme, host, rest) ∧ asset.url = .absolute scheme host rest ∧
      asset.url.Trusted cf

/-- An element that cannot be read: it is no object, or one of its texts has no value. -/
def Json.Unreadable (element : Json) : Prop :=
  ¬ element.IsObject ∨ element.HasProperty "name" (.text none) ∨
    ∃ name, element.HasProperty "name" (.text (some name)) ∧
      element.HasProperty "browser_download_url" (.text none)

/-- The assets of the elements, in their order; an element that offers none is left out. -/
inductive OffersAll : List Json → List UpdateAsset → Prop
  | nil : OffersAll [] []
  | offer {element : Json} {asset : UpdateAsset} {rest : List Json} {assets : List UpdateAsset}
      (offers : element.Offers cf tryCreate asset) (others : OffersAll rest assets) :
      OffersAll (element :: rest) (asset :: assets)
  | skip {element : Json} {rest : List Json} {assets : List UpdateAsset}
      (readable : ¬ element.Unreadable) (offersNone : ∀ asset, ¬ element.Offers cf tryCreate asset)
      (others : OffersAll rest assets) : OffersAll (element :: rest) assets

/-- The assets of a release; without an array of them there are none. -/
def Json.ListsAssets (root : Json) (assets : List UpdateAsset) : Prop :=
  root.IsObject ∧
    ((∃ elements, root.HasProperty "assets" (.array elements) ∧ OffersAll cf tryCreate elements assets) ∨
      (∀ elements, ¬ root.HasProperty "assets" (.array elements)) ∧ assets = [])

/-- A JSON the check cannot read: it is no object, its tag has no value, or the tag is that of
a version and an element of its assets cannot be read. -/
def Json.Malformed (root : Json) : Prop :=
  ¬ root.IsObject ∨ root.HasProperty "tag_name" (.text none) ∨
    ∃ tag version elements, root.HasProperty "tag_name" (.text (some tag)) ∧
      tryParseVersion tag = some version ∧ root.HasProperty "assets" (.array elements) ∧
      ∃ element ∈ elements, element.Unreadable

/-- What the check makes of a JSON. -/
inductive ReadsAs (root : Json) : Except DownloadException UpdateCheckResult → Prop
  | noVersion (isObject : root.IsObject)
      (unversioned : ∀ text, root.HasProperty "tag_name" (.text text) →
        ∃ tag, text = some tag ∧ tryParseVersion tag = none) :
      ReadsAs root (.ok .failed)
  | release {tag : WString} {version : Version} {assets : List UpdateAsset}
      (tagged : root.HasProperty "tag_name" (.text (some tag)))
      (versioned : tryParseVersion tag = some version) (listed : root.ListsAssets cf tryCreate assets) :
      ReadsAs root (.ok ⟨if version.newer current then .available else .upToDate, some tag, assets⟩)
  | malformed (isMalformed : root.Malformed) : ReadsAs root (.error .invalidOperation)

/-- What the check makes of an answer. -/
inductive AnswersAs : Except DownloadException Json → Except DownloadException UpdateCheckResult → Prop
  | offline {e : DownloadException} (caught : isOffline e = true) : AnswersAs (.error e) (.ok .failed)
  | thrown {e : DownloadException} (notCaught : isOffline e = false) : AnswersAs (.error e) (.error e)
  | read {root : Json} {result : Except DownloadException UpdateCheckResult}
      (reads : ReadsAs cf tryCreate current root result) : AnswersAs (.ok root) result

variable {cf tryCreate current} {element root : Json} {assets : List UpdateAsset}

/-- The check of an absolute URL throws nothing. -/
theorem isValidAssetUrl_absolute (cf : CaseFold) (scheme host rest : WString) :
    ∃ valid, isValidAssetUrl cf (some (.absolute scheme host rest)) = .ok valid := by
  rw [isValidAssetUrl, Uri.getScheme, Uri.getHost]
  by_cases hScheme : scheme = uriSchemeHttps
  · rw [hScheme]
    exact ⟨_, rfl⟩
  · exact ⟨false, if_neg hScheme⟩

theorem assetOf_eq_some {asset : UpdateAsset} :
    assetOf cf tryCreate element = .ok (some asset) ↔ element.Offers cf tryCreate asset := by
  constructor
  · intro h
    obtain ⟨name, hName, h⟩ := ok_of_bind h
    cases name with
    | none => cases h
    | some name =>
        obtain ⟨text, hText, h⟩ := ok_of_bind h
        cases text with
        | none => cases h
        | some text =>
            dsimp only at h
            cases hUrl : tryCreate text with
            | none =>
                rw [hUrl] at h
                cases h
            | some parsed =>
                rw [hUrl] at h
                obtain ⟨valid, hValid, h⟩ := ok_of_bind h
                cases valid with
                | false => cases h
                | true =>
                    cases h
                    exact ⟨Json.textProperty_eq_some.mp hName, text, _, _, _, Json.textProperty_eq_some.mp hText,
                      hUrl, rfl, (isValidAssetUrl_iff cf _).mp hValid⟩
  · rintro ⟨hName, text, scheme, host, rest, hText, hUrl, hSame, hTrusted⟩
    rw [assetOf, Json.textProperty_eq_some.mpr hName]
    show (element.textProperty "browser_download_url" >>= _) = _
    rw [Json.textProperty_eq_some.mpr hText]
    dsimp only [bind, Except.bind]
    rw [hUrl]
    dsimp only
    rw [← hSame, checkedAsset, (isValidAssetUrl_iff cf _).mpr hTrusted]
    rfl

theorem assetOf_eq_error {e : DownloadException} :
    assetOf cf tryCreate element = .error e ↔ element.Unreadable ∧ e = .invalidOperation := by
  constructor
  · intro h
    rcases error_of_bind h with hName | ⟨name, hName, h⟩
    · obtain ⟨hBroken, hSame⟩ := Json.textProperty_eq_error.mp hName
      exact ⟨hBroken.imp_right Or.inl, hSame⟩
    · cases name with
      | none => cases h
      | some name =>
          rcases error_of_bind h with hText | ⟨text, hText, h⟩
          · obtain ⟨hBroken, hSame⟩ := Json.textProperty_eq_error.mp hText
            have hHas := Json.textProperty_eq_some.mp hName
            exact ⟨hBroken.imp_right fun hText => Or.inr ⟨name, hHas, hText⟩, hSame⟩
          · cases text with
            | none => cases h
            | some text =>
                dsimp only at h
                cases hUrl : tryCreate text with
                | none =>
                    rw [hUrl] at h
                    cases h
                | some parsed =>
                    rw [hUrl] at h
                    obtain ⟨valid, hValid⟩ := isValidAssetUrl_absolute cf parsed.1 parsed.2.1 parsed.2.2
                    rcases error_of_bind h with hThrown | ⟨given, -, h⟩
                    · rw [hValid] at hThrown
                      cases hThrown
                    · cases given with
                      | false => cases h
                      | true => cases h
  · rintro ⟨hBroken | hName | ⟨name, hName, hText⟩, rfl⟩
    · rw [assetOf, Json.textProperty_eq_error.mpr ⟨Or.inl hBroken, rfl⟩]
      rfl
    · rw [assetOf, Json.textProperty_eq_error.mpr ⟨Or.inr hName, rfl⟩]
      rfl
    · rw [assetOf, Json.textProperty_eq_some.mpr hName]
      show (element.textProperty "browser_download_url" >>= _) = _
      rw [Json.textProperty_eq_error.mpr ⟨Or.inr hText, rfl⟩]
      rfl

theorem assetsOf_eq_ok {elements : List Json} :
    assetsOf cf tryCreate elements = .ok assets ↔ OffersAll cf tryCreate elements assets := by
  constructor
  · intro h
    induction elements generalizing assets with
    | nil =>
        cases h
        exact .nil
    | cons element rest ih =>
        obtain ⟨found, hFound, h⟩ := ok_of_bind h
        obtain ⟨others, hOthers, h⟩ := ok_of_bind h
        cases h
        cases found with
        | some asset => exact .offer (assetOf_eq_some.mp hFound) (ih hOthers)
        | none =>
            refine .skip (fun hBroken => ?_) (fun asset hOffers => ?_) (ih hOthers)
            · rw [assetOf_eq_error.mpr ⟨hBroken, rfl⟩] at hFound
              cases hFound
            · rw [← assetOf_eq_some, hFound] at hOffers
              cases hOffers
  · intro h
    induction h with
    | nil => rfl
    | offer offers others ih =>
        rw [assetsOf, assetOf_eq_some.mpr offers, ih]
        rfl
    | @skip element rest assets readable offersNone others ih =>
        cases hFound : assetOf cf tryCreate element with
        | error e => exact absurd (assetOf_eq_error.mp hFound).1 readable
        | ok found =>
            cases found with
            | some asset => exact absurd (assetOf_eq_some.mp hFound) (offersNone asset)
            | none =>
                rw [assetsOf, hFound, ih]
                rfl

theorem assetsOf_eq_error {elements : List Json} {e : DownloadException} :
    assetsOf cf tryCreate elements = .error e ↔
      (∃ element ∈ elements, element.Unreadable) ∧ e = .invalidOperation := by
  induction elements with
  | nil => exact ⟨nofun, nofun⟩
  | cons element rest ih =>
      constructor
      · intro h
        rcases error_of_bind h with hHere | ⟨found, hFound, h⟩
        · obtain ⟨hBroken, hSame⟩ := assetOf_eq_error.mp hHere
          exact ⟨⟨element, List.mem_cons_self, hBroken⟩, hSame⟩
        · rcases error_of_bind h with hLater | ⟨others, -, h⟩
          · obtain ⟨⟨other, hOther, hBroken⟩, hSame⟩ := ih.mp hLater
            exact ⟨⟨other, List.mem_cons_of_mem _ hOther, hBroken⟩, hSame⟩
          · cases h
      · rintro ⟨⟨other, hOther, hBroken⟩, rfl⟩
        cases hFound : assetOf cf tryCreate element with
        | error e =>
            obtain ⟨-, rfl⟩ := assetOf_eq_error.mp hFound
            rw [assetsOf, hFound]
            rfl
        | ok found =>
            rcases List.mem_cons.mp hOther with rfl | hRest
            · rw [assetOf_eq_error.mpr ⟨hBroken, rfl⟩] at hFound
              cases hFound
            · rw [assetsOf, hFound, ih.mpr ⟨⟨other, hRest, hBroken⟩, rfl⟩]
              rfl

theorem releaseAssets_eq_ok :
    releaseAssets cf tryCreate root = .ok assets ↔ root.ListsAssets cf tryCreate assets := by
  constructor
  · intro h
    obtain ⟨found, hFound, h⟩ := ok_of_bind h
    have hObject : root.IsObject := by
      by_contra hNot
      rw [(Json.not_isObject_iff "assets").mp hNot] at hFound
      cases hFound
    have hNone : (∀ elements, found ≠ some (.array elements)) →
        ∀ elements, ¬ root.HasProperty "assets" (.array elements) := by
      intro hOther elements hHas
      rw [← Json.tryGetProperty_eq_some, hFound] at hHas
      exact hOther elements (Except.ok.inj hHas)
    refine ⟨hObject, ?_⟩
    cases found with
    | none =>
        cases h
        exact Or.inr ⟨hNone nofun, rfl⟩
    | some value =>
        cases value with
        | array elements => exact Or.inl ⟨elements, Json.tryGetProperty_eq_some.mp hFound, assetsOf_eq_ok.mp h⟩
        | _ =>
            cases h
            exact Or.inr ⟨hNone nofun, rfl⟩
  · rintro ⟨hObject, ⟨elements, hHas, hOffers⟩ | ⟨hNone, rfl⟩⟩
    · rw [releaseAssets, Json.tryGetProperty_eq_some.mpr hHas]
      exact assetsOf_eq_ok.mpr hOffers
    · cases hFound : root.tryGetProperty "assets" with
      | error e => exact absurd hObject (Json.tryGetProperty_eq_error.mp hFound).1
      | ok found =>
          rw [releaseAssets, hFound]
          cases found with
          | none => rfl
          | some value =>
              cases value with
              | array elements => exact absurd (Json.tryGetProperty_eq_some.mp hFound) (hNone elements)
              | _ => rfl

theorem releaseAssets_eq_error {e : DownloadException} :
    releaseAssets cf tryCreate root = .error e ↔
      (¬ root.IsObject ∨ ∃ elements, root.HasProperty "assets" (.array elements) ∧
        ∃ element ∈ elements, element.Unreadable) ∧ e = .invalidOperation := by
  constructor
  · intro h
    rcases error_of_bind h with hRoot | ⟨found, hFound, h⟩
    · obtain ⟨hNot, hSame⟩ := Json.tryGetProperty_eq_error.mp hRoot
      exact ⟨Or.inl hNot, hSame⟩
    · cases found with
      | none => cases h
      | some value =>
          cases value with
          | array elements =>
              obtain ⟨hBroken, hSame⟩ := assetsOf_eq_error.mp h
              exact ⟨Or.inr ⟨elements, Json.tryGetProperty_eq_some.mp hFound, hBroken⟩, hSame⟩
          | _ => cases h
  · rintro ⟨hNot | ⟨elements, hHas, hBroken⟩, rfl⟩
    · rw [releaseAssets, (Json.not_isObject_iff "assets").mp hNot]
      rfl
    · rw [releaseAssets, Json.tryGetProperty_eq_some.mpr hHas]
      exact assetsOf_eq_error.mpr ⟨hBroken, rfl⟩

/-- With a tag that is that of a version, only the assets matter. -/
theorem readRelease_version {tag : WString} {version : Version}
    (hTag : root.HasProperty "tag_name" (.text (some tag))) (hVersion : tryParseVersion tag = some version) :
    readRelease cf tryCreate current root = (releaseAssets cf tryCreate root).bind fun assets =>
      .ok ⟨if version.newer current then .available else .upToDate, some tag, assets⟩ := by
  have hOutcome : (newerThanCurrent current tag).isSome = version.newer current := by
    rw [newerThanCurrent, hVersion, Option.filter_some]
    cases version.newer current with
    | true => rfl
    | false => rfl
  rw [readRelease, Json.textProperty_eq_some.mpr hTag]
  dsimp only [bind, Except.bind]
  rw [hVersion, hOutcome]
  rfl

theorem readRelease_noVersion {tag : WString} (hTag : root.HasProperty "tag_name" (.text (some tag)))
    (hVersion : tryParseVersion tag = none) : readRelease cf tryCreate current root = .ok .failed := by
  rw [readRelease, Json.textProperty_eq_some.mpr hTag]
  dsimp only [bind, Except.bind]
  rw [hVersion]
  rfl

theorem readRelease_reads (cf : CaseFold) (tryCreate : WString → Option (WString × WString × WString))
    (current : Version) (root : Json) :
    ReadsAs cf tryCreate current root (readRelease cf tryCreate current root) := by
  cases hTag : root.textProperty "tag_name" with
  | error e =>
      obtain ⟨hBroken, rfl⟩ := Json.textProperty_eq_error.mp hTag
      rw [readRelease, hTag]
      exact .malformed (hBroken.imp_right Or.inl)
  | ok found =>
      have hUnbroken : ¬ (¬ root.IsObject ∨ root.HasProperty "tag_name" (.text none)) := by
        intro hBroken
        rw [Json.textProperty_eq_error.mpr ⟨hBroken, rfl⟩] at hTag
        cases hTag
      obtain ⟨hObject, hNoText⟩ := not_or.mp hUnbroken
      have hGiven : ∀ text, root.HasProperty "tag_name" (.text text) → text ≠ none ∧ found = text := by
        intro text hHas
        cases text with
        | none => exact absurd hHas hNoText
        | some text =>
            rw [Json.textProperty_eq_some.mpr hHas] at hTag
            exact ⟨nofun, (Except.ok.inj hTag).symm⟩
      cases found with
      | none =>
          rw [readRelease, hTag]
          refine .noVersion (not_not.mp hObject) fun text hHas => ?_
          obtain ⟨hSome, rfl⟩ := hGiven text hHas
          exact absurd rfl hSome
      | some tag =>
          have hHas := Json.textProperty_eq_some.mp hTag
          cases hVersion : tryParseVersion tag with
          | none =>
              rw [readRelease_noVersion hHas hVersion]
              refine .noVersion (not_not.mp hObject) fun text hText => ?_
              obtain ⟨-, rfl⟩ := hGiven text hText
              exact ⟨tag, rfl, hVersion⟩
          | some version =>
              rw [readRelease_version hHas hVersion]
              cases hAssets : releaseAssets cf tryCreate root with
              | ok assets => exact .release hHas hVersion (releaseAssets_eq_ok.mp hAssets)
              | error e =>
                  obtain ⟨hNot | ⟨elements, hElements, hBroken⟩, rfl⟩ := releaseAssets_eq_error.mp hAssets
                  · exact absurd hNot hObject
                  · exact .malformed (Or.inr (Or.inr ⟨tag, version, elements, hHas, hVersion, hElements, hBroken⟩))

/-- A JSON is read in one way only. -/
theorem ReadsAs.readRelease {result : Except DownloadException UpdateCheckResult}
    (h : ReadsAs cf tryCreate current root result) : readRelease cf tryCreate current root = result := by
  cases h with
  | noVersion isObject unversioned =>
      cases hTag : root.textProperty "tag_name" with
      | error e =>
          obtain ⟨hNot | hNoText, -⟩ := Json.textProperty_eq_error.mp hTag
          · exact absurd isObject hNot
          · obtain ⟨tag, hSame, -⟩ := unversioned _ hNoText
            cases hSame
      | ok found =>
          cases found with
          | none =>
              rw [WinDV.readRelease, hTag]
              rfl
          | some tag =>
              have hHas := Json.textProperty_eq_some.mp hTag
              obtain ⟨other, hSame, hVersion⟩ := unversioned _ hHas
              obtain rfl := Option.some.inj hSame
              exact readRelease_noVersion hHas hVersion
  | release tagged versioned listed =>
      rw [readRelease_version tagged versioned, releaseAssets_eq_ok.mpr listed]
      rfl
  | malformed isMalformed =>
      rcases isMalformed with hNot | hNoText | ⟨tag, version, elements, hTag, hVersion, hElements, hBroken⟩
      · rw [WinDV.readRelease, Json.textProperty_eq_error.mpr ⟨Or.inl hNot, rfl⟩]
        rfl
      · rw [WinDV.readRelease, Json.textProperty_eq_error.mpr ⟨Or.inr hNoText, rfl⟩]
        rfl
      · rw [readRelease_version hTag hVersion,
          releaseAssets_eq_error.mpr ⟨Or.inr ⟨elements, hElements, hBroken⟩, rfl⟩]
        rfl

/-- What reading throws is not caught. -/
theorem getLatestRelease_ok (root : Json) :
    getLatestRelease cf tryCreate current (.ok root) = readRelease cf tryCreate current root := by
  have hReads := readRelease_reads cf tryCreate current root
  rw [getLatestRelease, Except.bind]
  generalize readRelease cf tryCreate current root = result at hReads ⊢
  cases hReads with
  | noVersion | release | malformed => rfl

theorem getLatestRelease_eq_iff {answer : Except DownloadException Json}
    {result : Except DownloadException UpdateCheckResult} :
    getLatestRelease cf tryCreate current answer = result ↔ AnswersAs cf tryCreate current answer result := by
  constructor
  · rintro rfl
    cases answer with
    | error e =>
        have hCaught : getLatestRelease cf tryCreate current (.error e) =
            if isOffline e then .ok .failed else .error e := rfl
        rw [hCaught]
        cases hOffline : isOffline e with
        | true => exact .offline hOffline
        | false => exact .thrown hOffline
    | ok root =>
        rw [getLatestRelease_ok]
        exact .read (readRelease_reads cf tryCreate current root)
  · intro h
    cases h with
    | @offline e caught => exact if_pos caught
    | @thrown e notCaught => exact if_neg (by simp [notCaught])
    | @read root result reads => exact (getLatestRelease_ok root).trans reads.readRelease

end Release

/-- Whatever is answered, the check ends in just one of these ways. It has failed, as on every
exception of a network that is away, and without the tag of a version; it names a release, with
the assets it lists that come from allowed hosts; or it throws, against its comment: an exception
that is not caught, or `InvalidOperationException` for a JSON of another shape. -/
theorem latest_release_sound (cf : CaseFold) (tryCreate : WString → Option (WString × WString × WString))
    (current : Version) (answer : Except DownloadException Json)
    (result : Except DownloadException UpdateCheckResult) :
    getLatestRelease cf tryCreate current answer = result ↔ AnswersAs cf tryCreate current answer result :=
  getLatestRelease_eq_iff

end WinDV
