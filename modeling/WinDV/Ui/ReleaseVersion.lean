import WinDV.Engine.Types
import WinDV.Ui.SettingsStore
import WinDV.Ui.UpdateChecker

/-! Versions of a release: how they are read from its tag, which one is newer, and which
file of a release is the installer. -/
namespace WinDV

/-- `System.Version`. A part that is not there is -1. -/
structure Version where
  major : Int
  minor : Int
  build : Int := -1
  revision : Int := -1
  deriving DecidableEq, Repr

namespace Version

/-- A part of a version's text. -/
def tryParseComponent (text : WString) : Option Int := ((intTryParse text).map Int32.toInt).filter (0 ≤ ·)

/-- `Version.TryParse`: two to four parts between dots. -/
def tryParse (text : WString) : Option Version :=
  match text.splitOn (wchar '.') with
  | [major, minor] => do
      return { major := ← tryParseComponent major, minor := ← tryParseComponent minor }
  | [major, minor, build] => do
      return {
        major := ← tryParseComponent major
        minor := ← tryParseComponent minor
        build := ← tryParseComponent build }
  | [major, minor, build, revision] => do
      return {
        major := ← tryParseComponent major
        minor := ← tryParseComponent minor
        build := ← tryParseComponent build
        revision := ← tryParseComponent revision }
  | _ => none

/-- `Normalize`. -/
def normalize (v : Version) : Version := { major := v.major, minor := v.minor, build := max v.build 0 }

/-- `ToString(3)` of a version that has been normalized. -/
def toString3 (v : Version) : WString :=
  toWString v.major.toNat ++ wide "." ++ toWString v.minor.toNat ++ wide "." ++ toWString v.build.toNat

/-- The parts in the order in which they are compared. -/
def parts (v : Version) : List Int := [v.major, v.minor, v.build, v.revision]

/-- `v > w`. -/
def newer (v w : Version) : Bool := w.parts < v.parts

/-- A version as `Normalize` leaves it, with every part an `int`. -/
structure Normal (v : Version) : Prop where
  major : 0 ≤ v.major ∧ v.major < 2 ^ 31
  minor : 0 ≤ v.minor ∧ v.minor < 2 ^ 31
  build : 0 ≤ v.build ∧ v.build < 2 ^ 31
  revision : v.revision = -1

end Version

/-- `TryParseVersion`. A null text and an empty one have no version. -/
def tryParseVersion (text : WString) : Option Version :=
  if text.isEmpty then none
  else
    let core := (text.dropWhile fun c => c = wchar 'v' || c = wchar 'V').takeWhile fun c =>
      c ≠ wchar '-' && c ≠ wchar '+'
    (Version.tryParse core).map Version.normalize

/-- `NewerThanCurrent`. -/
def newerThanCurrent (current : Version) (tag : WString) : Option Version :=
  (tryParseVersion tag).filter (·.newer current)

/-- `UpdateAsset`. -/
structure UpdateAsset where
  name : WString
  url : Uri
  deriving DecidableEq, Repr

/-- `RuntimeInformation.ProcessArchitecture`, as far as it matters. -/
inductive Architecture where
  | x64
  | x86
  | other
  deriving DecidableEq, Repr

/-- The name of an architecture in the name of an installer. -/
def Architecture.name : Architecture → Option WString
  | x64 => some (wide "x64")
  | x86 => some (wide "x86")
  | other => none

/-- What the installer of a version is called. -/
def installerName (version : Version) (arch : WString) : WString :=
  wide "WinDV-" ++ version.toString3 ++ wide "-" ++ arch ++ wide "-Setup.exe"

/-- `FindInstallerAsset`. -/
def findInstallerAsset (cf : CaseFold) (architecture : Architecture) (assets : List UpdateAsset)
    (tag : WString) : Option UpdateAsset := do
  let arch ← architecture.name
  let version ← tryParseVersion tag
  assets.find? fun asset => equalsNoCase cf asset.name (installerName version arch)

section Digits

theorem toWString_digits (n : Nat) : ∀ c ∈ toWString n, isDigit c = true := by
  intro c hc
  obtain ⟨d, hd, rfl⟩ := List.mem_map.mp hc
  exact isDigit_digitChar (Decimal.shortest_lt n hd)

theorem toWString_ne_nil (n : Nat) : toWString n ≠ [] := by
  have hPos := Decimal.shortest_pos n
  intro hNil
  rw [toWString, List.map_eq_nil_iff] at hNil
  simp [hNil] at hPos

theorem value_toWString (n : Nat) : Decimal.value ((toWString n).map digitValue) = n := by
  have hDigits : ((Decimal.shortest n).map digitChar).map digitValue = Decimal.shortest n := by
    rw [List.map_map]
    conv_rhs => rw [← List.map_id (Decimal.shortest n)]
    apply List.map_congr_left
    intro d hd
    exact digitValue_digitChar (Decimal.shortest_lt n hd)
  rw [toWString, hDigits, Decimal.value_shortest]

/-- A digit is neither of the characters a text is cut or cleaned at. -/
theorem isDigit_ne {c other : WChar} (h : isDigit c = true) (hOther : isDigit other = false) : c ≠ other := by
  rintro rfl
  rw [h] at hOther
  cases hOther

/-- A number without a sign reads back. -/
theorem tryParse_toWString {low high : Int} {n : Nat} (hLow : low ≤ n) (hHigh : (n : Int) ≤ high) :
    tryParse low high (toWString n) = some (n : Int) := by
  have hDigits := toWString_digits n
  cases hText : toWString n with
  | nil => exact absurd hText (toWString_ne_nil n)
  | cons c rest =>
      have hFirst : isDigit c = true := hDigits c (by rw [hText]; exact List.mem_cons_self)
      have hBlank : isNumberBlank c = false := by
        have hBounds := (isDigit_iff c).mp hFirst
        have hSpace : c ≠ wchar ' ' := isDigit_ne hFirst (by decide)
        have h13 : (13 : UInt16).toNat = 13 := rfl
        simp only [isNumberBlank, hSpace, decide_false, Bool.false_or, Bool.and_eq_false_iff,
          decide_eq_false_iff_not, UInt16.le_iff_toNat_le, h13]
        omega
      have hMinus : c ≠ wchar '-' := isDigit_ne hFirst (by decide)
      have hPlus : c ≠ wchar '+' := isDigit_ne hFirst (by decide)
      have hAll : (c :: rest).takeWhile isDigit = c :: rest := by
        rw [← hText]
        exact List.takeWhile_eq_self_iff.mpr hDigits
      have hNone : (c :: rest).dropWhile isDigit = [] := by
        rw [← hText]
        exact List.dropWhile_eq_nil_iff.mpr hDigits
      have hValue : Decimal.value ((c :: rest).map digitValue) = n := by
        rw [← hText, value_toWString]
      simp only [tryParse, List.dropWhile_cons, hBlank, Bool.false_eq_true, if_false, List.head?_cons,
        Option.some.injEq, hMinus, hPlus, or_self, hAll, hNone, List.dropWhile_nil, hValue]
      simp [hLow, hHigh]

end Digits

section RoundTrip

variable {v : Version}

theorem tryParseComponent_toWString {part : Int} (h : 0 ≤ part ∧ part < 2 ^ 31) :
    Version.tryParseComponent (toWString part.toNat) = some part := by
  have hNat : (part.toNat : Int) = part := Int.toNat_of_nonneg h.1
  have hInt : (Int32.ofInt part).toInt = part := Int32.toInt_ofInt_of_le (by omega) h.2
  rw [Version.tryParseComponent, intTryParse, tryParse_toWString (by omega) (by omega), hNat]
  simp only [Option.map_some, hInt]
  exact Option.filter_some_pos (decide_eq_true h.1)

theorem toWString_no_dot (n : Nat) : wchar '.' ∉ toWString n := by
  intro hDot
  have hDigit := toWString_digits n _ hDot
  revert hDigit
  decide

/-- The text of a version reads back. -/
theorem Version.tryParse_toString3 (h : v.Normal) : Version.tryParse v.toString3 = some v := by
  have hSplit : v.toString3.splitOn (wchar '.') =
      [toWString v.major.toNat, toWString v.minor.toNat, toWString v.build.toNat] := by
    have hText : v.toString3 = toWString v.major.toNat ++ wchar '.' ::
        (toWString v.minor.toNat ++ wchar '.' :: toWString v.build.toNat) := by
      simp [toString3, wide]
    rw [hText, List.splitOn_append_cons_self_of_not_mem (toWString_no_dot _),
      List.splitOn_append_cons_self_of_not_mem (toWString_no_dot _),
      List.splitOn_eq_singleton (toWString_no_dot _)]
  rw [Version.tryParse, hSplit]
  simp only [tryParseComponent_toWString h.major, tryParseComponent_toWString h.minor,
    tryParseComponent_toWString h.build]
  cases v with
  | mk major minor build revision =>
      obtain rfl : revision = -1 := h.revision
      rfl

theorem Version.normalize_normal (h : v.Normal) : v.normalize = v := by
  cases v with
  | mk major minor build revision =>
      obtain rfl : revision = -1 := h.revision
      rw [normalize, max_eq_left h.build.1]

theorem toString3_plain (v : Version) : ∀ c ∈ v.toString3, c ≠ wchar '-' ∧ c ≠ wchar '+' := by
  have hNumber : ∀ n, ∀ c ∈ toWString n, c ≠ wchar '-' ∧ c ≠ wchar '+' := by
    intro n c hc
    have hDigit := toWString_digits n c hc
    exact ⟨isDigit_ne hDigit (by decide), isDigit_ne hDigit (by decide)⟩
  have hDot : ∀ c ∈ wide ".", c ≠ wchar '-' ∧ c ≠ wchar '+' := by
    intro c hc
    obtain rfl : c = wchar '.' := List.mem_singleton.mp hc
    decide
  intro c hc
  simp only [Version.toString3, List.mem_append] at hc
  rcases hc with (((hMajor | hFirst) | hMinor) | hSecond) | hBuild
  · exact hNumber _ c hMajor
  · exact hDot c hFirst
  · exact hNumber _ c hMinor
  · exact hDot c hSecond
  · exact hNumber _ c hBuild

/-- The text of a version begins with a digit. -/
theorem toString3_head (v : Version) : ∃ c rest, v.toString3 = c :: rest ∧ isDigit c = true := by
  have hDigits := toWString_digits v.major.toNat
  cases hText : toWString v.major.toNat with
  | nil => exact absurd hText (toWString_ne_nil _)
  | cons c rest =>
      refine ⟨c, _, by rw [Version.toString3, hText]; rfl, hDigits c ?_⟩
      rw [hText]
      exact List.mem_cons_self

/-- The version a tag stands for, whatever follows a dash or a plus. -/
theorem tryParseVersion_tag (h : v.Normal) {suffix : WString}
    (hSuffix : ∀ c, suffix.head? = some c → c = wchar '-' ∨ c = wchar '+') :
    tryParseVersion (wide "v" ++ v.toString3 ++ suffix) = some v := by
  obtain ⟨c, rest, hHead, hDigit⟩ := toString3_head v
  have hLetter : (c = wchar 'v' || c = wchar 'V') = false := by
    have hSmall : c ≠ wchar 'v' := isDigit_ne hDigit (by decide)
    have hLarge : c ≠ wchar 'V' := isDigit_ne hDigit (by decide)
    simp [hSmall, hLarge]
  have hTrim : ((wide "v" ++ v.toString3 ++ suffix).dropWhile fun c => c = wchar 'v' || c = wchar 'V') =
      v.toString3 ++ suffix := by
    have hWide : wide "v" ++ v.toString3 ++ suffix = wchar 'v' :: (v.toString3 ++ suffix) := rfl
    have hFirst : (wchar 'v' = wchar 'v' || wchar 'v' = wchar 'V') = true := by decide
    rw [hWide, List.dropWhile_cons_of_pos (by exact hFirst), hHead, List.cons_append,
      List.dropWhile_cons_of_neg (by rw [hLetter]; exact Bool.false_ne_true)]
  have hTake : ((v.toString3 ++ suffix).takeWhile fun c => c ≠ wchar '-' && c ≠ wchar '+') = v.toString3 := by
    have hSelf : v.toString3.takeWhile (fun c => c ≠ wchar '-' && c ≠ wchar '+') = v.toString3 := by
      apply List.takeWhile_eq_self_iff.mpr
      intro c hc
      simpa using toString3_plain v c hc
    have hStop : suffix.takeWhile (fun c => c ≠ wchar '-' && c ≠ wchar '+') = [] := by
      cases suffix with
      | nil => rfl
      | cons c rest =>
          apply List.takeWhile_cons_of_neg
          rcases hSuffix c rfl with rfl | rfl
          · decide
          · decide
    rw [List.takeWhile_append_of_pos (fun c hc => by simpa using toString3_plain v c hc), hStop, List.append_nil]
  have hSome : (wide "v" ++ v.toString3 ++ suffix).isEmpty = false := rfl
  rw [tryParseVersion, hSome, if_neg Bool.false_ne_true, hTrim, hTake]
  show (Version.tryParse v.toString3).map Version.normalize = some v
  rw [Version.tryParse_toString3 h, Option.map_some, Version.normalize_normal h]

/-- The first of a list that passes a test passes it. -/
theorem find_installer {cf : CaseFold} {architecture : Architecture} {assets : List UpdateAsset}
    {tag : WString} {asset : UpdateAsset} (h : findInstallerAsset cf architecture assets tag = some asset) :
    ∃ arch version, architecture.name = some arch ∧ tryParseVersion tag = some version ∧ asset ∈ assets ∧
      equalsNoCase cf asset.name (installerName version arch) = true := by
  obtain ⟨arch, hArch, hRest⟩ := Option.bind_eq_some_iff.mp h
  obtain ⟨version, hVersion, hFind⟩ := Option.bind_eq_some_iff.mp hRest
  have hName := List.find?_some (p := fun asset : UpdateAsset =>
    equalsNoCase cf asset.name (installerName version arch)) hFind
  exact ⟨arch, version, hArch, hVersion, List.mem_of_find?_eq_some hFind, hName⟩

end RoundTrip

/-- A release reads back as it was published: from the tag "v1.2.3", with any suffix behind a
dash or a plus, the version is 1.2.3; it is offered exactly to older copies; and a file with
the installer's name for the version and the architecture is found among the files of the
release, whatever the case of its letters, while only such a file is. -/
theorem release_reads_back {v : Version} (h : v.Normal) (suffix : WString)
    (hSuffix : ∀ c, suffix.head? = some c → c = wchar '-' ∨ c = wchar '+') (current : Version)
    (cf : CaseFold) {architecture : Architecture} {arch : WString} (hArch : architecture.name = some arch)
    (assets : List UpdateAsset) :
    let tag := wide "v" ++ v.toString3 ++ suffix
    tryParseVersion tag = some v ∧
      newerThanCurrent current tag = (if v.newer current then some v else none) ∧
      ((∃ asset ∈ assets, equalsNoCase cf asset.name (installerName v arch) = true) ↔
        ∃ asset, findInstallerAsset cf architecture assets tag = some asset) ∧
      ∀ asset, findInstallerAsset cf architecture assets tag = some asset →
        asset ∈ assets ∧ equalsNoCase cf asset.name (installerName v arch) = true := by
  intro tag
  have hTag : tryParseVersion tag = some v := tryParseVersion_tag h hSuffix
  have hFind : findInstallerAsset cf architecture assets tag =
      assets.find? fun asset => equalsNoCase cf asset.name (installerName v arch) := by
    rw [findInstallerAsset, hArch, hTag]
    rfl
  refine ⟨hTag, ?_, ?_, ?_⟩
  · rw [newerThanCurrent, hTag, Option.filter_some]
  · rw [hFind, ← Option.isSome_iff_exists, List.find?_isSome]
  · intro asset hAsset
    rw [hFind] at hAsset
    have hName := List.find?_some (p := fun asset : UpdateAsset =>
      equalsNoCase cf asset.name (installerName v arch)) hAsset
    exact ⟨List.mem_of_find?_eq_some hAsset, hName⟩

/-- A beta of 2.5.1, seen by a copy of 2.5. -/
theorem release_reads_back_beta :
    tryParseVersion (wide "v" ++ Version.toString3 ⟨2, 5, 1, -1⟩ ++ wide "-beta") = some ⟨2, 5, 1, -1⟩ ∧
      newerThanCurrent ⟨2, 5, 0, -1⟩ (wide "v2.5.1-beta") = some ⟨2, 5, 1, -1⟩ := by
  have hNormal : Version.Normal ⟨2, 5, 1, -1⟩ := ⟨by decide, by decide, by decide, rfl⟩
  have hSuffix : ∀ c, (wide "-beta").head? = some c → c = wchar '-' ∨ c = wchar '+' := by
    intro c hc
    obtain rfl := Option.some.inj hc
    exact Or.inl rfl
  have hArch : Architecture.x64.name = some (wide "x64") := rfl
  have hAll := release_reads_back hNormal (wide "-beta") hSuffix ⟨2, 5, 0, -1⟩ .ascii hArch []
  exact ⟨hAll.1, by decide +kernel⟩

end WinDV
