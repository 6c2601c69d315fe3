import WinDV.Core.WideString

/-! The hosts an update may come from. A URL is taken as the runtime has parsed it;
the check looks at its scheme and its host. -/
namespace WinDV

/-- A parsed `Uri`. What is behind the host of an absolute one does not matter here. -/
inductive Uri where
  | absolute (scheme host rest : WString)
  | relative (text : WString)
  deriving DecidableEq, Repr

/-- The exceptions of a download; `unsuccessful` is the `HttpRequestException` of
`EnsureSuccessStatusCode`. -/
inductive DownloadException where
  | argument (message paramName : WString)
  | httpRequest (message : WString)
  | unsuccessful (statusCode : Int)
  | invalidOperation
  | io
  | unauthorizedAccess
  | other (name : WString)
  deriving DecidableEq, Repr

namespace Uri

/-- `IsAbsoluteUri`. -/
def isAbsoluteUri : Uri → Bool
  | absolute _ _ _ => true
  | relative _ => false

/-- `Scheme`, which a relative URL does not have. -/
def getScheme : Uri → Except DownloadException WString
  | absolute scheme _ _ => .ok scheme
  | relative _ => .error .invalidOperation

/-- `Host`. -/
def getHost : Uri → Except DownloadException WString
  | absolute _ host _ => .ok host
  | relative _ => .error .invalidOperation

end Uri

/-- `Uri.UriSchemeHttps`. -/
def uriSchemeHttps : WString := wide "https"

/-- `EndsWith` with `StringComparison.OrdinalIgnoreCase`. -/
def endsWithNoCase (cf : CaseFold) (text suffix : WString) : Bool :=
  suffix.length ≤ text.length && equalsNoCase cf (text.drop (text.length - suffix.length)) suffix

/-- `UpdateChecker.IsValidAssetUrl`. -/
def isValidAssetUrl (cf : CaseFold) : Option Uri → Except DownloadException Bool
  | none => .ok false
  | some url => do
      if (← url.getScheme) = uriSchemeHttps then
        let host ← url.getHost
        return equalsNoCase cf host (wide "github.com") || endsWithNoCase cf host (wide ".github.com") ||
          equalsNoCase cf host (wide "githubusercontent.com") ||
            endsWithNoCase cf host (wide ".githubusercontent.com")
      else return false

/-- A host is a domain or one of its subdomains, whatever the case of its letters. -/
def InDomain (cf : CaseFold) (domain host : WString) : Prop :=
  equalsNoCase cf host domain = true ∨
    ∃ front own, host = front ++ wchar '.' :: own ∧ equalsNoCase cf own domain = true

/-- A URL of an allowed host. -/
def Uri.Trusted (cf : CaseFold) (url : Uri) : Prop :=
  ∃ host rest, url = .absolute uriSchemeHttps host rest ∧
    (InDomain cf (wide "github.com") host ∨ InDomain cf (wide "githubusercontent.com") host)

/-- The end that is compared begins with a dot, and only a dot equals one. -/
theorem endsWithNoCase_dot (cf : CaseFold) (host domain : WString) :
    endsWithNoCase cf host (wchar '.' :: domain) = true ↔
      ∃ front own, host = front ++ wchar '.' :: own ∧ equalsNoCase cf own domain = true := by
  rw [endsWithNoCase, Bool.and_eq_true, decide_eq_true_eq]
  constructor
  · rintro ⟨hLength, hEnd⟩
    have hParts := List.take_append_drop (host.length - (wchar '.' :: domain).length) host
    rw [equalsNoCase_iff, List.map_cons] at hEnd
    cases hDrop : host.drop (host.length - (wchar '.' :: domain).length) with
    | nil =>
        rw [hDrop] at hEnd
        cases hEnd
    | cons c own =>
        rw [hDrop, List.map_cons, List.cons.injEq] at hEnd
        have hDot : c = wchar '.' := cf.eq_of_fold_other cf.dot_other hEnd.1
        rw [hDrop, hDot] at hParts
        exact ⟨_, own, hParts.symm, (equalsNoCase_iff cf own domain).mpr hEnd.2⟩
  · rintro ⟨front, own, rfl, hOwn⟩
    have hSame : own.length = domain.length := equalsNoCase_length hOwn
    have hEnd : (front ++ wchar '.' :: own).drop
        ((front ++ wchar '.' :: own).length - (wchar '.' :: domain).length) = wchar '.' :: own := by
      have hFront : (front ++ wchar '.' :: own).length - (wchar '.' :: domain).length = front.length := by
        simp only [List.length_append, List.length_cons]
        omega
      rw [hFront, List.drop_left' rfl]
    constructor
    · simp only [List.length_append, List.length_cons]
      omega
    · rw [hEnd, equalsNoCase_iff, List.map_cons, List.map_cons, (equalsNoCase_iff cf own domain).mp hOwn]

theorem inDomain_iff (cf : CaseFold) (domain host : WString) :
    InDomain cf domain host ↔
      (equalsNoCase cf host domain || endsWithNoCase cf host (wchar '.' :: domain)) = true := by
  rw [InDomain, Bool.or_eq_true, endsWithNoCase_dot]

/-- Both parts of a computation that succeeds have succeeded. -/
theorem ok_of_bind {ε α β : Type} {first : Except ε α} {second : α → Except ε β} {result : β}
    (h : (first >>= second) = .ok result) :
    ∃ middle, first = .ok middle ∧ second middle = .ok result := by
  cases first with
  | error e => cases h
  | ok middle => exact ⟨middle, rfl, h⟩

/-- One of the parts of a computation that fails has failed. -/
theorem error_of_bind {ε α β : Type} {first : Except ε α} {second : α → Except ε β} {e : ε}
    (h : (first >>= second) = .error e) :
    first = .error e ∨ ∃ middle, first = .ok middle ∧ second middle = .error e := by
  cases first with
  | error other =>
      obtain rfl := Except.error.inj h
      exact Or.inl rfl
  | ok middle => exact Or.inr ⟨middle, rfl, h⟩

/-- The check passes exactly the URLs of the allowed hosts. -/
theorem isValidAssetUrl_iff (cf : CaseFold) (url : Uri) :
    isValidAssetUrl cf (some url) = .ok true ↔ url.Trusted cf := by
  cases url with
  | relative text =>
      constructor
      · rintro ⟨⟩
      · rintro ⟨host, rest, hUrl, -⟩
        cases hUrl
  | absolute scheme host rest =>
      have hCheck : isValidAssetUrl cf (some (.absolute scheme host rest)) =
          if scheme = uriSchemeHttps then
            .ok (equalsNoCase cf host (wide "github.com") || endsWithNoCase cf host (wide ".github.com") ||
              equalsNoCase cf host (wide "githubusercontent.com") ||
                endsWithNoCase cf host (wide ".githubusercontent.com"))
          else .ok false := rfl
      have hHost : (equalsNoCase cf host (wide "github.com") || endsWithNoCase cf host (wide ".github.com") ||
            equalsNoCase cf host (wide "githubusercontent.com") ||
              endsWithNoCase cf host (wide ".githubusercontent.com")) = true ↔
          InDomain cf (wide "github.com") host ∨ InDomain cf (wide "githubusercontent.com") host := by
        simp only [inDomain_iff, Bool.or_eq_true, or_assoc]
        rfl
      rw [hCheck]
      by_cases hScheme : scheme = uriSchemeHttps
      · rw [if_pos hScheme, Except.ok.injEq, hHost, hScheme]
        constructor
        · intro h
          exact ⟨host, rest, rfl, h⟩
        · rintro ⟨other, more, hUrl, h⟩
          cases hUrl
          exact h
      · rw [if_neg hScheme]
        constructor
        · rintro ⟨⟩
        · rintro ⟨other, more, hUrl, -⟩
          cases hUrl
          exact absurd rfl hScheme

/-- The URL of a release asset, and what only looks like one. -/
example :
    let check scheme host := isValidAssetUrl .ascii (some (.absolute (wide scheme) (wide host) []))
    check "https" "objects.GitHubUserContent.com" = .ok true ∧
      check "https" "evilgithub.com" = .ok false ∧ check "http" "github.com" = .ok false := by
  decide +kernel

end WinDV
