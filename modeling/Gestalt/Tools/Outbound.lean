import Gestalt.Library.Url
import Gestalt.Tools.Restrictions

/-!
# Gestalt.Tools.Outbound

Where the HTTP tool sends its requests.

The tool compares the text of the address with the text of each allowlisted
origin.  That admits the addresses the origins cover, and the ones the text of
an origin misleads about.
-/

namespace Gestalt

open Url (Address Origin)

namespace Tool

variable {h : Coercions} {allowlist : List String} {input : HttpRequestInput}

/-- The tool refuses with a permission error and nothing else. -/
theorem exists_of_runHttpRequest_error {e : Exc}
    (herror : runHttpRequest h allowlist input = .error e) :
    ∃ message, e = .permissionError message := by
  unfold runHttpRequest at herror
  split at herror
  · exact ⟨_, (Except.error.inj herror).symm⟩
  · contradiction

/-- The entries of an allowlist of origins. -/
def allowlistOf (origins : List Origin) : List String :=
  origins.map fun origin => String.ofList origin.text

/-- A request for the address. -/
def requestTo (address : Address) (input : HttpRequestInput) : HttpRequestInput :=
  { input with url := String.ofList address.text }

/-- The allowlist contains the request: it is sent only where some origin covers
the address, and otherwise a permission error is raised. -/
structure ContainsRequest (h : Coercions) (origins : List Origin) (address : Address)
    (input : HttpRequestInput) : Prop where
  sent : ∀ effect, runHttpRequest h (allowlistOf origins) (requestTo address input) = .ok effect →
    ∃ origin ∈ origins, origin.Covers address
  refused : (¬ ∃ origin ∈ origins, origin.Covers address) →
    ∃ message, runHttpRequest h (allowlistOf origins) (requestTo address input) =
      .error (.permissionError message)

/-- **When the allowlist contains a request.**  It does when some origin covers
the address, and where none does, when none misleads. -/
theorem containsRequest_iff (h : Coercions) (origins : List Origin) (hnonempty : origins ≠ [])
    (address : Address) (input : HttpRequestInput) :
    ContainsRequest h origins address input ↔
      (∃ origin ∈ origins, origin.Covers address) ∨
        ¬ ∃ origin ∈ origins, origin.Misleads address := by
  have hsent : ∀ effect,
      runHttpRequest h (allowlistOf origins) (requestTo address input) = .ok effect →
        ∃ origin ∈ origins, origin.Covers address ∨ origin.Misleads address := by
    intro effect hok
    obtain ⟨hempty | ⟨allowed, hmem, hbegins⟩, -⟩ := runHttpRequest_ok_iff.mp hok
    · exact absurd (List.map_eq_nil_iff.mp hempty) hnonempty
    · obtain ⟨origin, horigin, rfl⟩ := List.mem_map.mp hmem
      simp only [requestTo, String.toList_ofList] at hbegins
      refine ⟨origin, horigin, (Url.text_prefix_iff.mp hbegins).imp_left ?_⟩
      rintro ⟨hscheme, -, hauthority, hpath⟩
      exact Url.covers_of_authority_eq hscheme hauthority hpath
  constructor
  · intro hcontains
    by_contra hnot
    rw [not_or, not_not] at hnot
    obtain ⟨huncovered, origin, hmem, hmisleads⟩ := hnot
    have hbegins : (String.ofList origin.text).toList <+: (requestTo address input).url.toList := by
      simpa [requestTo] using Url.text_prefix_iff.mpr (Or.inr hmisleads)
    have hentry : String.ofList origin.text ∈ allowlistOf origins := List.mem_map_of_mem hmem
    exact huncovered (hcontains.sent _
      (runHttpRequest_ok_iff.mpr ⟨Or.inr ⟨_, hentry, hbegins⟩, rfl⟩))
  · intro hcondition
    have hcovered : ∀ effect,
        runHttpRequest h (allowlistOf origins) (requestTo address input) = .ok effect →
          ∃ origin ∈ origins, origin.Covers address := by
      intro effect hok
      refine hcondition.elim id fun hnone => ?_
      obtain ⟨origin, hmem, hcovers | hmisleads⟩ := hsent effect hok
      · exact ⟨origin, hmem, hcovers⟩
      · exact absurd ⟨origin, hmem, hmisleads⟩ hnone
    refine ⟨hcovered, fun huncovered => ?_⟩
    cases hrun : runHttpRequest h (allowlistOf origins) (requestTo address input) with
    | ok effect => exact absurd (hcovered effect hrun) huncovered
    | error e =>
        obtain ⟨message, rfl⟩ := exists_of_runHttpRequest_error hrun
        exact ⟨message, rfl⟩

end Tool

namespace Reference

/-- The host of the origin in `config/gestalt.yaml`. -/
def stripe : Url.Host where
  text := "api.stripe.com".toList
  plain := by decide
  colons := by decide

/-- The origin in `config/gestalt.yaml`. -/
def stripeOrigin : Origin where
  scheme := "https".toList
  host := stripe
  scheme_plain := by decide
  path_slash := by simp
  path_plain := Delimited.plain_nil

/-- A host whose name begins with the name of another. -/
def stripeNamesake : Url.Host where
  text := "api.stripe.com.evil.example".toList
  plain := by decide
  colons := by decide

/-- A page of a host. -/
def page (host : Url.Host) (host_lower : host.text.map Char.toLower = host.text) : Address where
  scheme := .https
  host := host
  path := "/v1/charges".toList
  userinfo_plain := by simp
  host_lower := host_lower
  port_named := by simp
  path_slash := by decide
  path_plain := by decide

theorem length_get : 3 ≤ "GET".length := by decide

/-- A request without parameters. -/
def getRequest : HttpRequestInput where
  method := .text "GET" length_get
  url := ""
  headers := []
  params := []
  jsonBody := none
  timeoutSeconds := .lit 15

end Reference

open Reference in
/-- A page of the allowlisted host. -/
theorem Tool.containsRequest_stripe :
    ContainsRequest coercions [stripeOrigin] (page stripe (by decide)) getRequest :=
  (containsRequest_iff coercions [stripeOrigin] (by simp) (page stripe (by decide))
    getRequest).mpr (Or.inl ⟨stripeOrigin, List.mem_singleton_self _,
      ⟨rfl, by decide, rfl, _, rfl, Or.inl rfl⟩⟩)

open Reference in
/-- A page of a host whose name goes on after the allowlisted one. -/
theorem Tool.namesake_requested :
    ¬ ContainsRequest coercions [stripeOrigin] (page stripeNamesake (by decide)) getRequest := by
  intro h
  obtain ⟨origin, hmem, hcovers⟩ := h.sent _ (by rfl)
  obtain rfl := List.mem_singleton.mp hmem
  exact absurd hcovers.host (by decide)

end Gestalt
