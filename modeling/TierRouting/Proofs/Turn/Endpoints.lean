import TierRouting.Proofs.Config.Accepted
import TierRouting.Proofs.Config.Violations
import TierRouting.Proofs.Turn.Calls

/-! What an accepted text promises of the addresses that a router gives, and of those in the events
about it. The rules look at an address without the blanks around it, and the router gives it with
them. -/
namespace TierRouting

open Text

variable {url provider text : String} {s : Config.Settings} {r : Router} {c : Call} {e : Event}

/-- What the rules for settings promise of an address. -/
structure Vetted (url : String) : Prop where
  trimmed : IsWebAddress (trim url.toList)
  itself_iff : IsWebAddress url.toList ↔ ∀ c ∈ url.toList.head?, isBlank c = false

theorem vetted_of_trimmed (h : IsWebAddress (trim url.toList)) : Vetted url := by
  refine ⟨h, IsWebAddress.head, fun hhead => ?_⟩
  rw [trim, trimStart_eq_self hhead] at h
  exact h.mono (trimEnd_isPrefix _)

namespace Config

theorem loadValidText_eq_ok_iff :
    loadValidText text = .ok s ↔ loadText text = .ok s ∧ validate s = .ok () := by
  rw [loadValidText, Surroundings.validated, bind_eq_ok]
  constructor
  · rintro ⟨settings, hload, hsettings⟩
    obtain ⟨_, hvalid, hsame⟩ := bind_eq_ok.mp hsettings
    cases hsame
    exact ⟨hload, hvalid⟩
  · rintro ⟨hload, hvalid⟩
    exact ⟨s, hload, bind_eq_ok.mpr ⟨(), hvalid, rfl⟩⟩

theorem vetted_of_validate (h : validate s = .ok ()) :
    ∀ entry ∈ s.providers.baseUrls, Vetted entry.2 := by
  intro entry hentry
  rw [validate_eq_ok_iff] at h
  simp only [violations, List.append_eq_nil_iff, List.filterMap_eq_nil_iff] at h
  have hrule := h.1.1.1.2 entry hentry
  apply vetted_of_trimmed
  rw [violationOfUrl?] at hrule
  split at hrule
  · next haddress => exact isAddress_iff.mp haddress
  · contradiction

end Config

theorem Router.exists_of_endpointFor? (h : url ∈ r.endpointFor? provider) :
    ∃ entry ∈ r.endpoints, entry.2 = url := by
  obtain ⟨entry, hentry, rfl⟩ := Option.map_eq_some_iff.mp h
  exact ⟨entry, List.mem_of_find?_eq_some hentry, rfl⟩

theorem Call.ReportedBy.endpoint_eq (h : c.ReportedBy r e) :
    e.endpoint = r.endpointFor? e.model.provider := by
  cases h with
  | plan time t prompt => rfl
  | complete time d latencyMs responseSize => rfl
  | fallBack time d m => rfl

/-- Of an accepted text, the router gives each provider the address that stands in the document, and
so do the events about its decisions. Such an address begins like one of the web once it is trimmed,
and without that just when no blank stands first. -/
theorem endpoints_vetted (h : Config.loadValidText text = .ok s) :
    (∀ provider, ∀ url ∈ (Router.ofSettings s).1.endpointFor? provider, Vetted url) ∧
      (∀ c e, Call.ReportedBy (Router.ofSettings s).1 c e → ∀ url ∈ e.endpoint, Vetted url) ∧
      ∀ es, Toml.parse? text = some es → ∀ provider,
        es.address? provider = ((Router.ofSettings s).1.endpointFor? provider).map .string := by
  obtain ⟨hload, hvalid⟩ := Config.loadValidText_eq_ok_iff.mp h
  have hvetted : ∀ provider, ∀ url ∈ (Router.ofSettings s).1.endpointFor? provider,
      Vetted url := by
    intro provider url hurl
    obtain ⟨entry, hentry, rfl⟩ := Router.exists_of_endpointFor? hurl
    exact Config.vetted_of_validate hvalid entry hentry
  refine ⟨hvetted, ?_, ?_⟩
  · intro c e he url hurl
    rw [he.endpoint_eq] at hurl
    exact hvetted _ url hurl
  · intro es hparse provider
    exact Config.address?_of_loadText hparse hload provider

def spacedText : String := "[providers.base_urls]\nollama = \" http://localhost:11434\"\n"

def spacedSettings : Config.Settings where
  providers := { baseUrls := [("ollama", " http://localhost:11434")] }

def spacedEntries : Config.Entries :=
  [("providers", .table [("base_urls", .table [("ollama", .string " http://localhost:11434")])])]

theorem parse?_spaced : Toml.parse? spacedText = some spacedEntries := by cbv

theorem loadValidText_spaced : Config.loadValidText spacedText = .ok spacedSettings := by
  apply Config.loadValidText_eq_ok_iff.mpr
  constructor
  · rw [Config.loadText_eq_ok_iff parse?_spaced]
    rfl
  · rfl

def spacedRouter : Router := (Router.ofSettings spacedSettings).1

/-- The event about a question to the local model. -/
def spacedEvent : Event :=
  spacedRouter.routeEvent "12:00" (spacedRouter.decide { message := "what is SGD?" }).1

theorem endpoints_vetted_spaced :
    Config.loadValidText spacedText = .ok spacedSettings ∧
      ∃ url, spacedRouter.endpointFor? "ollama" = some url ∧ spacedEvent.endpoint = some url ∧
        IsWebAddress (trim url.toList) ∧ ¬ IsWebAddress url.toList := by
  obtain ⟨-, hevents, hgiven⟩ := endpoints_vetted loadValidText_spaced
  have hstands : some (Config.Value.string " http://localhost:11434") =
      (spacedRouter.endpointFor? "ollama").map .string :=
    hgiven spacedEntries parse?_spaced "ollama"
  obtain ⟨url, hurl, hspelled⟩ := Option.map_eq_some_iff.mp hstands.symm
  cases hspelled
  have hreported : Call.ReportedBy spacedRouter (.plan "12:00" { message := "what is SGD?" })
      spacedEvent := .plan _ _ ""
  have hprovider : spacedEvent.model.provider = "ollama" := by decide +kernel
  have hevent : spacedEvent.endpoint = some " http://localhost:11434" := by
    rw [hreported.endpoint_eq, hprovider, hurl]
  have hvetted := hevents _ _ hreported _ hevent
  refine ⟨loadValidText_spaced, _, hurl, hevent, hvetted.trimmed, fun hitself => ?_⟩
  exact absurd (hvetted.itself_iff.mp hitself ' ' rfl) (by decide)

/-- A blank in front of an address gets past the rules and comes out of the router again. -/
theorem not_forall_endpoint_is_web_address :
    ¬ ∀ (text : String) (s : Config.Settings) (provider url : String),
      Config.loadValidText text = .ok s →
        (Router.ofSettings s).1.endpointFor? provider = some url → IsWebAddress url.toList := by
  intro h
  have haddress := h spacedText spacedSettings "ollama" _ loadValidText_spaced rfl
  exact absurd (haddress.head ' ' rfl) (by decide)

end TierRouting
