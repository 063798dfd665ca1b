import JmsNaming.Proofs.ConnectionFactory.Uri
import JmsNaming.Proofs.Uri.Path

/-
Taking over a URI as a whole: it fails and changes nothing, or it succeeds and the endpoint and the TLS context come from
the text alone, while everything else stays as it is.
-/
namespace JmsNaming

open Uri

namespace Uri.Components

variable {u : Components}

/-- The scheme is that of AMQP over TLS, in letters of either case. -/
def IsAmqps (u : Components) : Prop :=
  ∃ s, u.scheme = some s ∧ s.map Char.toLower = ['a', 'm', 'q', 'p', 's']

theorem isAmqps_iff : u.IsAmqps ↔ (u.scheme.getD []).map Char.toLower = ['a', 'm', 'q', 'p', 's'] := by
  unfold IsAmqps
  cases u.scheme <;> simp

end Uri.Components

/-- A text that is read has a scheme of AMQP, and the endpoint has TLS exactly if that is the scheme with TLS. -/
theorem Endpoint.isAmqp_of_read {uri : List Char} {u : Components} {e : Endpoint} (h : read uri = .ok e) (hu : u.Proper)
    (htext : clean uri = u.text) : u.IsAmqp ∧ (e.ssl = true ↔ u.IsAmqps) := by
  obtain ⟨port, hcheck, rfl⟩ := exists_check_of_read h
  obtain ⟨-, -, -, hscheme, -⟩ := Parts.check_eq_ok_iff.1 hcheck
  have hparts : (partsOf uri).scheme = (u.scheme.getD []).map Char.toLower := by rw [Components.partsOf_eq hu htext]
  rw [hparts] at hscheme
  refine ⟨Components.isAmqp_iff.2 hscheme, ?_⟩
  rw [Components.isAmqps_iff, ← hparts]
  simp [ofParts]

namespace ConnectionFactory

variable {provider : Tls.Provider} {uri : String} {f : ConnectionFactory}

/-- A URI is taken over exactly if it can be read and, if it asks for TLS, there is a context. -/
theorem setUri_eq_ok_iff : (f.setUri provider uri).1 = .ok () ↔ ∃ e, Endpoint.read uri.toList = .ok e ∧
    (e.ssl = true → ∃ context, provider.context Tls.defaultProtocol = .ok context) := by
  rcases setUri_spec provider uri f with ⟨fault, hread, heq⟩ | ⟨e, refusal, hread, hssl, hrefused, heq⟩ |
    ⟨e, hread, hcontext, heq⟩
  · simp [heq, hread]
  · simp [heq, hread, hssl, hrefused]
  · rw [heq]
    exact iff_of_true rfl ⟨e, hread, fun hssl => ⟨defaultContext, hcontext hssl⟩⟩

/-- A factory after a URI that it took over. -/
theorem eq_withEndpoint_of_setUri (h : (f.setUri provider uri).1 = .ok ()) :
    ∃ e, Endpoint.read uri.toList = .ok e ∧ (f.setUri provider uri).2 = f.withEndpoint e := by
  rcases setUri_spec provider uri f with ⟨fault, -, heq⟩ | ⟨e, refusal, -, -, -, heq⟩ | ⟨e, hread, -, heq⟩
  · rw [heq] at h
    cases h
  · rw [heq] at h
    cases h
  · exact ⟨e, hread, by rw [heq]⟩

/-- Under any provider, a URI is taken over exactly if it can be read and gets the context that it asks for. If it fails,
it is for one of these reasons, and the factory is as it was. If it succeeds, all but the endpoint and the context is as
it was; these are the same whatever factory takes the URI over, and under whatever provider. A URI with the scheme of
AMQP over TLS then leaves TLS on with a context, and any other one leaves it off without. -/
theorem setUri_frame (provider : Tls.Provider) (uri : String) (f : ConnectionFactory) :
    let change := f.setUri provider uri
    (change.1 = .ok () ↔ ∃ e, Endpoint.read uri.toList = .ok e ∧
        (e.ssl = true → ∃ context, provider.context Tls.defaultProtocol = .ok context)) ∧
      (∀ error, change.1 = .error error → change.2 = f ∧
        ((∃ fault, Endpoint.read uri.toList = .error fault ∧ error = .invalidUri fault) ∨
          ∃ refusal, provider.context Tls.defaultProtocol = .error refusal ∧ error = .tlsUnavailable refusal)) ∧
      (change.1 = .ok () →
        change.2 = { f with toEndpoint := change.2.toEndpoint, sslContext := change.2.sslContext } ∧
          (∀ provider' g, (setUri provider' uri g).1 = .ok () →
            (setUri provider' uri g).2.toEndpoint = change.2.toEndpoint ∧
              (setUri provider' uri g).2.sslContext = change.2.sslContext) ∧
          (∃ u : Components, u.Proper ∧ clean uri.toList = u.text) ∧
          ∀ u : Components, u.Proper → clean uri.toList = u.text → u.IsAmqp ∧
            (u.IsAmqps → change.2.ssl = true ∧ change.2.sslContext = some defaultContext) ∧
              (¬u.IsAmqps → change.2.ssl = false ∧ change.2.sslContext = none)) := by
  intro change
  refine ⟨setUri_eq_ok_iff, fun error herror => ?_, fun hok => ?_⟩
  · rcases setUri_spec provider uri f with ⟨fault, hread, heq⟩ | ⟨e, refusal, -, -, hrefused, heq⟩ | ⟨e, -, -, heq⟩
    · have hchange : change = (.error (.invalidUri fault), f) := heq
      rw [hchange] at herror ⊢
      cases herror
      exact ⟨rfl, .inl ⟨fault, hread, rfl⟩⟩
    · have hchange : change = (.error (.tlsUnavailable refusal), f) := heq
      rw [hchange] at herror ⊢
      cases herror
      exact ⟨rfl, .inr ⟨refusal, hrefused, rfl⟩⟩
    · have hchange : change = (.ok (), f.withEndpoint e) := heq
      rw [hchange] at herror
      cases herror
  · obtain ⟨e, hread, heq⟩ := eq_withEndpoint_of_setUri hok
    have hchange : change.2 = f.withEndpoint e := heq
    rw [hchange]
    refine ⟨rfl, fun provider' g hg => ?_, ?_, fun u hu htext => ?_⟩
    · obtain ⟨e', hread', heq'⟩ := eq_withEndpoint_of_setUri hg
      cases hread.symm.trans hread'
      rw [heq']
      exact ⟨rfl, rfl⟩
    · obtain ⟨u, hu, htext⟩ := Components.exists_proper (clean uri.toList)
      exact ⟨u, hu, htext.symm⟩
    · obtain ⟨hamqp, hssl⟩ := Endpoint.isAmqp_of_read hread hu htext
      refine ⟨hamqp, fun hamqps => ?_, fun hamqps => ?_⟩
      · have he : e.ssl = true := hssl.2 hamqps
        exact ⟨he, by simp [withEndpoint, he]⟩
      · have he : e.ssl = false := Bool.eq_false_iff.2 (mt hssl.1 hamqps)
        exact ⟨he, by simp [withEndpoint, he]⟩

/-- A scheme in mixed letters under a provider that refuses nothing, and under one that refuses everything. -/
theorem setUri_frame_refused :
    let f : ConnectionFactory := { port := 1, username := "u", channelsQos := 7, uris := ["amqp://a"] }
    let change := f.setUri .working "aMQPs://b/%2F"
    let refused := f.setUri (.failing "no provider") "aMQPs://b/%2F"
    change.1 = .ok () ∧ change.2 = { f with toEndpoint := change.2.toEndpoint, sslContext := change.2.sslContext } ∧
      change.2.ssl = true ∧ change.2.sslContext = some defaultContext ∧
      refused.1 = .error (.tlsUnavailable { protocol := "TLSv1.2", reason := "no provider" }) ∧ refused.2 = f := by
  intro f change refused
  let u : Components :=
    { scheme := some "aMQPs".toList, authority := some "b".toList, path := "/%2F".toList, tail := [] }
  have hproper : u.Proper := by
    refine ⟨⟨?_, ?_, nofun, by decide, nofun⟩, ?_, nofun⟩
    · simp [u, endsAuthority]
    · simp [u, endsAuthority]
    · intro s hs
      rw [← Option.some.inj hs]
      decide
  have htext : clean "aMQPs://b/%2F".toList = u.text := by decide
  have hok : change.1 = .ok () := by decide
  have hrefused : refused.1 = .error (.tlsUnavailable { protocol := "TLSv1.2", reason := "no provider" }) := by
    decide
  obtain ⟨-, -, hsuccess⟩ := setUri_frame .working "aMQPs://b/%2F" f
  obtain ⟨-, hfailure, -⟩ := setUri_frame (.failing "no provider") "aMQPs://b/%2F" f
  obtain ⟨hrest, -, -, hscheme⟩ := hsuccess hok
  obtain ⟨-, htls, -⟩ := hscheme u hproper htext
  exact ⟨hok, hrest, (htls ⟨_, rfl, by decide⟩).1, (htls ⟨_, rfl, by decide⟩).2, hrefused, (hfailure _ hrefused).1⟩

end ConnectionFactory

end JmsNaming
