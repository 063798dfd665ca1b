import JmsNaming.ConnectionFactory
import JmsNaming.Proofs.Uri.RoundTrip

/-
The URI of a factory is an exact encoding of its endpoint: taking it over again succeeds and changes
no setting, whatever the user, the password and the virtual host are.
-/
namespace JmsNaming.ConnectionFactory

open Text

/-! ## Operations under a provider that refuses nothing -/

/-- The context that a client gets when no protocol is named. -/
def defaultContext : Tls.Context :=
  { minimumVersion := .tls1_2 }

/-- The factory with other endpoint settings, and with a context exactly if they ask for TLS. -/
def withEndpoint (f : ConnectionFactory) (e : Endpoint) : ConnectionFactory :=
  { f with toEndpoint := e, sslContext := if e.ssl then some defaultContext else none }

theorem context_working : Tls.Provider.working.context Tls.defaultProtocol = .ok defaultContext := by
  decide

theorem useSslProtocol_working (f : ConnectionFactory) : f.useSslProtocol .working Tls.defaultProtocol =
    (.ok (), { f with ssl := true, sslContext := some defaultContext }) := by
  rw [useSslProtocol, context_working]

theorem setUri_working (f : ConnectionFactory) (uri : String) : f.setUri .working uri =
    match Endpoint.read uri.toList with
    | .ok e => (.ok (), f.withEndpoint e)
    | .error fault => (.error (.invalidUri fault), f) := by
  unfold setUri withEndpoint
  cases Endpoint.read uri.toList with
  | error fault => rfl
  | ok e => cases he : e.ssl <;> simp [useSslProtocol_working, he]

/-- The only context that a provider makes for the default protocol is the default one. -/
theorem context_eq_ok_iff {provider : Tls.Provider} {context : Tls.Context} :
    provider.context Tls.defaultProtocol = .ok context ↔
      provider.refusal .tls1_2 = none ∧ context = defaultContext := by
  have hversion : Tls.Version.ofProtocol? Tls.defaultProtocol = some .tls1_2 := by decide
  unfold Tls.Provider.context
  rw [hversion]
  dsimp only
  cases provider.refusal .tls1_2 with
  | some reason => simp
  | none => simp [defaultContext, Tls.Version.reported, eq_comm]

/-- A URI is rejected, refused its TLS, or taken over; only then anything changes. -/
theorem setUri_spec (provider : Tls.Provider) (uri : String) (f : ConnectionFactory) :
    (∃ fault, Endpoint.read uri.toList = .error fault ∧ f.setUri provider uri = (.error (.invalidUri fault), f)) ∨
      (∃ e refusal, Endpoint.read uri.toList = .ok e ∧ e.ssl = true ∧
        provider.context Tls.defaultProtocol = .error refusal ∧
        f.setUri provider uri = (.error (.tlsUnavailable refusal), f)) ∨
      ∃ e, Endpoint.read uri.toList = .ok e ∧
        (e.ssl = true → provider.context Tls.defaultProtocol = .ok defaultContext) ∧
        f.setUri provider uri = (.ok (), f.withEndpoint e) := by
  unfold setUri useSslProtocol withEndpoint
  cases Endpoint.read uri.toList with
  | error fault => exact .inl ⟨fault, rfl, rfl⟩
  | ok e =>
    cases hssl : e.ssl with
    | false => exact .inr (.inr ⟨e, rfl, by simp [hssl], by simp [hssl]⟩)
    | true =>
      cases hcontext : provider.context Tls.defaultProtocol with
      | error refusal => exact .inr (.inl ⟨e, refusal, rfl, hssl, rfl, by simp [hssl]⟩)
      | ok context =>
        obtain ⟨-, rfl⟩ := context_eq_ok_iff.1 hcontext
        exact .inr (.inr ⟨e, rfl, fun _ => rfl, by simp [hssl]⟩)

theorem sameSettings_iff {f g : ConnectionFactory} :
    f.sameSettings g = true ↔ { f with sslContext := none } = { g with sslContext := none } :=
  beq_iff_eq

/-! ## Lists of URIs -/

/-- All URIs can be read, or the first that cannot be read has a fault. -/
theorem isOk_checkUris (uris : List String) :
    (checkUris uris).isOk = uris.all fun uri => (Endpoint.read uri.toList).isOk := by
  induction uris with
  | nil => rfl
  | cons uri rest ih =>
    simp only [checkUris, List.all_cons]
    cases Endpoint.read uri.toList with
    | error fault => rfl
    | ok e => exact ih

/-! ## The URI of a factory -/

/-- For every port and host that a URI can hold, and for every user, password and virtual host, the URI
of a factory is accepted and gives back all its settings. -/
theorem setUri_uri {f : ConnectionFactory} (hport : 0 ≤ f.port ∧ f.port ≤ 65535) (hne : f.host ≠ "")
    (hascii : ∀ c ∈ f.host.toList, c.toNat < 128)
    (hplain : ∀ c ∈ f.host.toList, c ∉ ['/', '?', '#', '@', '[', ']', '\t', '\r', '\n'])
    (haddress : ':' ∈ f.host.toList → Uri.checkAddress f.host.toList = .ok ()) :
    (f.setUri .working f.uri).1 = .ok () ∧ (f.setUri .working f.uri).2.sameSettings f = true := by
  have hhost : Uri.IsHost f.host.toList :=
    ⟨hplain, fun c hc => Uri.isDisguisedDelimiter_of_ascii (hascii c hc), haddress⟩
  have he : f.toEndpoint.Addressable := ⟨hport.1, hport.2, hne, hhost⟩
  have hread : Endpoint.read f.uri.toList = .ok f.toEndpoint := by
    rw [uri, String.toList_ofList, Endpoint.read_write he]
  rw [setUri_working, hread, sameSettings_iff]
  exact ⟨rfl, rfl⟩

/-- An address with a zone in brackets, and components full of delimiters. -/
theorem setUri_uri_zoned_address :
    let f : ConnectionFactory :=
      { ssl := true, host := "fe80::1%eth0", port := 0, username := "a/b@c:d", password := "", virtualHost := "%2F#é" }
    (f.setUri .working f.uri).1 = .ok () ∧ (f.setUri .working f.uri).2.sameSettings f = true :=
  setUri_uri (by decide) (by decide) (List.all_iff_forall_prop.1 (by decide))
    (List.all_iff_forall_prop.1 (by decide)) (fun _ => by decide)

end JmsNaming.ConnectionFactory
