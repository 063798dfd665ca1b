import JmsNaming.Proofs.ConnectionFactory.Uri
import JmsNaming.Proofs.Uri.Accepted

/-
Sequences of operations on a connection factory, of which each may fail: what every factory has that
they lead to, and whether its URI is read back as its settings.
-/
namespace JmsNaming.ConnectionFactory

/-- A call of an operation that changes several settings. -/
inductive Operation where
  | setUri (uri : String)
  | setUris (uris : List String)
  | useSslProtocol (protocol : String)
  deriving DecidableEq

/-- The factory after a call, whether it succeeds or fails. -/
def Operation.apply (provider : Tls.Provider) : Operation → ConnectionFactory → ConnectionFactory
  | setUri uri, f => (f.setUri provider uri).2
  | setUris uris, f => (f.setUris provider uris).2
  | useSslProtocol protocol, f => (f.useSslProtocol provider protocol).2

/-- The factory after calls one after the other, each with the provider of that moment. -/
def afterCalls (calls : List (Tls.Provider × Operation)) (f : ConnectionFactory) : ConnectionFactory :=
  calls.foldl (fun f call => call.2.apply call.1 f) f

variable {f : ConnectionFactory} {provider : Tls.Provider}

/-! ## What a call can do -/

/-- A URI is rejected without a change, or its endpoint is taken over, with a context exactly if it has TLS. -/
theorem setUri_cases (provider : Tls.Provider) (uri : String) (f : ConnectionFactory) :
    (f.setUri provider uri).2 = f ∨
      ∃ e context, Endpoint.read uri.toList = .ok e ∧ e.ssl = Option.isSome context ∧
        (f.setUri provider uri).2 = { f with toEndpoint := e, sslContext := context } := by
  rcases setUri_spec provider uri f with ⟨_, -, heq⟩ | ⟨_, _, -, -, -, heq⟩ | ⟨e, hread, -, heq⟩
  · exact .inl (by rw [heq])
  · exact .inl (by rw [heq])
  · have hssl : e.ssl = Option.isSome (if e.ssl then some defaultContext else none) := by cases e.ssl <;> rfl
    exact .inr ⟨e, _, hread, hssl, by rw [heq, withEndpoint]⟩

/-- A call keeps the nodes or stores some of which all can be read; and it keeps the endpoint and the context, gives
the factory a context, or takes over an endpoint that was read, with a context exactly if it has TLS. -/
theorem apply_cases (provider : Tls.Provider) (op : Operation) (f : ConnectionFactory) :
    ∃ nodes, (nodes = f.uris ∨ ∀ uri ∈ nodes, (Endpoint.read uri.toList).isOk = true) ∧
      (op.apply provider f = { f with uris := nodes } ∨
        (∃ context, op.apply provider f = { f with ssl := true, sslContext := some context, uris := nodes }) ∨
        ∃ uri e context, Endpoint.read uri = .ok e ∧ e.ssl = Option.isSome context ∧
          op.apply provider f = { f with toEndpoint := e, sslContext := context, uris := nodes }) := by
  cases op with
  | setUri uri =>
    refine ⟨f.uris, .inl rfl, ?_⟩
    rcases setUri_cases provider uri f with hsame | ⟨e, context, hread, hssl, heq⟩
    · exact .inl hsame
    · exact .inr (.inr ⟨uri.toList, e, context, hread, hssl, heq⟩)
  | setUris uris =>
    cases uris with
    | nil => exact ⟨[], .inr nofun, .inl rfl⟩
    | cons first rest =>
      cases hcheck : checkUris (first :: rest) with
      | error error => exact ⟨f.uris, .inl rfl, .inl (by simp [Operation.apply, setUris, hcheck])⟩
      | ok =>
        have hall : ∀ uri ∈ first :: rest, (Endpoint.read uri.toList).isOk = true := by
          rw [← List.all_eq_true, ← isOk_checkUris, hcheck]
          rfl
        have hset : (Operation.setUris (first :: rest)).apply provider f =
            (({ f with uris := first :: rest } : ConnectionFactory).setUri provider first).2 := by
          simp only [Operation.apply, setUris, hcheck]
        refine ⟨first :: rest, .inr hall, ?_⟩
        rw [hset]
        rcases setUri_cases provider first { f with uris := first :: rest } with
          hsame | ⟨e, context, hread, hssl, heq⟩
        · exact .inl hsame
        · exact .inr (.inr ⟨first.toList, e, context, hread, hssl, heq⟩)
  | useSslProtocol protocol =>
    refine ⟨f.uris, .inl rfl, ?_⟩
    simp only [Operation.apply, useSslProtocol]
    cases provider.context protocol with
    | error refusal => exact .inl rfl
    | ok context => exact .inr (.inl ⟨context, rfl⟩)

/-! ## What the calls preserve -/

theorem carried_apply (h : f.toEndpoint.Carried) (op : Operation) : (op.apply provider f).toEndpoint.Carried := by
  obtain ⟨nodes, -, heq | ⟨context, heq⟩ | ⟨uri, e, context, hread, -, heq⟩⟩ := apply_cases provider op f
  · rw [heq]
    exact h
  · rw [heq]
    exact ⟨h.port_nonneg, h.port_le, h.host_ne, h.plain, h.undisguised, h.ends⟩
  · rw [heq]
    exact Endpoint.carried_of_read hread

/-- Whatever is called, and whether it succeeds or fails, the endpoint stays one that a URI can have carried. -/
theorem carried_afterCalls (calls : List (Tls.Provider × Operation)) (h : f.toEndpoint.Carried) :
    (f.afterCalls calls).toEndpoint.Carried := by
  induction calls generalizing f with
  | nil => exact h
  | cons call calls ih => exact ih (carried_apply h call.2)

/-! ## Taking over the factory's own URI -/

/-- Under a provider that refuses nothing, the factory's own URI is accepted without a change exactly if it is
read as the factory's endpoint. -/
theorem setUri_uri_eq_iff : (f.setUri .working f.uri).1 = .ok () ∧ (f.setUri .working f.uri).2.sameSettings f = true ↔
    Endpoint.read f.toEndpoint.write = .ok f.toEndpoint := by
  rw [setUri_working, uri, String.toList_ofList, sameSettings_iff]
  cases Endpoint.read f.toEndpoint.write with
  | error fault => simp
  | ok e =>
    simp only [true_and, Except.ok.injEq]
    constructor
    · intro h
      exact congrArg toEndpoint h
    · rintro rfl
      rfl

/-- From the defaults, whatever calls have been made: if the host has no opening bracket, then the factory's own
URI is accepted without a change exactly if the host has no closing bracket and is an address if it has a
colon. -/
theorem setUri_uri_iff_afterCalls (calls : List (Tls.Provider × Operation))
    (hopen : '[' ∉ (afterCalls calls {}).host.toList) :
    let f := afterCalls calls {}
    (f.setUri .working f.uri).1 = .ok () ∧ (f.setUri .working f.uri).2.sameSettings f = true ↔
      ']' ∉ f.host.toList ∧ (':' ∈ f.host.toList → Uri.checkAddress f.host.toList = .ok ()) := by
  intro f
  have h : f.toEndpoint.Carried := carried_afterCalls calls Endpoint.carried_default
  rw [setUri_uri_eq_iff, Endpoint.read_write_iff h hopen]

/-- A list of nodes whose TLS is refused, a URI with an address and a version that is not known. -/
theorem setUri_uri_iff_afterCalls_address :
    let calls : List (Tls.Provider × Operation) :=
      [(.failing "no provider", .setUris ["amqps://a", "amqp://b"]), (.working, .setUri "amqps://u%2F:@[::1]/%ff"),
        (.working, .useSslProtocol "TLSv9")]
    let f := afterCalls calls {}
    '[' ∉ f.host.toList ∧ (f.setUri .working f.uri).1 = .ok () ∧
      (f.setUri .working f.uri).2.sameSettings f = true := by
  intro calls f
  have hopen : '[' ∉ f.host.toList := by decide
  refine ⟨hopen, (setUri_uri_iff_afterCalls calls hopen).2 ⟨?_, fun _ => ?_⟩⟩
  · decide
  · decide

/-- A bracket that only the user closes takes the last character of the address with it, and one that only the
user opens leaves its counterpart in the host. Neither host can be written in a URI. -/
theorem setUri_uri_rejected :
    let f := afterCalls [(.working, .setUri "amqp://]@[1::")] {}
    let g := afterCalls [(.working, .setUri "amqp://[@v1.a]b")] {}
    f.host = "1:" ∧ '[' ∉ f.host.toList ∧
      (f.setUri .working f.uri).1 = .error (.invalidUri (.notAddress "1:".toList)) ∧
      g.host = "v1.a]b" ∧ '[' ∉ g.host.toList ∧ (g.setUri .working g.uri).1 = .error (.invalidUri .brackets) := by
  decide +kernel

end JmsNaming.ConnectionFactory
