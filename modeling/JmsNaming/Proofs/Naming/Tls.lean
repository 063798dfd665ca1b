import JmsNaming.Proofs.Naming.ConnectionFactory

/-
TLS under any provider. A URI that asks for TLS and gets no context is skipped like one that cannot be
read, so that only the property `ssl` makes a refusal fatal: without it the connection factory is built
without TLS.
-/
namespace JmsNaming

namespace Tls.Provider

/-- The provider has a context for a client that names no protocol. -/
def offersTls (p : Provider) : Bool :=
  (p.context defaultProtocol).isOk

theorem offersTls_eq_false_iff {p : Provider} :
    p.offersTls = false ↔ ∃ refusal, p.context defaultProtocol = .error refusal := by
  unfold offersTls
  cases p.context defaultProtocol <;> simp [Except.isOk, Except.toBool]

end Tls.Provider

namespace ConnectionFactory

/-- A URI that is taken over decides on TLS; one that cannot be read, or whose TLS is refused, changes nothing. -/
theorem ssl_setUri (provider : Tls.Provider) (uri : String) (f : ConnectionFactory) :
    (f.setUri provider uri).2.ssl =
      match Endpoint.read uri.toList with
      | .ok e => if e.ssl && !provider.offersTls then f.ssl else e.ssl
      | .error _ => f.ssl := by
  rcases setUri_spec provider uri f with ⟨_, hread, heq⟩ | ⟨e, refusal, hread, hssl, hrefused, heq⟩ |
    ⟨e, hread, hcontext, heq⟩
  · rw [hread, heq]
  · have hoffers : provider.offersTls = false := Tls.Provider.offersTls_eq_false_iff.2 ⟨refusal, hrefused⟩
    rw [hread, heq]
    simp [hssl, hoffers]
  · rw [hread, heq, withEndpoint]
    cases hssl : e.ssl with
    | false => simp [hssl]
    | true =>
      have hoffers : provider.offersTls = true := by
        rw [Tls.Provider.offersTls, hcontext hssl]
        rfl
      simp [hssl, hoffers]

end ConnectionFactory

theorem exists_afterChange (event : String) (name : Option String) (change : ConnectionFactory.Change ClientError) :
    ∃ events, afterChange event name change = (change.2, events) := by
  obtain ⟨outcome, f⟩ := change
  cases outcome with
  | ok => exact ⟨_, rfl⟩
  | error error => exact ⟨_, rfl⟩

namespace Source

variable {s : Source} {provider : Tls.Provider} {name : Option String}

/-! ## Taking over URIs -/

theorem ssl_applyUri (h : s.Readable) (provider : Tls.Provider) (name : Option String) :
    ∃ f events, applyUri provider s name {} = .ok (f, events) ∧ f.ssl = (s.uriEndpoint.ssl && provider.offersTls) := by
  obtain ⟨events, hevents⟩ := exists_afterChange "connection_factory_uri_rejected" name
    (({} : ConnectionFactory).setUri provider ((s.property? "uri").getD ({} : ConnectionFactory).uri))
  refine ⟨_, events, by rw [applyUri, h "uri" (by decide), Except.map, hevents], ?_⟩
  rw [ConnectionFactory.ssl_setUri]
  unfold uriEndpoint
  cases s.property? "uri" with
  | none =>
    rw [Option.getD_none, ConnectionFactory.read_default_uri]
    simp
  | some uri =>
    dsimp only [Option.getD_some]
    cases Endpoint.read uri.toList with
    | error fault => simp [Except.toOption]
    | ok e => cases he : e.ssl <;> simp [Except.toOption, he]

/-- The factory has TLS after `uris` if the endpoint asks for it and the provider has a context, provided that
`uri` left it so. -/
theorem ssl_applyUris (h : s.Readable) {f : ConnectionFactory} (hf : f.ssl = (s.uriEndpoint.ssl && provider.offersTls))
    (name : Option String) :
    ∃ g events, applyUris provider s name f = .ok (g, events) ∧ g.ssl = (s.endpoint.ssl && provider.offersTls) := by
  unfold applyUris
  rw [h "uris" (by decide)]
  unfold endpoint nodes
  cases s.property? "uris" with
  | none => exact ⟨f, [], rfl, hf⟩
  | some text =>
    obtain ⟨events, hevents⟩ := exists_afterChange "connection_factory_uris_rejected" name
      (f.setUris provider (splitUris text))
    refine ⟨_, events, congrArg Except.ok hevents, ?_⟩
    obtain ⟨first, rest, he⟩ := List.exists_cons_of_ne_nil (splitUris_ne_nil text)
    simp only [ConnectionFactory.setUris, he, ← ConnectionFactory.isOk_checkUris]
    cases hc : ConnectionFactory.checkUris (first :: rest) with
    | error error => exact hf
    | ok =>
      cases hread : Endpoint.read first.toList with
      | error fault => simp [ConnectionFactory.checkUris, hread] at hc
      | ok e =>
        simp only [ConnectionFactory.ssl_setUri, hread, Except.isOk, Except.toBool, if_true, Except.toOption,
          Option.getD_some]
        -- where the first node's TLS is refused, `uri` was refused its TLS as well
        cases e.ssl <;> cases ho : provider.offersTls <;> simp [hf, ho]

/-- What is built, told from the settings that the URIs left: they have TLS if the endpoint asks for it and the
provider has a context. -/
theorem build_eq (h : s.Readable) (provider : Tls.Provider) (name : Option String) :
    ∃ f : ConnectionFactory, f.ssl = (s.endpoint.ssl && provider.offersTls) ∧
      (buildConnectionFactory provider s name).outcome = applyProperties provider s f := by
  obtain ⟨f, fromUri, hu, hf⟩ := ssl_applyUri h provider name
  obtain ⟨g, fromUris, hus, hg⟩ := ssl_applyUris h hf name
  refine ⟨g, hg, ?_⟩
  simp only [buildConnectionFactory, hu, hus]

/-! ## TLS that is asked for -/

/-- TLS is asked for, by the endpoint that is taken over or by the property. -/
def asksForTls (s : Source) : Bool :=
  s.endpoint.ssl || s.flag "ssl" false

theorem findSome?_numberError?_eq_none_iff {ps : List (String × NumberKind)} :
    ps.findSome? s.numberError? = none ↔ ∀ p ∈ ps, s.HasNumber p := by
  simp only [List.findSome?_eq_none_iff, hasNumber_iff]

theorem forall_numberProperties_iff :
    (∀ p ∈ numberProperties, s.HasNumber p) ↔
      (∀ p ∈ numbersBeforeTls, s.HasNumber p) ∧ s.numberError? ("terminationTimeout", .long) = none := by
  have hsplit : numberProperties = numbersBeforeTls ++ [("terminationTimeout", .long)] := by decide
  rw [hsplit, List.forall_mem_append, List.forall_mem_singleton, hasNumber_iff]

/-- With a provider that has a context, what is built has the TLS that is asked for. -/
theorem ssl_of_offersTls (ho : provider.offersTls = true) (htls : s.asksForTls = true) {f : ConnectionFactory}
    (hb : (buildConnectionFactory provider s name).outcome = .ok f) : f.ssl = true := by
  have h := readable_of_build hb
  obtain ⟨g, hg, hbuild⟩ := build_eq h provider name
  rw [ho, Bool.and_true] at hg
  rw [hbuild, applyProperties_eq h, hg] at hb
  unfold asksForTls at htls
  rw [ssl_eq] at htls
  cases hfirst : numbersBeforeTls.findSome? s.numberError? with
  | some e =>
    rw [hfirst] at hb
    cases hb
  | none =>
    simp only [hfirst] at hb
    by_cases hflag : s.flag "ssl" s.endpoint.ssl = true
    · cases hctx : provider.context Tls.defaultProtocol with
      | error refusal => simp [hflag, requireSsl, ConnectionFactory.useSslProtocol, hctx] at hb
      | ok context =>
        simp only [if_pos hflag, requireSsl, ConnectionFactory.useSslProtocol, hctx] at hb
        split at hb
        · cases hb
        · rw [← Except.ok.inj hb]
    · rw [if_neg hflag] at htls
      simp only [if_neg hflag] at hb
      split at hb
      · cases hb
      · rw [← Except.ok.inj hb]
        exact hg.trans htls

/-- With a provider that refuses, the property alone makes the refusal a failure; otherwise the factory is built
without TLS. -/
theorem build_of_refusal (h : s.Readable) {refusal : Tls.Refusal}
    (hr : provider.context Tls.defaultProtocol = .error refusal) (name : Option String) :
    ∃ f : ConnectionFactory, f.ssl = false ∧ (buildConnectionFactory provider s name).outcome =
      match numbersBeforeTls.findSome? s.numberError? with
      | some e => .error (.naming e)
      | none =>
        if s.flag "ssl" false then .error (.naming (.tlsUnavailable refusal))
        else
          match s.numberError? ("terminationTimeout", .long) with
          | some e => .error (.naming e)
          | none => .ok f := by
  obtain ⟨f, hf, hbuild⟩ := build_eq h provider name
  rw [Tls.Provider.offersTls_eq_false_iff.2 ⟨refusal, hr⟩, Bool.and_false] at hf
  refine ⟨s.settingsOver f, hf, ?_⟩
  rw [hbuild, applyProperties_eq h, hf, requireSsl, ConnectionFactory.useSslProtocol, hr]
  cases numbersBeforeTls.findSome? s.numberError? with
  | some e => rfl
  | none =>
    by_cases hflag : s.flag "ssl" false = true
    · simp [hflag]
    · cases s.numberError? ("terminationTimeout", .long) <;> simp [hflag]

theorem withoutTls_of_refusal (h : s.Readable) {refusal : Tls.Refusal}
    (hr : provider.context Tls.defaultProtocol = .error refusal) (name : Option String) :
    (∃ f, (buildConnectionFactory provider s name).outcome = .ok f ∧ f.ssl = false) ↔
      s.flag "ssl" false = false ∧ ∀ p ∈ numberProperties, s.HasNumber p := by
  obtain ⟨f, hf, hbuild⟩ := build_of_refusal h hr name
  rw [hbuild, forall_numberProperties_iff, ← findSome?_numberError?_eq_none_iff]
  cases numbersBeforeTls.findSome? s.numberError? with
  | some e => simp
  | none =>
    cases s.flag "ssl" false with
    | true => simp
    | false =>
      cases s.numberError? ("terminationTimeout", .long) with
      | some e => simp
      | none => simpa using hf

theorem tlsUnavailable_of_refusal (h : s.Readable) {refusal : Tls.Refusal}
    (hr : provider.context Tls.defaultProtocol = .error refusal) (name : Option String) :
    (buildConnectionFactory provider s name).outcome = .error (.naming (.tlsUnavailable refusal)) ↔
      s.flag "ssl" false = true ∧ ∀ p ∈ numbersBeforeTls, s.HasNumber p := by
  obtain ⟨f, -, hbuild⟩ := build_of_refusal h hr name
  rw [hbuild, ← findSome?_numberError?_eq_none_iff]
  cases hfirst : numbersBeforeTls.findSome? s.numberError? with
  | some e =>
    obtain ⟨p, -, hp⟩ := List.exists_of_findSome?_eq_some hfirst
    obtain ⟨raw, fault, -, -, rfl⟩ := numberError?_eq_some hp
    simp
  | none =>
    cases s.flag "ssl" false with
    | true => simp
    | false =>
      cases hlast : s.numberError? ("terminationTimeout", .long) with
      | none => simp
      | some e =>
        obtain ⟨raw, fault, -, -, rfl⟩ := numberError?_eq_some hlast
        simp

/-- A connection factory without TLS is resolved though TLS is asked for exactly if the provider refuses and the
property does not ask for it: then the refusal is only logged. Where the property asks for it, the refusal is
told, unless a number that is read before is none. -/
theorem resolve_withoutTls_iff {input : Input} {environment : Option Table}
    (hsource : Source.choose input environment = .ok s) (hclass : s.IsConnectionFactory) (htls : s.asksForTls = true)
    (provider : Tls.Provider) (name : Option String) :
    ((∃ f, (resolve provider input name environment).outcome = .ok (.factory f) ∧ f.ssl = false) ↔
      provider.offersTls = false ∧ s.flag "ssl" false = false ∧ s.Readable ∧ ∀ p ∈ numberProperties, s.HasNumber p) ∧
    ∀ refusal, provider.context Tls.defaultProtocol = .error refusal → s.Readable →
      ((resolve provider input name environment).outcome = .error (.naming (.tlsUnavailable refusal)) ↔
        s.flag "ssl" false = true ∧ ∀ p ∈ numbersBeforeTls, s.HasNumber p) := by
  have hresolve : (resolve provider input name environment).outcome =
      (buildConnectionFactory provider s name).outcome.map .factory := by
    simp only [resolve, hsource, resolveSource_connectionFactory hclass]
  have hfactory : (∃ f, (resolve provider input name environment).outcome = .ok (.factory f) ∧ f.ssl = false) ↔
      ∃ f, (buildConnectionFactory provider s name).outcome = .ok f ∧ f.ssl = false := by
    rw [hresolve]
    cases (buildConnectionFactory provider s name).outcome <;> simp [Except.map]
  rw [hfactory]
  refine ⟨⟨fun hbuilt => ?_, ?_⟩, fun refusal hr h => ?_⟩
  · obtain ⟨f, hb, hssl⟩ := hbuilt
    have h : s.Readable := readable_of_build hb
    have ho : provider.offersTls = false := by
      rw [Bool.eq_false_iff]
      intro ho
      rw [ssl_of_offersTls ho htls hb] at hssl
      cases hssl
    obtain ⟨refusal, hr⟩ := Tls.Provider.offersTls_eq_false_iff.1 ho
    obtain ⟨hflag, hnum⟩ := (withoutTls_of_refusal h hr name).1 ⟨f, hb, hssl⟩
    exact ⟨ho, hflag, h, hnum⟩
  · rintro ⟨ho, hflag, h, hnum⟩
    obtain ⟨refusal, hr⟩ := Tls.Provider.offersTls_eq_false_iff.1 ho
    exact (withoutTls_of_refusal h hr name).2 ⟨hflag, hnum⟩
  · rw [hresolve, ← tlsUnavailable_of_refusal h hr name]
    cases (buildConnectionFactory provider s name).outcome <;> simp [Except.map]

/-- A first node that asks for TLS, a property that does so too, and a number that is read only afterwards. -/
theorem resolve_withoutTls_iff_property :
    let r : Reference :=
      { className := some ClassName.topicConnectionFactory
        addrs := [⟨"uri", .text "amqp://broker"⟩, ⟨"uris", .text "amqps://a, amqp://b"⟩, ⟨"ssl", .text "TRUE"⟩,
          ⟨"port", .int 5673⟩, ⟨"terminationTimeout", .text "soon"⟩] }
    let refusal : Tls.Refusal := { protocol := "TLSv1.2", reason := "no provider" }
    (Source.reference r).asksForTls = true ∧
      (resolve (.failing "no provider") (.reference r) none none).outcome =
        .error (.naming (.tlsUnavailable refusal)) := by
  intro r refusal
  have htls : (Source.reference r).asksForTls = true := by decide
  have hr : (Source.reference r).Readable := (textual_reference (by decide)).readable
  have hsource : Source.choose (.reference r) none = .ok (.reference r) := rfl
  have h := resolve_withoutTls_iff hsource ⟨ClassName.topicConnectionFactory, by decide, rfl⟩ htls
    (.failing "no provider") none
  refine ⟨htls, (h.2 refusal rfl hr).2 ⟨by decide, ?_⟩⟩
  intro p hp
  rw [hasNumber_iff]
  revert p
  decide

/-- A single URI that asks for TLS, and a provider that refuses: the factory has the defaults and no TLS. -/
theorem resolve_amqps_withoutTls :
    let r : Reference :=
      { className := some ClassName.connectionFactory, addrs := [⟨"uri", .text "amqps://broker"⟩] }
    let s := Source.reference r
    let provider := Tls.Provider.failing "no provider"
    s.IsConnectionFactory ∧ s.property? "uris" = none ∧ (∀ p ∈ numberProperties, s.HasNumber p) ∧
      s.property? "uri" = some "amqps://broker" ∧
      Endpoint.read "amqps://broker".toList = .ok { ssl := true, host := "broker", port := 5671 } ∧
      provider.context Tls.defaultProtocol = .error { protocol := "TLSv1.2", reason := "no provider" } ∧
      s.asksForTls = true ∧ (resolve provider (.reference r) (some "jms/cf") none).outcome = .ok (.factory {}) := by
  intro r s provider
  refine ⟨⟨ClassName.connectionFactory, by decide, rfl⟩, rfl, ?_, rfl, by decide, rfl, by decide, by decide⟩
  intro p hp
  rw [hasNumber_iff]
  revert p
  decide

end Source

end JmsNaming
