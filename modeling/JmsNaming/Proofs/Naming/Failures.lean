import JmsNaming.Proofs.Naming.ConnectionFactory

/-
The failures of a resolution. Whatever the source and the provider are, each one is explained by the source, by the
provider or by a content that has no text; so where every content has one, each failure is one of naming.
-/
namespace JmsNaming

namespace Source

/-- What a source or a provider has that makes building fail. -/
inductive Explains (provider : Tls.Provider) (s : Source) : Failure → Prop where
  | unnamed (h : s.className = .ok none) : Explains provider s (.naming .missingType)
  | blank {c : String} (h : s.className = .ok (some c)) (hblank : (Text.trim c.toList).isEmpty = true) :
    Explains provider s (.naming .missingType)
  | unknown {c : String} (h : s.className = .ok (some c)) (hc : c ∉ ClassName.supported) :
    Explains provider s (.naming (.unknownClass c))
  | absent (h : s.entry? "destinationName" = none) :
    Explains provider s (.naming (.missingProperty "destinationName"))
  | empty {v : Value} (h : s.entry? "destinationName" = some v) (hv : v.isNull = true ∨ v.plain = "") :
    Explains provider s (.naming (.emptyProperty "destinationName"))
  | number {p : String × NumberKind} {raw : String} {fault : Number.Fault} (hp : p ∈ numberProperties)
    (h : s.property? p.1 = some raw) (hread : Number.readDecimal p.2.least p.2.greatest raw = .error fault) :
    Explains provider s (.naming (.invalidNumber p.1 raw p.2 fault))
  | refused {refusal : Tls.Refusal} (h : provider.context Tls.defaultProtocol = .error refusal) :
    Explains provider s (.naming (.tlsUnavailable refusal))
  | unwritable {name : String} {v : Value} {fault : Number.Unwritable} (h : s.entry? name = some v)
    (hv : v.isWritable = false) : Explains provider s (.unwritable fault)

variable {provider : Tls.Provider} {s : Source} {name : String}

/-! ## Reading properties -/

theorem explains_of_content {fault : Number.Unwritable} (h : s.content name = .error fault) :
    s.Explains provider (.unwritable fault) := by
  unfold content Value.toText at h
  cases he : s.entry? name with
  | none => simp [he] at h
  | some v =>
    refine .unwritable he ?_
    rw [Bool.eq_false_iff]
    intro hw
    simp only [he, if_pos hw] at h
    split at h <;> cases h

theorem failsWith_content : FailsWith (s.Explains provider) (liftM (s.content name) : Except Failure (Option String)) := by
  cases hc : s.content name with
  | error fault => exact failsWith_error (explains_of_content hc)
  | ok c => exact failsWith_ok c

theorem failsWith_read : FailsWith (s.Explains provider) (s.read name false) := by
  cases hc : s.content name with
  | error fault =>
    rw [read_optional_error hc]
    exact failsWith_error (explains_of_content hc)
  | ok c =>
    rw [read_optional hc]
    exact failsWith_ok c

theorem failsWith_readBool {default : Bool} : FailsWith (s.Explains provider) (s.readBool name false default) := by
  refine failsWith_read.bind fun c => ?_
  cases c with
  | none => exact failsWith_ok default
  | some raw => exact failsWith_ok (isTrue raw)

theorem failsWith_readNumber {kind : NumberKind} {default : Int} (hp : (name, kind) ∈ numberProperties) :
    FailsWith (s.Explains provider) (s.readNumber kind name false default) := by
  unfold readNumber
  cases hc : s.content name with
  | error fault =>
    rw [read_optional_error hc]
    exact failsWith_error (explains_of_content hc)
  | ok c =>
    rw [read_optional hc, ok_bind]
    cases c with
    | none => exact failsWith_ok default
    | some raw =>
      have hraw : s.property? name = some raw := Except.ok.inj ((content_eq_ok hc).symm.trans hc)
      dsimp only
      cases hread : Number.readDecimal kind.least kind.greatest raw with
      | error fault => exact failsWith_error (.number hp hraw hread)
      | ok n => exact failsWith_ok n

/-! ## Building -/

theorem failsWith_requireSsl (f : ConnectionFactory) :
    FailsWith (s.Explains provider) (liftM (requireSsl provider f) : Except Failure ConnectionFactory) := by
  unfold requireSsl ConnectionFactory.useSslProtocol
  cases h : provider.context Tls.defaultProtocol with
  | error refusal => exact failsWith_error (.refused h)
  | ok context => exact failsWith_ok _

theorem failsWith_applyProperties (f : ConnectionFactory) :
    FailsWith (s.Explains provider) (applyProperties provider s f) := by
  unfold applyProperties
  refine failsWith_content.bind fun host => ?_
  refine failsWith_content.bind fun password => ?_
  refine (failsWith_readNumber (by decide)).bind fun port => ?_
  refine (failsWith_readNumber (by decide)).bind fun readMax => ?_
  refine (failsWith_readNumber (by decide)).bind fun timeout => ?_
  refine (failsWith_readNumber (by decide)).bind fun qos => ?_
  refine failsWith_readBool.bind fun ssl => ?_
  refine .ite ((failsWith_requireSsl _).bind fun g => ?_) ((failsWith_ok _).bind fun g => ?_)
  -- the same properties are read behind the step for TLS whether it is taken or not
  all_goals
    refine (failsWith_readNumber (by decide)).bind fun termination => ?_
    refine failsWith_content.bind fun username => ?_
    refine failsWith_content.bind fun virtualHost => ?_
    refine failsWith_readBool.bind fun cleanUp => ?_
    refine failsWith_readBool.bind fun declare => ?_
    exact failsWith_ok _

theorem failsWith_buildConnectionFactory (name : Option String) :
    FailsWith (s.Explains provider) (buildConnectionFactory provider s name).outcome := by
  unfold buildConnectionFactory applyUri applyUris
  cases huri : s.content "uri" with
  | error fault => exact failsWith_error (explains_of_content huri)
  | ok uri =>
    cases huris : s.content "uris" with
    | error fault => exact failsWith_error (explains_of_content huris)
    | ok uris => exact failsWith_applyProperties _

/-- The constructor of destinations is only given names that are not empty. -/
theorem failsWith_readDestination (topic : Bool) : FailsWith (s.Explains provider) (readDestination s topic) := by
  unfold readDestination
  rcases readText_required_cases s "destinationName" with
    ⟨habsent, hread⟩ | ⟨fault, hc, hread⟩ | ⟨v, he, hread⟩
  · rw [hread]
    exact failsWith_error (.absent habsent)
  · rw [hread]
    exact failsWith_error (explains_of_content hc)
  · split at hread
    · rename_i hnull
      rw [hread]
      exact failsWith_error (.empty he (.inl hnull))
    · rw [hread]
      simp only [ok_bind, Option.getD_some]
      by_cases hempty : v.plain = ""
      · rw [if_pos hempty]
        exact failsWith_error (.empty he (.inr hempty))
      · rw [if_neg hempty]
        refine failsWith_readBool.bind fun amqp => ?_
        refine .ite ?_ ?_
        · refine failsWith_content.bind fun exchange => ?_
          refine failsWith_content.bind fun routingKey => ?_
          refine failsWith_content.bind fun queue => ?_
          rw [Destination.amqpMapped, Destination.checked, if_neg hempty]
          exact failsWith_ok _
        · rw [Destination.plain, Destination.checked, if_neg hempty]
          exact failsWith_ok _

/-! ## Resolving -/

theorem failsWith_requireClassName : FailsWith (s.Explains provider) s.requireClassName := by
  unfold requireClassName
  cases hc : s.className with
  | error fault =>
    cases s with
    | reference r => cases hc
    | environment table => exact failsWith_error (explains_of_content hc)
  | ok c =>
    cases c with
    | none => exact failsWith_error (.unnamed hc)
    | some c =>
      dsimp only
      split
      · exact failsWith_error (.blank hc ‹_›)
      · exact failsWith_ok c

theorem failsWith_kind {c : String} (h : s.className = .ok (some c)) : FailsWith (s.Explains provider) (s.kind c) := by
  unfold kind
  by_cases hfactory : c ∈ ClassName.connectionFactories
  · rw [if_pos (List.contains_iff_mem.2 hfactory)]
    exact failsWith_ok _
  · rw [if_neg fun hc => hfactory (List.contains_iff_mem.1 hc)]
    split_ifs with htopic hqueue hdestination
    · exact failsWith_ok _
    · exact failsWith_ok _
    · exact failsWith_readBool.bind fun isQueue => failsWith_ok _
    · refine failsWith_error (.unknown h fun hsupported => ?_)
      simp only [ClassName.supported, List.mem_append, List.mem_cons, List.not_mem_nil, or_false] at hsupported
      tauto

theorem failsWith_resolveSource (name : Option String) :
    FailsWith (s.Explains provider) (resolveSource provider s name).outcome := by
  unfold resolveSource
  cases hc : s.requireClassName with
  | error failure => exact failsWith_error (failsWith_requireClassName _ hc)
  | ok c =>
    dsimp only
    cases hkind : s.kind c with
    | error failure => exact failsWith_error (failsWith_kind (className_of_requireClassName hc) _ hkind)
    | ok kind =>
      cases kind with
      | connectionFactory => exact (failsWith_buildConnectionFactory name).map _
      | queue | topic | amqpMappedDestination => exact (failsWith_readDestination _).map _

end Source

/-! ## Failures of naming -/

/-- The categories of failed resolutions. -/
def resolutionCategories : List Category :=
  [.sourceUnavailable, .missingProperty, .emptyProperty, .invalidNumber, .unknownClass, .tlsUnavailable]

theorem NamingError.category_mem (e : NamingError) : e.report.category ∈ resolutionCategories := by
  cases e <;> exact List.contains_iff_mem.1 rfl

theorem isNaming_of_mem {c : Category} (h : c ∈ resolutionCategories) : c.isNaming = true := by
  revert c
  decide

theorem NamingError.rootCause_of_invalidNumber {e : NamingError} (h : e.report.category = .invalidNumber) :
    ∃ fault, e.rootCause = some (.number fault) := by
  cases e with
  | invalidNumber name raw kind fault => exact ⟨fault, rfl⟩
  | _ => cases h

theorem NamingError.rootCause_of_tlsUnavailable {e : NamingError} (h : e.report.category = .tlsUnavailable) :
    ∃ refusal, e.rootCause = some (.client (.tlsUnavailable refusal)) := by
  cases e with
  | tlsUnavailable refusal => exact ⟨refusal, rfl⟩
  | _ => cases h

/-- The report of a failed resolution is one of naming; a bad number and refused TLS have root causes of their own. -/
theorem NamingError.report_isNaming (e : NamingError) :
    e.report.category ∈ resolutionCategories ∧ e.report.category.isNaming = true ∧
      (e.report.category = .invalidNumber → ∃ fault, e.rootCause = some (.number fault)) ∧
      (e.report.category = .tlsUnavailable → ∃ refusal, e.rootCause = some (.client (.tlsUnavailable refusal))) :=
  ⟨e.category_mem, isNaming_of_mem e.category_mem, rootCause_of_invalidNumber, rootCause_of_tlsUnavailable⟩

theorem not_textual_of_explains {provider : Tls.Provider} {s : Source} {fault : Number.Unwritable}
    (h : s.Explains provider (.unwritable fault)) : ¬s.Textual := by
  cases h with
  | unwritable he hv =>
    intro htext
    rw [htext _ _ he] at hv
    cases hv

/-- Whatever is resolved, under whatever provider: the outcome is an object, or a failure of naming that the source or
the provider explains, unless a content of the source has no text. Nothing else comes out: a number that cannot
be read and TLS that is refused are the root causes of such failures, rejected URIs are none, and no destination is
made without a name. -/
theorem resolve_naming (provider : Tls.Provider) (input : Input) (name : Option String) (environment : Option Table) :
    let outcome := (resolve provider input name environment).outcome
    (∃ r, outcome = .ok r) ∨
      (∃ e : NamingError, outcome = .error (.naming e) ∧
        (Source.choose input environment = .error e ∨
          ∃ s, Source.choose input environment = .ok s ∧ s.Explains provider (.naming e)) ∧
        e.report.category ∈ resolutionCategories ∧ e.report.category.isNaming = true ∧
        (e.report.category = .invalidNumber → ∃ fault, e.rootCause = some (.number fault)) ∧
        (e.report.category = .tlsUnavailable → ∃ refusal, e.rootCause = some (.client (.tlsUnavailable refusal)))) ∨
      ∃ s fault, Source.choose input environment = .ok s ∧ ¬s.Textual ∧ outcome = .error (.unwritable fault) := by
  intro outcome
  cases hchoose : Source.choose input environment with
  | error e =>
    have heq : outcome = .error (.naming e) := by simp only [outcome, resolve, hchoose]
    exact .inr (.inl ⟨e, heq, .inl rfl, e.report_isNaming⟩)
  | ok s =>
    have hfails : FailsWith (s.Explains provider) outcome := by
      simp only [outcome, resolve, hchoose]
      exact Source.failsWith_resolveSource name
    cases ho : outcome with
    | ok r => exact .inl ⟨r, rfl⟩
    | error failure =>
      have h : s.Explains provider failure := hfails failure ho
      cases failure with
      | naming e => exact .inr (.inl ⟨e, rfl, .inr ⟨s, rfl, h⟩, e.report_isNaming⟩)
      | unwritable fault => exact .inr (.inr ⟨s, fault, rfl, not_textual_of_explains h, rfl⟩)
      -- the source explains neither a refusal of a client object nor one of a destination
      | client error => cases h
      | destination fault => cases h

end JmsNaming
