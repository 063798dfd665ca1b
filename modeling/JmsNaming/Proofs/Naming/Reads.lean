import JmsNaming.Proofs.Naming.ConnectionFactory
import JmsNaming.Proofs.Value.Table

/-
What a resolution reads of its source: the class name, and the entries of the properties that its builder asks for.
Sources that agree in these are resolved alike, and log the same but for their origin. A table of names and the
reference with its entries are such sources.
-/
namespace JmsNaming

/-! ## Origins in the log -/

/-- The event with another origin, if it tells one. -/
def Log.Event.withOrigin (origin : String) (e : Log.Event) : Log.Event :=
  { e with fields := e.fields.map fun field => if field.1 = "origin" then (field.1, .text origin) else field }

/-- The outcome, with another origin in the log. -/
def Logged.withOrigin {α : Type} (origin : String) (l : Logged α) : Logged α :=
  { l with events := l.events.map (Log.Event.withOrigin origin) }

/-- The event of a URI that was not taken over tells no origin. -/
theorem withOrigin_afterChange {event : String} {name : Option String}
    {change : ConnectionFactory.Change ClientError} {f : ConnectionFactory} {events : List Log.Event}
    (h : afterChange event name change = (f, events)) (origin : String) :
    events.map (Log.Event.withOrigin origin) = events := by
  obtain ⟨outcome, g⟩ := change
  cases outcome with
  | ok =>
    cases h
    rfl
  | error error =>
    cases h
    simp [rejection, Log.Event.withOrigin]

namespace Source

variable {s t : Source} {name : String}

/-! ## Properties that are read -/

/-- The properties of a destination; the AMQP names are read only if it is mapped onto them. -/
def destinationProperties (s : Source) : List String :=
  ["destinationName", "amqp"] ++
    if s.flag "amqp" false then ["amqpExchangeName", "amqpRoutingKey", "amqpQueueName"] else []

/-- The properties that are read for a class. -/
def propertiesFor (s : Source) (className : String) : List String :=
  if ClassName.connectionFactories.contains className then factoryProperties
  else if className = ClassName.topic then s.destinationProperties
  else if className = ClassName.queue then s.destinationProperties
  else if className = ClassName.adminDestination then "isQueue" :: s.destinationProperties
  else []

/-- The properties that are read when the source is resolved. -/
def properties (s : Source) : List String :=
  match s.className with
  | .ok (some className) => s.propertiesFor className
  | _ => []

/-- The sources have the same entries under the names. -/
def AgreeOn (names : List String) (s t : Source) : Prop :=
  ∀ name ∈ names, s.entry? name = t.entry? name

/-! ## Building -/

variable {provider : Tls.Provider}

theorem applyProperties_congr (h : AgreeOn factoryProperties s t) (f : ConnectionFactory) :
    applyProperties provider s f = applyProperties provider t f := by
  unfold applyProperties
  simp only [content_congr (h "host" (by decide)), content_congr (h "password" (by decide)),
    content_congr (h "username" (by decide)), content_congr (h "virtualHost" (by decide)),
    readNumber_congr (h "port" (by decide)), readNumber_congr (h "queueBrowserReadMax" (by decide)),
    readNumber_congr (h "onMessageTimeoutMs" (by decide)), readNumber_congr (h "channelsQos" (by decide)),
    readNumber_congr (h "terminationTimeout" (by decide)), readBool_congr (h "ssl" (by decide)),
    readBool_congr (h "cleanUpServerNamedQueuesForNonDurableTopicsOnSessionClose" (by decide)),
    readBool_congr (h "declareReplyToDestination" (by decide))]

theorem applyUri_congr (h : s.entry? "uri" = t.entry? "uri") (name : Option String) (f : ConnectionFactory) :
    applyUri provider s name f = applyUri provider t name f := by
  unfold applyUri
  rw [content_congr h]

theorem applyUris_congr (h : s.entry? "uris" = t.entry? "uris") (name : Option String) (f : ConnectionFactory) :
    applyUris provider s name f = applyUris provider t name f := by
  unfold applyUris
  rw [content_congr h]

theorem withOrigin_applyUri {name : Option String} {f g : ConnectionFactory} {events : List Log.Event}
    (h : applyUri provider s name f = .ok (g, events)) (origin : String) :
    events.map (Log.Event.withOrigin origin) = events := by
  obtain ⟨uri, -, hchange⟩ := map_eq_ok_iff.1 h
  exact withOrigin_afterChange hchange origin

theorem withOrigin_applyUris {name : Option String} {f g : ConnectionFactory} {events : List Log.Event}
    (h : applyUris provider s name f = .ok (g, events)) (origin : String) :
    events.map (Log.Event.withOrigin origin) = events := by
  obtain ⟨uris, -, hchange⟩ := map_eq_ok_iff.1 h
  cases uris with
  | none =>
    cases hchange
    rfl
  | some text => exact withOrigin_afterChange hchange origin

theorem buildConnectionFactory_congr (h : AgreeOn factoryProperties s t) (name : Option String) :
    buildConnectionFactory provider s name = (buildConnectionFactory provider t name).withOrigin s.origin := by
  unfold buildConnectionFactory
  rw [applyUri_congr (h "uri" (by decide))]
  rcases huri : applyUri provider t name {} with fault | ⟨f, fromUri⟩
  · simp [Logged.withOrigin, Log.Event.withOrigin]
  · dsimp only
    rw [applyUris_congr (h "uris" (by decide))]
    rcases huris : applyUris provider t name f with fault | ⟨g, fromUris⟩
    · simp [Logged.withOrigin, Log.Event.withOrigin, withOrigin_applyUri huri]
    · simp [Logged.withOrigin, Log.Event.withOrigin, withOrigin_applyUri huri, withOrigin_applyUris huris,
        applyProperties_congr h]

theorem readDestination_congr (h : AgreeOn s.destinationProperties s t) (topic : Bool) :
    readDestination s topic = readDestination t topic := by
  have hname : s.entry? "destinationName" = t.entry? "destinationName" := h _ (by simp [destinationProperties])
  have hamqp : s.entry? "amqp" = t.entry? "amqp" := h _ (by simp [destinationProperties])
  unfold readDestination
  rw [readText_congr hname, readBool_congr hamqp]
  refine bind_congr fun text => ?_
  dsimp only
  split_ifs
  · rfl
  · cases hmapped : t.readBool "amqp" false false with
    | error failure => rfl
    | ok mapped =>
      cases mapped with
      | false => rfl
      | true =>
        -- the destination is mapped, so that the AMQP names count as read
        have hflag : s.flag "amqp" false = true := by
          rw [flag_congr hamqp]
          rw [readBool_optional (content_eq_ok_of_readBool hmapped)] at hmapped
          exact Except.ok.inj hmapped
        have hnames : ∀ name ∈ ["amqpExchangeName", "amqpRoutingKey", "amqpQueueName"],
            s.content name = t.content name := fun name hn =>
          content_congr (h name (List.mem_append_right _ (by rwa [if_pos hflag])))
        simp only [hnames "amqpExchangeName" (by decide), hnames "amqpRoutingKey" (by decide),
          hnames "amqpQueueName" (by decide)]

theorem buildDestination_congr (h : AgreeOn s.destinationProperties s t) (name : Option String) (topic : Bool) :
    buildDestination s name topic = (buildDestination t name topic).withOrigin s.origin := by
  unfold buildDestination
  rw [readDestination_congr h]
  simp [Logged.withOrigin, Log.Event.withOrigin]

/-! ## Resolving -/

theorem kind_congr {c : String} (h : AgreeOn (s.propertiesFor c) s t) : s.kind c = t.kind c := by
  unfold propertiesFor at h
  unfold kind
  split_ifs at h ⊢
  · rfl
  · rfl
  · rfl
  · rw [readBool_congr (h "isQueue" List.mem_cons_self)]
  · rfl

/-- Where the properties agree that are read for a class, those agree that the builder of its kind reads. -/
theorem agreeOn_of_kind {c : String} {kind : ObjectKind} (hkind : s.kind c = .ok kind)
    (h : AgreeOn (s.propertiesFor c) s t) :
    AgreeOn (if kind = .connectionFactory then factoryProperties else s.destinationProperties) s t := by
  unfold propertiesFor at h
  unfold Source.kind at hkind
  split_ifs at h hkind
  · cases hkind
    exact h
  · cases hkind
    exact h
  · cases hkind
    exact h
  · obtain ⟨isQueue, -, hkind⟩ := bind_eq_ok_iff.1 hkind
    have htail : AgreeOn s.destinationProperties s t := fun name hn => h name (List.mem_cons_of_mem _ hn)
    cases isQueue <;> cases hkind <;> exact htail

/-- Sources of one class that agree in the properties that are read are resolved alike, and log the same but for
their origin. -/
theorem resolveSource_congr (hclass : s.className = t.className) (h : AgreeOn s.properties s t)
    (provider : Tls.Provider) (name : Option String) :
    resolveSource provider s name = (resolveSource provider t name).withOrigin s.origin := by
  have hrequire : s.requireClassName = t.requireClassName := by
    unfold requireClassName
    rw [hclass]
  unfold resolveSource
  rw [← hrequire]
  cases hc : s.requireClassName with
  | error failure => rfl
  | ok c =>
    have hfor : AgreeOn (s.propertiesFor c) s t := by
      unfold properties at h
      rwa [className_of_requireClassName hc] at h
    dsimp only
    rw [← kind_congr hfor]
    cases hkind : s.kind c with
    | error failure => rfl
    | ok kind =>
      have hbuilder := agreeOn_of_kind hkind hfor
      cases kind with
      | connectionFactory =>
        dsimp only
        rw [buildConnectionFactory_congr hbuilder]
        rfl
      | queue | topic | amqpMappedDestination =>
        dsimp only
        rw [buildDestination_congr hbuilder]
        rfl

theorem withOrigin_resolveSource (provider : Tls.Provider) (s : Source) (name : Option String) :
    (resolveSource provider s name).withOrigin s.origin = resolveSource provider s name :=
  (resolveSource_congr rfl (fun _ _ => rfl) provider name).symm

end Source

/-! ## Tables of names -/

/-- The table of names and their values. -/
def Table.ofNames (entries : List (String × Value)) : Table :=
  entries.map fun e => (.text e.1, e.2)

namespace Source

theorem get?_ofNames (entries : List (String × Value)) (name : String) :
    (Table.ofNames entries).get? name = (entries.find? (·.1 == name)).map (·.2) := by
  have hkey : (fun e : Scalar × Value => e.1.sameKey (.text name)) ∘ (fun e : String × Value => (.text e.1, e.2)) =
      fun e => e.1 == name := by
    funext e
    rw [Bool.eq_iff_iff, Function.comp_apply, Scalar.sameKey_iff]
    simp [Scalar.key]
  rw [Table.get?, Table.find?, Table.ofNames, List.find?_map, hkey, Option.map_map]
  rfl

/-- A table of names and a reference with its entries have the same entry under every name. -/
theorem entry?_ofTable (entries : List (String × Value)) (className factory : Option String) (name : String) :
    entry? (.environment (Table.ofNames entries)) name =
      entry? (.reference (Reference.ofTable className entries factory)) name := by
  rw [Source.entry?, Source.entry?, get?_ofNames, Reference.get?, Reference.ofTable, List.find?_map, Option.map_map]
  rfl

/-- A table of names whose class name is a text, null or absent, and the reference of that class with the entries of
the table are resolved alike whatever their values are, and log the same but for their origin. -/
theorem resolve_ofTable {entries : List (String × Value)} (hne : entries ≠ []) {className : Option String}
    (hclass : (Table.ofNames entries).get? classNameKey = some (.optional className) ∨
      className = none ∧ (Table.ofNames entries).get? classNameKey = none)
    (factory : Option String) (provider : Tls.Provider) (v : Value) (name : Option String) (environment : Option Table) :
    resolve provider (.other v) name (some (Table.ofNames entries)) =
      (resolve provider (.reference (Reference.ofTable className entries factory)) name environment).withOrigin
        "environment" := by
  have hname : Source.className (.environment (Table.ofNames entries)) = .ok className := by
    rw [Source.className, content, entry?]
    rcases hclass with hentry | ⟨rfl, hentry⟩
    · rw [hentry]
      cases className <;> rfl
    · rw [hentry]
  have hchoose : choose (.other v) (some (Table.ofNames entries)) = .ok (.environment (Table.ofNames entries)) := by
    obtain ⟨e, rest, rfl⟩ := List.exists_cons_of_ne_nil hne
    rfl
  simp only [resolve, hchoose]
  exact resolveSource_congr hname (fun name _ => entry?_ofTable entries className factory name) provider name

/-- A table with contents of all kinds under a provider that refuses. -/
theorem resolve_ofTable_mixed :
    let entries : List (String × Value) :=
      [("className", .text ClassName.topicConnectionFactory), ("uri", .text "amqps://a"), ("uris", .list [.text "b"]),
        ("host", .null), ("port", .map [(.text "p", .int 1)]), ("ssl", .bool true)]
    resolve (.failing "no provider") (.other .null) (some "jms/cf") (some (Table.ofNames entries)) =
      (resolve (.failing "no provider")
        (.reference (Reference.ofTable (some ClassName.topicConnectionFactory) entries none)) (some "jms/cf")
        none).withOrigin "environment" :=
  resolve_ofTable (List.cons_ne_nil _ _) (.inl rfl) none (.failing "no provider") .null (some "jms/cf") none

end Source

end JmsNaming
