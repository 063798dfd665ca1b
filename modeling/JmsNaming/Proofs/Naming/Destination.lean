import JmsNaming.Proofs.Naming.Property

/-
The closed form of the destination of a source: what it is called, whether it is a queue or a topic and where its
messages go, told from the class name and seven properties; and which fault stands where there is none.
-/
namespace JmsNaming

/-! ## The two sorts of destinations -/

namespace Destination

/-- The destination goes by given AMQP names, and it is a queue if it has a queue to consume from. -/
structure IsMapped (d : Destination) (exchange routingKey queue : Option String) : Prop where
  kind : d.kind = .amqpMappedDestination
  exchangeName : d.exchangeName = exchange
  routingKey : d.routingKey = routingKey
  queueName : d.queueName = queue
  isQueue : d.isQueue = true ↔ queue ≠ none

/-- The destination has no AMQP names, and goes by its own name and by what it is. -/
structure IsPlain (d : Destination) : Prop where
  unmapped : d.amqpExchangeName = none ∧ d.amqpRoutingKey = none ∧ d.amqpQueueName = none
  kind : d.kind = if d.isQueue then .queue else .topic
  exchangeName : d.exchangeName = some (if d.isQueue then "jms.durable.queues" else "jms.durable.topic")
  routingKey : d.routingKey = some d.name
  queueName : d.queueName = if d.isQueue then some d.name else none

variable {name : String}

theorem isMapped (exchange routingKey queue : Option String) :
    IsMapped { name, isQueue := queue.isSome, amqp := true, amqpExchangeName := exchange,
               amqpRoutingKey := routingKey, amqpQueueName := queue } exchange routingKey queue :=
  ⟨rfl, rfl, rfl, rfl, Option.isSome_iff_ne_none⟩

theorem isPlain (isQueue : Bool) : IsPlain { name, isQueue } := by
  cases isQueue <;> exact ⟨⟨rfl, rfl, rfl⟩, rfl, rfl, rfl, rfl⟩

theorem checked_eq_ok {d : Destination} (h : d.name ≠ "") : d.checked = .ok d :=
  if_neg h

end Destination

/-- The class names of destinations. -/
def ClassName.destinations : List String :=
  [topic, queue, adminDestination]

namespace Source

variable {s : Source} {name c : String}

/-! ## Reading single properties -/

theorem readBool_of_hasText (h : s.HasText name) (default : Bool) :
    s.readBool name false default = .ok (s.flag name default) :=
  readBool_optional h.content_eq default

theorem readBool_of_not_hasText (h : ¬s.HasText name) (default : Bool) :
    s.readBool name false default = .error (.unwritable .digits) := by
  rw [readBool, read_optional_error (content_eq_error h)]
  rfl

theorem readText_required_absent (h : s.entry? name = none) :
    s.readText name true none = .error (.naming (.missingProperty name)) := by
  simp [readText, read, contains, h]

theorem readText_required_null {v : Value} (h : s.entry? name = some v) (hv : v.isNull = true) :
    s.readText name true none = .error (.naming (.emptyProperty name)) := by
  simp [readText, read, contains, content, h, hv]

theorem readText_required_of_hasText {text : String} (h : s.HasText name) (hp : s.property? name = some text) :
    s.readText name true none = .ok (some text) := by
  rw [readText, read_of_content (h.content_eq.trans (congrArg Except.ok hp))]
  rfl

theorem readText_required_of_not_hasText (h : ¬s.HasText name) :
    s.readText name true none = .error (.unwritable .digits) := by
  have hentry : s.contains name = true := by
    unfold contains
    cases he : s.entry? name with
    | none => exact absurd (fun v hv => by rw [he] at hv; cases hv) h
    | some v => rfl
  simp [readText, read, hentry, content_eq_error h]

theorem content_bind_of_hasText {α : Type} (h : s.HasText name) (f : Option String → Except Failure α) :
    (liftM (s.content name) >>= f) = f (s.property? name) := by
  rw [h.content_eq]
  rfl

theorem content_bind_of_not_hasText {α : Type} (h : ¬s.HasText name) (f : Option String → Except Failure α) :
    (liftM (s.content name) >>= f) = .error (.unwritable .digits) := by
  rw [content_eq_error h]
  rfl

/-! ## Building -/

/-- The AMQP names of a destination. -/
def amqpNames : List String :=
  ["amqpExchangeName", "amqpRoutingKey", "amqpQueueName"]

/-- The properties that are read behind the name of a destination. -/
def readsBehindName (s : Source) : List String :=
  "amqp" :: if s.flag "amqp" false then amqpNames else []

/-- The properties that are read for a destination of a known kind: nothing behind the name where there is none. -/
def builderReads (s : Source) : List String :=
  "destinationName" :: if (s.property? "destinationName").getD "" = "" then [] else s.readsBehindName

/-- The destination of a source under a name, with the AMQP names if they are asked for. -/
def destination (s : Source) (name : String) (isQueue : Bool) : Destination :=
  if s.flag "amqp" false then
    { name, isQueue := (s.property? "amqpQueueName").isSome, amqp := true
      amqpExchangeName := s.property? "amqpExchangeName", amqpRoutingKey := s.property? "amqpRoutingKey"
      amqpQueueName := s.property? "amqpQueueName" }
  else { name, isQueue }

variable {topic : Bool}

theorem readDestination_absent (h : s.entry? "destinationName" = none) :
    readDestination s topic = .error (.naming (.missingProperty "destinationName")) := by
  rw [readDestination, readText_required_absent h]
  rfl

theorem readDestination_empty {v : Value} (hname : s.HasText "destinationName")
    (h : s.entry? "destinationName" = some v) (hv : v.isNull = true ∨ v.plain = "") :
    readDestination s topic = .error (.naming (.emptyProperty "destinationName")) := by
  by_cases hnull : v.isNull = true
  · rw [readDestination, readText_required_null h hnull]
    rfl
  · have hp : s.property? "destinationName" = some "" := by
      rw [property?, h]
      simp [hnull, hv.resolve_left hnull]
    rw [readDestination, readText_required_of_hasText hname hp]
    rfl

/-- The AMQP names are read one after the other, and the first that has no text stops the reading. -/
theorem amqpNames_bind_of_not_hasText {α : Type}
    (f : Option String → Option String → Option String → Except Failure α) (h : ∃ p ∈ amqpNames, ¬s.HasText p) :
    (do
      let exchange ← liftM (s.content "amqpExchangeName")
      let routingKey ← liftM (s.content "amqpRoutingKey")
      let queue ← liftM (s.content "amqpQueueName")
      f exchange routingKey queue : Except Failure α) = .error (.unwritable .digits) := by
  by_cases hexchange : s.HasText "amqpExchangeName"
  · rw [content_bind_of_hasText hexchange]
    by_cases hkey : s.HasText "amqpRoutingKey"
    · rw [content_bind_of_hasText hkey]
      have hqueue : ¬s.HasText "amqpQueueName" := by simpa [amqpNames, hexchange, hkey] using h
      exact content_bind_of_not_hasText hqueue _
    · exact content_bind_of_not_hasText hkey _
  · exact content_bind_of_not_hasText hexchange _

/-- What is left to do once the name is known. -/
def readNamed (s : Source) (name : String) (topic : Bool) : Except Failure Destination := do
  if ← s.readBool "amqp" false false then
    (Destination.amqpMapped name (← s.content "amqpExchangeName") (← s.content "amqpRoutingKey")
      (← s.content "amqpQueueName")).mapError .destination
  else (Destination.plain name (!topic)).mapError .destination

theorem readDestination_named {text : String} (hname : s.HasText "destinationName")
    (hp : s.property? "destinationName" = some text) (hne : text ≠ "") :
    readDestination s topic = s.readNamed text topic := by
  rw [readDestination, readText_required_of_hasText hname hp]
  simp only [ok_bind, Option.getD_some, if_neg hne]
  rfl

theorem readNamed_eq_ok (hne : name ≠ "") (h : ∀ p ∈ s.readsBehindName, s.HasText p) :
    s.readNamed name topic = .ok (s.destination name (!topic)) := by
  have hamqp : s.HasText "amqp" := h "amqp" List.mem_cons_self
  rw [readNamed, readBool_of_hasText hamqp, ok_bind]
  unfold destination
  -- the check of the destination itself never fails, since the name is not empty
  cases hflag : s.flag "amqp" false with
  | false =>
    rw [if_neg Bool.false_ne_true, if_neg Bool.false_ne_true, Destination.plain, Destination.checked_eq_ok hne]
    rfl
  | true =>
    have htext : ∀ p ∈ amqpNames, s.HasText p := fun p hp => h p (by simp [readsBehindName, hflag, hp])
    rw [if_pos rfl, if_pos rfl, content_bind_of_hasText (htext _ (by simp [amqpNames])),
      content_bind_of_hasText (htext _ (by simp [amqpNames])), content_bind_of_hasText (htext _ (by simp [amqpNames])),
      Destination.amqpMapped, Destination.checked_eq_ok hne]
    rfl

theorem readNamed_of_not_hasText (h : ∃ p ∈ s.readsBehindName, ¬s.HasText p) :
    s.readNamed name topic = .error (.unwritable .digits) := by
  obtain ⟨p, hmem, hno⟩ := h
  by_cases hamqp : s.HasText "amqp"
  · have hnames : p ∈ if s.flag "amqp" false then amqpNames else [] :=
      (List.mem_cons.1 hmem).resolve_left fun hp => hno (hp ▸ hamqp)
    rw [readNamed, readBool_of_hasText hamqp, ok_bind]
    cases hflag : s.flag "amqp" false with
    | false =>
      rw [hflag, if_neg Bool.false_ne_true] at hnames
      exact absurd hnames List.not_mem_nil
    | true =>
      rw [hflag, if_pos rfl] at hnames
      exact amqpNames_bind_of_not_hasText _ ⟨p, hnames, hno⟩
  · rw [readNamed, readBool_of_not_hasText hamqp]
    rfl

/-- A property that is read and has no text stops the building. -/
theorem readDestination_of_not_hasText (h : ∃ p ∈ s.builderReads, ¬s.HasText p) :
    readDestination s topic = .error (.unwritable .digits) := by
  obtain ⟨p, hmem, hno⟩ := h
  by_cases hname : s.HasText "destinationName"
  · have hbehind : p ∈ if (s.property? "destinationName").getD "" = "" then [] else s.readsBehindName :=
      (List.mem_cons.1 hmem).resolve_left fun hp => hno (hp ▸ hname)
    cases hp : s.property? "destinationName" with
    | none =>
      -- nothing is read behind a name that is missing
      rw [hp, Option.getD_none, if_pos rfl] at hbehind
      exact absurd hbehind List.not_mem_nil
    | some text =>
      by_cases hne : text = ""
      · rw [hp, hne, Option.getD_some, if_pos rfl] at hbehind
        exact absurd hbehind List.not_mem_nil
      · rw [hp, Option.getD_some, if_neg hne] at hbehind
        rw [readDestination_named hname hp hne, readNamed_of_not_hasText ⟨p, hbehind, hno⟩]
  · rw [readDestination, readText_required_of_not_hasText hname]
    rfl

/-! ## Resolution -/

/-- The class is that of queues, or it leaves the kind to `isQueue`, which is true by default. -/
def selectsQueue (s : Source) (className : String) : Bool :=
  className == ClassName.queue || className == ClassName.adminDestination && s.flag "isQueue" true

/-- The properties that are read for a destination: `isQueue` only for the class that leaves the kind open. -/
def destinationReads (s : Source) (className : String) : List String :=
  (if className = ClassName.adminDestination then ["isQueue"] else []) ++ s.builderReads

theorem selectsQueue_iff :
    s.selectsQueue c = true ↔ c = ClassName.queue ∨
      c = ClassName.adminDestination ∧ (s.property? "isQueue" = none ∨ s.Says "isQueue") := by
  rw [selectsQueue, Bool.or_eq_true, Bool.and_eq_true, beq_iff_eq, beq_iff_eq, flag_true_iff]

theorem requireClassName_of_mem (hclass : s.className = .ok (some c)) (hc : c ∈ ClassName.destinations) :
    s.requireClassName = .ok c := by
  have hall : ∀ c ∈ ClassName.destinations, (Text.trim c.toList).isEmpty = false := by decide
  simp [requireClassName, hclass, hall c hc]

theorem kind_adminDestination :
    s.kind ClassName.adminDestination =
      (s.readBool "isQueue" false true).map fun isQueue => if isQueue then .queue else .topic := by
  have hother : ClassName.connectionFactories.contains ClassName.adminDestination = false ∧
      ClassName.adminDestination ≠ ClassName.topic ∧ ClassName.adminDestination ≠ ClassName.queue := by decide
  simp only [kind, hother.1, if_neg hother.2.1, if_neg hother.2.2, Bool.false_eq_true, if_false, if_true]
  cases s.readBool "isQueue" false true <;> rfl

theorem kind_of_mem (hc : c ∈ ClassName.destinations) (h : c = ClassName.adminDestination → s.HasText "isQueue") :
    s.kind c = .ok (if s.selectsQueue c then .queue else .topic) := by
  simp only [ClassName.destinations, List.mem_cons, List.not_mem_nil, or_false] at hc
  rcases hc with rfl | rfl | rfl
  · rfl
  · rfl
  · rw [kind_adminDestination, readBool_of_hasText (h rfl)]
    rfl

/-- A destination is built of the kind that the class asks for. -/
theorem resolveSource_destination (hclass : s.className = .ok (some c)) (hc : c ∈ ClassName.destinations)
    (h : c = ClassName.adminDestination → s.HasText "isQueue") (provider : Tls.Provider) (name : Option String) :
    (resolveSource provider s name).outcome = (readDestination s (!s.selectsQueue c)).map .destination := by
  simp only [resolveSource, requireClassName_of_mem hclass hc, kind_of_mem hc h]
  cases s.selectsQueue c <;> rfl

theorem resolve_outcome {input : Input} {environment : Option Table} (h : choose input environment = .ok s)
    (provider : Tls.Provider) (name : Option String) :
    (resolve provider input name environment).outcome = (resolveSource provider s name).outcome := by
  simp only [resolve, h]

/-- The source describes the destination: all of it follows from the class name and the properties. -/
structure Describes (s : Source) (className : String) (d : Destination) : Prop where
  name : s.property? "destinationName" = some d.name
  durable : d.isTemporary = false
  mapped : s.Says "amqp" →
    d.IsMapped (s.property? "amqpExchangeName") (s.property? "amqpRoutingKey") (s.property? "amqpQueueName")
  plain : ¬s.Says "amqp" → d.IsPlain
  isQueue : ¬s.Says "amqp" → (d.isQueue = true ↔ className = ClassName.queue ∨
    className = ClassName.adminDestination ∧ (s.property? "isQueue" = none ∨ s.Says "isQueue"))

theorem describes_destination {text : String} (hp : s.property? "destinationName" = some text) :
    s.Describes c (s.destination text (s.selectsQueue c)) := by
  unfold destination
  by_cases hamqp : s.flag "amqp" false = true
  · rw [if_pos hamqp]
    have hsays := flag_false_iff.1 hamqp
    exact ⟨hp, rfl, fun _ => Destination.isMapped _ _ _, fun h => absurd hsays h, fun h => absurd hsays h⟩
  · rw [if_neg hamqp]
    have hsays := mt flag_false_iff.2 hamqp
    exact ⟨hp, rfl, fun h => absurd h hsays, fun _ => Destination.isPlain _, fun _ => selectsQueue_iff⟩

/-- A source with the class name of a destination resolves to the destination that it describes, provided that there is
a name and every property that is read has a text. -/
theorem resolve_destination {input : Input} {environment : Option Table}
    (hsource : Source.choose input environment = .ok s) (hclass : s.className = .ok (some c))
    (hc : c ∈ ClassName.destinations) (provider : Tls.Provider) (name : Option String) :
    ((∃ p ∈ s.destinationReads c, ¬s.HasText p) →
      (resolve provider input name environment).outcome = .error (.unwritable .digits)) ∧
    ((∀ p ∈ s.destinationReads c, s.HasText p) →
      (s.entry? "destinationName" = none →
        (resolve provider input name environment).outcome = .error (.naming (.missingProperty "destinationName"))) ∧
      (∀ v, s.entry? "destinationName" = some v → v.isNull = true ∨ v.plain = "" →
        (resolve provider input name environment).outcome = .error (.naming (.emptyProperty "destinationName"))) ∧
      (∀ v, s.entry? "destinationName" = some v → v.isNull = false → v.plain ≠ "" →
        ∃ d, (resolve provider input name environment).outcome = .ok (.destination d) ∧ d.name = v.plain ∧
          s.Describes c d)) := by
  rw [resolve_outcome hsource]
  by_cases hkind : c = ClassName.adminDestination → s.HasText "isQueue"
  · -- the kind is known, and what is left to read is what the builder reads
    rw [resolveSource_destination hclass hc hkind]
    refine ⟨fun ⟨p, hmem, hno⟩ => ?_, fun hreads => ⟨fun habsent => ?_, fun v hv hempty => ?_, fun v hv hnull hne => ?_⟩⟩
    · have hbuilder : p ∈ s.builderReads := by
        refine (List.mem_append.1 hmem).resolve_left fun h => hno ?_
        split at h
        · exact List.mem_singleton.1 h ▸ hkind ‹_›
        · exact absurd h List.not_mem_nil
      rw [readDestination_of_not_hasText ⟨p, hbuilder, hno⟩]
      rfl
    · rw [readDestination_absent habsent]
      rfl
    · have hname : s.HasText "destinationName" := hreads _ (List.mem_append_right _ List.mem_cons_self)
      rw [readDestination_empty hname hv hempty]
      rfl
    · have hbuilder : ∀ p ∈ s.builderReads, s.HasText p := fun p hp => hreads p (List.mem_append_right _ hp)
      have hp : s.property? "destinationName" = some v.plain := by simp [property?, hv, hnull]
      have hbehind : ∀ p ∈ s.readsBehindName, s.HasText p := fun p hmem =>
        hbuilder p (List.mem_cons_of_mem _ (by rwa [hp, Option.getD_some, if_neg hne]))
      rw [readDestination_named (hbuilder _ List.mem_cons_self) hp hne, readNamed_eq_ok hne hbehind, Bool.not_not]
      have hdescribes := describes_destination (c := c) hp
      exact ⟨_, rfl, Option.some.inj (hdescribes.name.symm.trans hp), hdescribes⟩
  · -- the kind cannot be told: `isQueue` is asked for and has no text
    obtain ⟨rfl, hno⟩ := Classical.not_imp.1 hkind
    have hread : "isQueue" ∈ s.destinationReads ClassName.adminDestination := by simp [destinationReads]
    refine ⟨fun _ => ?_, fun hreads => absurd (hreads _ hread) hno⟩
    simp only [resolveSource, requireClassName_of_mem hclass hc, kind_adminDestination, readBool_of_not_hasText hno]
    rfl

/-- AMQP names without a queue make no queue, whatever `isQueue` says. A name that is null is present and empty. -/
theorem resolve_destination_unbound :
    let addrs : List RefAddr :=
      [⟨"isQueue", .bool true⟩, ⟨"amqp", .text "TRUE"⟩, ⟨"amqpExchangeName", .text "ex"⟩, ⟨"amqpRoutingKey", .null⟩]
    let r : Reference := { className := some ClassName.adminDestination, addrs := ⟨"destinationName", .int 7⟩ :: addrs }
    let unnamed : Reference := { r with addrs := ⟨"destinationName", .null⟩ :: addrs }
    (∃ d, (resolve .working (.reference r) none none).outcome = .ok (.destination d) ∧ d.name = "7" ∧
      d.isQueue = false ∧ d.exchangeName = some "ex" ∧ d.routingKey = none) ∧
    (resolve .working (.reference unnamed) none none).outcome = .error (.naming (.emptyProperty "destinationName")) := by
  intro addrs r unnamed
  have hmem : ClassName.adminDestination ∈ ClassName.destinations := by decide
  constructor
  · have hsource : Source.choose (.reference r) none = .ok (.reference r) := rfl
    have htext : (Source.reference r).Textual := textual_reference (by decide)
    obtain ⟨-, h⟩ := resolve_destination hsource rfl hmem .working none
    obtain ⟨-, -, h⟩ := h fun p _ => htext.hasText p
    obtain ⟨d, hd, hname, hdescribes⟩ := h (.int 7) rfl rfl (by decide)
    have hmapped := hdescribes.mapped (flag_false_iff.1 (by decide))
    refine ⟨d, hd, hname.trans (by decide), ?_, hmapped.exchangeName, hmapped.routingKey⟩
    rw [← Bool.not_eq_true, hmapped.isQueue]
    decide
  · have hsource : Source.choose (.reference unnamed) none = .ok (.reference unnamed) := rfl
    have htext : (Source.reference unnamed).Textual := textual_reference (by decide)
    obtain ⟨-, h⟩ := resolve_destination hsource rfl hmem .working none
    obtain ⟨-, h, -⟩ := h fun p _ => htext.hasText p
    exact h .null rfl (.inl rfl)

/-- A named queue is not built if the content of `amqp` is a whole number of too many digits. -/
theorem resolve_destination_unwritable :
    let wide : Value := .int (Int.ofNat (Nat.pow 16 3600))
    let table : Table :=
      [(.text "className", .text ClassName.queue), (.text "destinationName", .text "orders"), (.text "amqp", wide)]
    (Source.environment table).className = .ok (some ClassName.queue) ∧
      (Source.environment table).property? "destinationName" = some "orders" ∧
      (resolve .working (.other .null) (some "q") (some table)).outcome = .error (.unwritable .digits) := by
  intro wide table
  have hwide : wide.isWritable = false := by decide +kernel
  have hno : ¬(Source.environment table).HasText "amqp" := fun h => by
    rw [h wide rfl] at hwide
    cases hwide
  have hread : "amqp" ∈ (Source.environment table).builderReads := by
    have hname : (Source.environment table).property? "destinationName" = some "orders" := rfl
    simp [builderReads, hname, readsBehindName]
  have hclass : (Source.environment table).className = .ok (some ClassName.queue) := rfl
  have hsource : Source.choose (.other .null) (some table) = .ok (.environment table) := rfl
  refine ⟨hclass, rfl, ?_⟩
  rw [resolve_outcome hsource,
    resolveSource_destination hclass (by decide) (fun h => absurd h (by decide)),
    readDestination_of_not_hasText ⟨"amqp", hread, hno⟩]
  rfl

end Source

end JmsNaming
