import JmsNaming.Proofs.CommandLine.SingleFile
import JmsNaming.Proofs.Json.Values
import JmsNaming.Proofs.Naming.Events
import JmsNaming.Proofs.Naming.Failures
import JmsNaming.Proofs.Naming.Reads
import JmsNaming.Proofs.Settings.Leaves
import JmsNaming.Proofs.Terminal.Message

/-
What the program says of a resource: its fields as JSON if the library resolves its table, and otherwise nothing on the
output, with an exit code that is not zero. No failure of the settings or of naming is left over.
-/
namespace JmsNaming

/-! ## Fields -/

/-- The fields of a factory by name, all but the TLS context. -/
def ConnectionFactory.fields (f : ConnectionFactory) : List (String × Value) :=
  [("username", .text f.username), ("password", .text f.password), ("virtual_host", .text f.virtualHost),
    ("host", .text f.host), ("port", .int f.port), ("queue_browser_read_max", .int f.queueBrowserReadMax),
    ("on_message_timeout_ms", .int f.onMessageTimeoutMs), ("channels_qos", .int f.channelsQos), ("ssl", .bool f.ssl),
    ("termination_timeout", .int f.terminationTimeout),
    ("clean_up_server_named_queues_for_non_durable_topics_on_session_close",
      .bool f.cleanUpServerNamedQueuesForNonDurableTopicsOnSessionClose),
    ("declare_reply_to_destination", .bool f.declareReplyToDestination), ("uris", .list (f.uris.map .text))]

/-- The fields of a destination by name. -/
def Destination.fields (d : Destination) : List (String × Value) :=
  [("destination_name", .text d.name), ("is_queue", .bool d.isQueue), ("is_temporary", .bool d.isTemporary),
    ("amqp", .bool d.amqp), ("amqp_exchange_name", .optional d.amqpExchangeName),
    ("amqp_routing_key", .optional d.amqpRoutingKey), ("amqp_queue_name", .optional d.amqpQueueName)]

/-- No setting of a factory is left out of its fields. -/
theorem ConnectionFactory.fields_eq_iff {f g : ConnectionFactory} :
    f.fields = g.fields ↔ f.sameSettings g = true := by
  have htexts : f.uris.map Value.text = g.uris.map Value.text ↔ f.uris = g.uris :=
    (List.map_injective_iff.2 fun a b h => by simpa using h).eq_iff
  rw [sameSettings, beq_iff_eq]
  obtain ⟨⟨_, _, _, _, _, _⟩, _, _, _, _, _, _, uris, _⟩ := f
  obtain ⟨⟨_, _, _, _, _, _⟩, _, _, _, _, _, _, uris', _⟩ := g
  simp [fields] at htexts ⊢
  tauto

theorem Destination.fields_injective : Function.Injective Destination.fields := by
  intro d e h
  have hoptional : ∀ {a b : Option String}, Value.optional a = Value.optional b → a = b := by
    intro a b h
    cases a <;> cases b <;> simp_all [Value.optional]
  obtain ⟨_, _, _, _, _, _, _⟩ := d
  obtain ⟨_, _, _, _, _, _, _⟩ := e
  simp only [fields, List.cons.injEq, Prod.mk.injEq, true_and, and_true, Value.scalar.injEq, Scalar.text.injEq,
    Scalar.bool.injEq] at h
  obtain ⟨rfl, rfl, rfl, rfl, hexchange, hkey, hqueue⟩ := h
  rw [hoptional hexchange, hoptional hkey, hoptional hqueue]

/-- The fields of an object as they may be seen: the password of a factory is masked, and the kind is told. -/
def Resource.maskedFields (r : Resource) : List (String × Value) :=
  (match r with
    | factory f => f.fields.map fun e => if e.1 = "password" then ("password", .text passwordMask) else e
    | destination d => d.fields) ++ [("kind", .text r.kind.text)]

theorem Resource.summary_eq_maskedFields (r : Resource) : r.summary = r.maskedFields := by
  cases r with
  | factory f => simp [summary, maskedFields, ConnectionFactory.summary, ConnectionFactory.fields]
  | destination d => rfl

theorem Resource.nodup_summary (r : Resource) : (r.summary.map Prod.fst).Nodup := by
  cases r with
  | factory f => simp [summary, ConnectionFactory.summary]
  | destination d => simp [summary, Destination.summary]

namespace Json

theorem faithful_optional (s : Option String) : Faithful (.optional s) := by
  cases s with
  | none => exact .null
  | some s => exact .text s

theorem faithful_summary (r : Resource) : ∀ f ∈ r.summary, Faithful f.2 := by
  have hkind : ∀ f ∈ [("kind", Value.text r.kind.text)], Faithful f.2 := by
    simpa using Faithful.text r.kind.text
  refine List.forall_mem_append.2 ⟨?_, hkind⟩
  cases r with
  | factory f =>
    have huris : Faithful (.list (f.uris.map .text)) := .list (List.forall_mem_map.2 fun uri _ => .text uri)
    simp only [ConnectionFactory.summary, List.forall_mem_cons, List.not_mem_nil, false_implies, implies_true, and_true]
    exact ⟨.text _, .text _, .text _, .text _, .int _, .int _, .int _, .int _, .bool _, .int _, .bool _, .bool _, huris⟩
  | destination d =>
    simp only [Destination.summary, List.forall_mem_cons, List.not_mem_nil, false_implies, implies_true, and_true]
    exact ⟨.text _, .bool _, .bool _, .bool _, faithful_optional _, faithful_optional _, faithful_optional _⟩

theorem faithful_ofNames {fields : List (String × Value)} (hnodup : (fields.map Prod.fst).Nodup)
    (h : ∀ f ∈ fields, Faithful f.2) : Faithful (.map (Table.ofNames fields)) := by
  refine .map (List.forall_mem_map.2 fun f _ => ⟨f.1, rfl⟩) ?_ (List.forall_mem_map.2 h)
  rw [Table.Distinct, Table.ofNames, List.map_map, List.pairwise_map]
  refine (List.pairwise_map.1 hnodup).imp fun hne => ?_
  simp [Scalar.sameKey, Scalar.key, hne]

end Json

namespace CommandLine

open Template

/-- The JSON that is shown of an object is read back as its fields, in some order. -/
theorem exists_read?_summaryJson (r : Resource) : ∃ fields : List (String × Value),
    Json.read? (summaryJson r) = some (.map (Table.ofNames fields)) ∧ fields.Perm r.maskedFields := by
  have hperm := List.mergeSort_perm r.summary fun a b => !decide (b.1 < a.1)
  refine ⟨r.summary.mergeSort fun a b => !decide (b.1 < a.1), ?_, by rwa [← r.summary_eq_maskedFields]⟩
  have hfaithful : Json.Faithful (.map (Table.ofNames (r.summary.mergeSort fun a b => !decide (b.1 < a.1)))) :=
    Json.faithful_ofNames ((hperm.map _).nodup_iff.2 r.nodup_summary) fun f hf =>
      Json.faithful_summary r f (hperm.mem_iff.1 hf)
  have hblanks : Json.AllBlank "\n".toList := by simp [Json.AllBlank]
  rw [← Json.read?_write (.indented 0) hfaithful hblanks, String.ofList_append, String.ofList_toList]
  rfl

/-! ## Outcomes -/

/-- The name stands for an object in the settings: each text in the resources can be expanded, there is a table under
the name, and with its texts expanded it is resolved to the object. -/
structure ResolvesTo (s : Settings) (vars : Variables) (name : String) (r : Resource) : Prop where
  texts : ∀ text, TextIn (.map (s.getSection resourcesKey)) text → ∃ out, expand s.root vars text = .ok out
  table : ∃ t t', (s.getSection resourcesKey).get? name = some (.map t) ∧ resolveEntries s.root vars t = .ok t' ∧
    (resolve .working (.other .null) (some name) (some t')).outcome = .ok r

theorem ResolvesTo.unique {s : Settings} {vars : Variables} {name : String} {r r' : Resource}
    (h : ResolvesTo s vars name r) (h' : ResolvesTo s vars name r') : r = r' := by
  obtain ⟨-, t, u, ht, hu, hr⟩ := h
  obtain ⟨-, t', u', ht', hu', hr'⟩ := h'
  cases ht.symm.trans ht'
  cases hu.symm.trans hu'
  exact Except.ok.inj (hr.symm.trans hr')

theorem exitCode_fail (o : Output) (markup : String) :
    (o.fail markup).exitCode = 1 ∧ (o.fail markup).stdout = o.stdout := by
  unfold Output.fail
  split <;> exact ⟨rfl, rfl⟩

theorem escaped_fail {o : Output} {markup : String} (ho : o.escaped = none)
    (h : ∃ text, Terminal.print markup = .ok text) : (o.fail markup).escaped = none := by
  obtain ⟨text, htext⟩ := h
  rw [Output.fail, htext]
  exact ho

/-- A run that ends without a result. -/
structure Fails (s : Settings) (o : Output) : Prop where
  exitCode : o.exitCode = 1
  stdout : o.stdout = ""
  /-- What has no text may end the run with an error of its own. -/
  escaped : s.root.isWritable = true → o.escaped = none

theorem fails_fail (s : Settings) {o : Output} {markup : String} (hout : o.stdout = "") (ho : o.escaped = none)
    (h : ∃ text, Terminal.print markup = .ok text) : Fails s (o.fail markup) where
  exitCode := (exitCode_fail o markup).1
  stdout := (exitCode_fail o markup).2.trans hout
  escaped _ := escaped_fail ho h

theorem fails_escape {s : Settings} {o : Output} {e : Escape} (hout : o.stdout = "") (h : ¬s.root.isWritable = true) :
    Fails s (o.escape e) where
  exitCode := rfl
  stdout := hout
  escaped hs := absurd hs h

theorem exists_print_invalid (text : String) :
    ∃ shown, Terminal.print ("[error]Invalid configuration:[/error] " ++ escaped text) = .ok shown :=
  Terminal.exists_print_tagged "Invalid configuration" (by decide) text

theorem exists_print_unknown (text : String) :
    ∃ shown, Terminal.print ("[error]Unknown resource:[/error] " ++ escaped text) = .ok shown :=
  Terminal.exists_print_tagged "Unknown resource" (by decide) text

theorem exists_print_notMapping (text : String) : ∃ shown, Terminal.print ("[error]Resource " ++ escaped text ++
    " is not a mapping of properties[/error]") = .ok shown := by
  have h := Terminal.exists_print_around "Resource " " is not a mapping of properties" (by decide) (by decide)
    (by decide) (by decide) text
  rwa [String.append_assoc] at h

/-- The codes of naming failures. -/
def namingCodes : List String :=
  ["NAMING_SOURCE_UNAVAILABLE", "NAMING_MISSING_PROPERTY", "NAMING_EMPTY_PROPERTY", "NAMING_INVALID_NUMBER",
    "NAMING_UNKNOWN_CLASS", "NAMING_TLS_UNAVAILABLE"]

theorem code_mem_namingCodes (e : NamingError) : e.report.code.getD "None" ∈ namingCodes := by
  cases e <;> simp [namingCodes, NamingError.report, Report.sourceUnavailable, Report.missingProperty,
    Report.missingPropertyCode, Report.emptyProperty, Report.invalidNumber, Report.unknownClass, Report.tlsUnavailable]

theorem exists_print_naming (e : NamingError) : ∃ shown, Terminal.print (namingMarkup e) = .ok shown := by
  have hplain : ∀ code ∈ namingCodes, code.toList.all Terminal.isPlain = true := by decide
  exact Terminal.exists_print_tagged (e.report.code.getD "None") (hplain _ (code_mem_namingCodes e)) e.report.message

/-- Where the values of a table have texts, its resolution ends in an object or a failure of naming. -/
theorem naming_of_error {t : Table} (ht : Value.haveWritable t = true) {name : String} {failure : Failure}
    (h : (resolve .working (.other .null) (some name) (some t)).outcome = .error failure) :
    ∃ e : NamingError, failure = .naming e := by
  rcases resolve_naming .working (.other .null) (some name) (some t) with
    ⟨r, hr⟩ | ⟨e, he, -⟩ | ⟨source, fault, hchoose, htextual, -⟩
  · rw [h] at hr
    cases hr
  · rw [h] at he
    exact ⟨e, Except.error.inj he⟩
  · refine absurd (fun key v hv => ?_) htextual
    cases t with
    | nil => cases hchoose
    | cons entry t =>
      cases hchoose
      exact Value.isWritable_of_find? ht hv

variable {s : Settings} {vars : Variables} {name : String} {resources t : Table} {r : Resource}

theorem resolvesTo_iff (h : s.resolveSection vars resourcesKey = .ok resources) : ResolvesTo s vars name r ↔
    ∃ t, Table.get? resources name = some (.map t) ∧
      (resolve .working (.other .null) (some name) (some t)).outcome = .ok r := by
  constructor
  · rintro ⟨-, t, t', ht, ht', hr⟩
    exact ⟨t', (find?_resolveEntries_eq_map_iff h).2 ⟨t, ht, ht'⟩, hr⟩
  · rintro ⟨t', ht', hr⟩
    obtain ⟨t, ht, hresolved⟩ := (find?_resolveEntries_eq_map_iff h).1 ht'
    exact ⟨(exists_resolveEntries_iff s.root vars _).1 ⟨resources, h⟩, t, t', ht, hresolved, hr⟩

theorem haveWritable_resolved (hs : s.root.isWritable = true) (h : s.resolveSection vars resourcesKey = .ok resources)
    (ht : Table.get? resources name = some (.map t)) : Value.haveWritable t = true :=
  Value.isWritable_of_find? (haveWritable_of_resolveEntries h (Tree.haveWritable_sectionAt _ hs)) ht

/-- The command shows the object that the name stands for, as JSON or as a table. If the name stands for none, it fails
in the same way in both forms. -/
theorem resolveResource_forms (setup : Log.Setup) (s : Settings) (vars : Variables) (name : String) :
    (∃ r stderr, ResolvesTo s vars name r ∧ ∀ json, resolveResource setup s vars name json =
      if json then { stdout := summaryJson r, stderr } else Output.write { stderr } (summaryTable name r).print) ∨
      (∀ r, ¬ResolvesTo s vars name r) ∧ ∃ o, Fails s o ∧ ∀ json, resolveResource setup s vars name json = o := by
  cases hsection : s.resolveSection vars resourcesKey with
  | error fault =>
    refine .inr ⟨fun r hr => ?_, Output.fail {} _, fails_fail s rfl rfl (exists_print_invalid fault.message), fun _ => ?_⟩
    · obtain ⟨resources, hok⟩ := (exists_resolveEntries_iff s.root vars _).2 hr.texts
      cases hsection.symm.trans hok
    · simp only [resolveResource, hsection]
  | ok resources =>
    simp only [resolvesTo_iff hsection, resolveResource, hsection]
    cases hfind : Table.get? resources name with
    | none => exact .inr ⟨by simp, Output.fail {} _, fails_fail s rfl rfl (exists_print_unknown _), fun _ => rfl⟩
    | some v =>
      cases v with
      | map t =>
        simp only [Option.some.injEq, Value.map.injEq, exists_eq_left']
        generalize setup.logAll resolutionLogger (resolve .working (.other .null) (some name) (some t)).events = stderr
        cases hout : (resolve .working (.other .null) (some name) (some t)).outcome with
        | ok r => exact .inl ⟨r, stderr, rfl, fun json => by cases json <;> simp [Output.write]⟩
        | error failure =>
          refine .inr ⟨by simp, ?_⟩
          cases failure with
          | naming e => exact ⟨Output.fail { stderr } _, fails_fail s rfl rfl (exists_print_naming e), fun _ => rfl⟩
          | _ =>
            refine ⟨Output.escape { stderr } _, fails_escape rfl fun hs => ?_, fun _ => rfl⟩
            obtain ⟨e, he⟩ := naming_of_error (haveWritable_resolved hs hsection hfind) hout
            cases he
      | _ => exact .inr ⟨by simp, Output.fail {} _, fails_fail s rfl rfl (exists_print_notMapping _), fun _ => rfl⟩

/-- The same of the JSON form alone. -/
theorem resolveResource_cases (setup : Log.Setup) (s : Settings) (vars : Variables) (name : String) :
    (∃ r stderr, ResolvesTo s vars name r ∧
      resolveResource setup s vars name true = { stdout := summaryJson r, stderr }) ∨
      (∀ r, ¬ResolvesTo s vars name r) ∧ Fails s (resolveResource setup s vars name true) := by
  rcases resolveResource_forms setup s vars name with ⟨r, stderr, hr, hshown⟩ | ⟨hnone, o, ho, hfailed⟩
  · exact .inl ⟨r, stderr, hr, hshown true⟩
  · exact .inr ⟨hnone, hfailed true ▸ ho⟩

/-! ## Runs -/

variable {files : Files} {words profiles : List String} {file : String} {plan : Log.Plan} {setup : Log.Setup}

theorem run_resolve {json : Bool} (hwords : Request.read files words = .ok (.resolve file name profiles json))
    (hload : Settings.load files file profiles = .ok s)
    (hlog : ({} : Log.Setup).configure s vars = (.ok plan, setup)) :
    run files vars words = resolveResource setup s vars name json := by
  simp only [run, hwords, Request.run, withSettings, hload, hlog]

/-- The words ask for the resource of a name as JSON, and the settings have a text and a logging section in order. Then
the program ends with success exactly if the name stands for an object, and its output is read back as the fields of
the object. Otherwise it ends with failure and without output. No error is left over, neither in the command nor in
the log of the resolution. -/
theorem run_resolve_json (hwords : Request.read files words = .ok (.resolve file name profiles true))
    (hload : Settings.load files file profiles = .ok s) (hroot : s.root.isWritable = true)
    (hlog : ({} : Log.Setup).configure s vars = (.ok plan, setup)) :
    let out := run files vars words
    (out.exitCode = 0 ↔ ∃ r, ResolvesTo s vars name r) ∧
      (∀ r, ResolvesTo s vars name r → ∃ fields : List (String × Value),
        Json.read? out.stdout = some (.map (Table.ofNames fields)) ∧ fields.Perm r.maskedFields) ∧
      ((∀ r, ¬ResolvesTo s vars name r) → out.exitCode = 1 ∧ out.stdout = "") ∧
      out.escaped = none ∧
      ∀ t : Table, ∀ e ∈ (resolve .working (.other .null) (some name) (some t)).events,
        ∃ text, e.text setup.format resolutionLogger.text = .ok text := by
  intro out
  have hevents : ∀ t : Table, ∀ e ∈ (resolve .working (.other .null) (some name) (some t)).events,
      ∃ text, e.text setup.format resolutionLogger.text = .ok text :=
    fun t e he => exists_text_of_resolve he _ _
  have hout : out = resolveResource setup s vars name true := run_resolve hwords hload hlog
  rcases resolveResource_cases setup s vars name with ⟨r, stderr, hr, heq⟩ | ⟨hnone, hfails⟩
  · rw [heq] at hout
    refine ⟨?_, ?_, ?_, ?_, hevents⟩
    · rw [hout]
      exact iff_of_true rfl ⟨r, hr⟩
    · intro r' hr'
      rw [hout, hr'.unique hr]
      exact exists_read?_summaryJson r
    · exact fun hnone => absurd hr (hnone r)
    · rw [hout]
  · rw [← hout] at hfails
    refine ⟨?_, ?_, ?_, hfails.escaped hroot, hevents⟩
    · rw [hfails.exitCode]
      exact iff_of_false (by decide) fun ⟨r, hr⟩ => hnone r hr
    · exact fun r hr => absurd hr (hnone r)
    · exact fun _ => ⟨hfails.exitCode, hfails.stdout⟩

/-- A queue whose name is the default of a placeholder, and a name under which there is nothing. -/
theorem run_resolve_json_default :
    let text := "[rmqjms.naming.resources.q]\nclassName='javax.jms.Queue'\ndestinationName='$\x7bn:Straße\x7d'"
    let out (name : String) := run [("c.toml", some text)] [] ["resolve", "c.toml", name, "--json"]
    (out "q").exitCode = 0 ∧ (out "q").escaped = none ∧
      (∃ fields : List (String × Value), Json.read? (out "q").stdout = some (.map (Table.ofNames fields)) ∧
        fields.Perm [("destination_name", .text "Straße"), ("is_queue", .bool true), ("is_temporary", .bool false),
          ("amqp", .bool false), ("amqp_exchange_name", .null), ("amqp_routing_key", .null),
          ("amqp_queue_name", .null), ("kind", .text "queue")]) ∧
      (out "x").exitCode = 1 ∧ (out "x").stdout = "" := by
  intro text out
  let queue (destination : String) : Table :=
    [(.text "className", .text "javax.jms.Queue"), (.text "destinationName", .text destination)]
  let base : Table := [(.text "rmqjms", .map [(.text "naming", .map [(.text "resources",
    .map [(.text "q", .map (queue "$\x7bn:Straße\x7d"))])])])]
  let s : Settings := { root := .map (Tree.merge [] base), sources := ["c.toml"] }
  have hload : Settings.load [("c.toml", some text)] "c.toml" [] = .ok s := load_single (by decide +kernel)
  have hsection : s.resolveSection [] resourcesKey = .ok [(.text "q", .map (queue "Straße"))] :=
    eq_ok_of_toOption (by decide +kernel)
  have hq : ResolvesTo s [] "q" (.destination { name := "Straße" }) :=
    (resolvesTo_iff hsection).2 ⟨queue "Straße", by decide, by decide⟩
  have hnone : Table.get? [(.text "q", .map (queue "Straße"))] "x" = none := rfl
  have hx : ∀ r, ¬ResolvesTo s [] "x" r := by
    intro r hr
    obtain ⟨t, ht, -⟩ := (resolvesTo_iff hsection).1 hr
    rw [hnone] at ht
    cases ht
  have hwords : ∀ name ∈ ["q", "x"], Request.read [("c.toml", some text)] ["resolve", "c.toml", name, "--json"] =
      .ok (.resolve "c.toml" name [] true) := by
    intro name hname
    refine read_resolve_json (checkFile_single text) (by simp [Arguments.isOption]) ?_
    revert name
    simp [Arguments.isOption]
  have hconf : (({} : Log.Setup).configure s []).1.isOk = true := by decide
  obtain ⟨plan, setup, hplan⟩ := exists_configure hconf
  obtain ⟨hcode, hfields, -, hescaped, -⟩ := run_resolve_json (hwords "q" (by simp)) hload (by decide) hplan
  obtain ⟨-, -, hfails, -, -⟩ := run_resolve_json (hwords "x" (by simp)) hload rfl hplan
  exact ⟨hcode.2 ⟨_, hq⟩, hescaped, hfields _ hq, hfails hx⟩

end CommandLine

end JmsNaming
