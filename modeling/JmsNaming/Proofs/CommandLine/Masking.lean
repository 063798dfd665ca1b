import JmsNaming.Proofs.CommandLine.SingleFile
import JmsNaming.Proofs.Json.Text
import JmsNaming.Proofs.Naming.ConnectionFactory
import JmsNaming.Proofs.Uri.Password
import JmsNaming.Proofs.Value.Decidable

/-
What the program shows of passwords: of two resource tables that differ only in passwords, resolving
shows the same exactly if they list the same nodes. The mask covers the password of the factory,
wherever it comes from; the nodes are shown as they are written, with the passwords in them.
-/
namespace JmsNaming

/-! ## Tables that differ in passwords -/

namespace Source

variable {s t : Source}

/-- The nodes that `uris` lists, readable or not. -/
def listed (s : Source) : List String :=
  ((s.property? "uris").map splitUris).getD []

/-- All URIs of the source can be read. -/
structure AcceptsUris (s : Source) : Prop where
  uri : ∀ u, s.property? "uri" = some u → (Endpoint.read u.toList).isOk = true
  uris : ∀ u ∈ s.listed, (Endpoint.read u.toList).isOk = true

/-- The sources agree in all entries but those that hold passwords, and their URIs agree but for the
passwords. -/
structure SameButPasswords (s t : Source) : Prop where
  entries : ∀ name, name ∉ ["password", "uri", "uris"] → s.entry? name = t.entry? name
  uri : Option.Rel (fun u v => Uri.SameButPassword u.toList v.toList) (s.property? "uri") (t.property? "uri")
  uris : List.Forall₂ (fun u v => Uri.SameButPassword u.toList v.toList) s.listed t.listed

theorem nodes_eq_listed (h : s.AcceptsUris) : s.nodes = s.listed := by
  have hall := h.uris
  unfold listed at hall ⊢
  unfold nodes
  cases hu : s.property? "uris" with
  | none => rfl
  | some text =>
    rw [hu] at hall
    exact if_pos (List.all_eq_true.2 hall)

theorem read_getD_sameButPassword {u v : List Char} {d d' : Endpoint} (h : Uri.SameButPassword u v)
    (hu : (Endpoint.read u).isOk = true) (hv : (Endpoint.read v).isOk = true) :
    { (Endpoint.read u).toOption.getD d with password := "" } =
      { (Endpoint.read v).toOption.getD d' with password := "" } := by
  cases he : Endpoint.read u with
  | error fault =>
    rw [he] at hu
    cases hu
  | ok e =>
    cases he' : Endpoint.read v with
    | error fault =>
      rw [he'] at hv
      cases hv
    | ok e' => exact Endpoint.read_of_sameButPassword h he he'

theorem uriEndpoint_sameButPassword (h : s.SameButPasswords t) (hs : s.AcceptsUris) (ht : t.AcceptsUris) :
    { s.uriEndpoint with password := "" } = { t.uriEndpoint with password := "" } := by
  have huri := h.uri
  have hsu := hs.uri
  have htu := ht.uri
  unfold uriEndpoint
  generalize s.property? "uri" = u at huri hsu ⊢
  generalize t.property? "uri" = v at huri htu ⊢
  cases huri with
  | none => rfl
  | some hrel => exact read_getD_sameButPassword hrel (hsu _ rfl) (htu _ rfl)

/-- The endpoints of such sources agree but for the password. -/
theorem endpoint_sameButPassword (h : s.SameButPasswords t) (hs : s.AcceptsUris) (ht : t.AcceptsUris) :
    { s.endpoint with password := "" } = { t.endpoint with password := "" } := by
  have huris := h.uris
  have hsu := hs.uris
  have htu := ht.uris
  unfold endpoint
  rw [nodes_eq_listed hs, nodes_eq_listed ht]
  generalize s.listed = us at huris hsu ⊢
  generalize t.listed = vs at huris htu ⊢
  cases huris with
  | nil => exact uriEndpoint_sameButPassword h hs ht
  | cons hrel hrest =>
    exact read_getD_sameButPassword hrel (hsu _ List.mem_cons_self) (htu _ List.mem_cons_self)

/-- The settings of such sources agree but for the password and the nodes. -/
theorem settings_sameButPasswords (h : s.SameButPasswords t) (hs : s.AcceptsUris) (ht : t.AcceptsUris) :
    { s.settings with password := "", uris := [] } = { t.settings with password := "", uris := [] } := by
  have hprop : ∀ name, name ∉ ["password", "uri", "uris"] → s.property? name = t.property? name :=
    fun name hn => property_congr (h.entries name hn)
  have hend := endpoint_sameButPassword h hs ht
  simp only [Endpoint.mk.injEq, true_and] at hend
  obtain ⟨hssl, hhost, hport, huser, hvhost⟩ := hend
  unfold settings flag number
  simp (disch := decide) only [hprop, hssl, hhost, hport, huser, hvhost]

end Source

namespace CommandLine

/-! ## Shown fields -/

/-- A factory without its password and its nodes. -/
def bare (f : ConnectionFactory) : ConnectionFactory :=
  { f with password := "", uris := [] }

/-- Fields with other nodes in them. -/
def withNodes (us : List String) (fields : List (String × Value)) : List (String × Value) :=
  fields.map fun e => if e.1 = "uris" then ("uris", .list (us.map .text)) else e

/-- The nodes are the only field that is not the same for every factory with the same bare one. -/
theorem summary_factory (f : ConnectionFactory) :
    (Resource.factory f).summary = withNodes f.uris (Resource.factory (bare f)).summary := by
  simp [Resource.summary, ConnectionFactory.summary, withNodes, bare, Resource.kind]

/-- The fields of a factory without its nodes as the entries of an object, by name. -/
def bareEntries (f : ConnectionFactory) : List (Scalar × Value) :=
  ((Resource.factory (bare f)).summary.mergeSort fun a b => !decide (b.1 < a.1)).map fun e => (.text e.1, e.2)

theorem summaryJson_factory (f : ConnectionFactory) : summaryJson (.factory f) =
    String.ofList (Json.write (.indented 0) (.map (Json.withTexts (.text "uris") f.uris (bareEntries f)))) ++ "\n" := by
  have hname : ∀ e : String × Value,
      (if e.1 = "uris" then ("uris", Value.list (f.uris.map .text)) else e).1 = e.1 := by
    intro e
    split
    · rename_i he
      exact he.symm
    · rfl
  -- sorting looks at the names alone, so that the nodes can be put in after it
  have hsort : (withNodes f.uris (Resource.factory (bare f)).summary).mergeSort (fun a b => !decide (b.1 < a.1)) =
      withNodes f.uris ((Resource.factory (bare f)).summary.mergeSort fun a b => !decide (b.1 < a.1)) := by
    refine (List.map_mergeSort fun a _ b _ => ?_).symm
    rw [hname, hname]
  have hentries : (withNodes f.uris ((Resource.factory (bare f)).summary.mergeSort fun a b => !decide (b.1 < a.1))).map
      (fun e => (Scalar.text e.1, e.2)) = Json.withTexts (.text "uris") f.uris (bareEntries f) := by
    unfold withNodes Json.withTexts bareEntries
    rw [List.map_map, List.map_map]
    refine List.map_congr_left fun e _ => ?_
    simp only [Function.comp_apply, Scalar.text.injEq]
    split <;> rfl
  rw [summaryJson, summary_factory, hsort, hentries]

theorem uris_mem_bareEntries (f : ConnectionFactory) : Scalar.text "uris" ∈ (bareEntries f).map (·.1) := by
  have hmem : ("uris", Value.list []) ∈ (Resource.factory (bare f)).summary := by
    simp [Resource.summary, ConnectionFactory.summary, bare]
  unfold bareEntries
  rw [List.map_map]
  exact List.mem_map.2 ⟨_, List.mem_mergeSort.2 hmem, rfl⟩

/-- The JSON of two factories that have the same bare one is the same only if they have the same nodes. -/
theorem uris_eq_of_summaryJson_eq {f g : ConnectionFactory} (hbare : bare f = bare g)
    (h : summaryJson (.factory f) = summaryJson (.factory g)) : f.uris = g.uris := by
  have hentries : bareEntries f = bareEntries g := by
    unfold bareEntries
    rw [hbare]
  have hl := congrArg String.toList h
  rw [summaryJson_factory, summaryJson_factory, hentries] at hl
  simp only [String.toList_append, String.toList_ofList, List.append_cancel_right_eq] at hl
  exact Json.write_withTexts_inj (uris_mem_bareEntries g) hl

/-! ## Runs -/

/-- With some files and variables, the settings that a request loads have a table of properties under a
name. -/
def Finds (files : Files) (vars : Variables) (file : String) (profiles : List String) (name : String)
    (t : Table) : Prop :=
  ∃ s plan setup resources, Settings.load files file profiles = .ok s ∧
    ({} : Log.Setup).configure s vars = (.ok plan, setup) ∧ s.resolveSection vars resourcesKey = .ok resources ∧
    Table.get? resources name = some (.map t)

/-- What is shown of a resolved object. -/
def shown (name : String) (json : Bool) (r : Resource) : String :=
  if json then summaryJson r else (summaryTable name r).print.toOption.getD ""

variable {files files' : Files} {vars vars' : Variables} {file file' name : String} {profiles profiles' : List String}
  {t t' : Table}

theorem run_resolve_stdout (h : Finds files vars file profiles name t) {r : Resource}
    (hr : (resolve .working (.other .null) (some name) (some t)).outcome = .ok r) (json : Bool) :
    ((Request.resolve file name profiles json).run files vars).stdout = shown name json r := by
  obtain ⟨s, plan, setup, resources, hload, hconf, hsec, hget⟩ := h
  simp only [Request.run, withSettings, hload, hconf, resolveResource, hsec, hget, hr, shown]
  cases json with
  | true => simp [Output.write]
  | false =>
    cases (summaryTable name r).print with
    | ok text => simp [Output.write, Except.toOption]
    | error fault => simp [Output.write, Output.escape, Except.toOption]

/-- A table that resolves to something of the class of a connection factory resolves to its settings. -/
theorem resolve_eq_settings (hc : (Source.environment t).IsConnectionFactory) {r : Resource}
    (hr : (resolve .working (.other .null) (some name) (some t)).outcome = .ok r) :
    r = .factory (Source.environment t).settings := by
  cases t with
  | nil => simp [resolve, Source.choose] at hr
  | cons e es =>
    have hchoose : Source.choose (.other .null) (some (e :: es)) = .ok (.environment (e :: es)) := rfl
    simp only [resolve, hchoose, Source.resolveSource_connectionFactory hc] at hr
    cases hb : (buildConnectionFactory .working (.environment (e :: es)) (some name)).outcome with
    | error failure =>
      rw [hb] at hr
      cases hr
    | ok f =>
      rw [hb] at hr
      rw [← Source.eq_settings_of_build hb]
      exact (Except.ok.inj hr).symm

/-! ## A resource in a file -/

section File

/-- The table under a name in the settings that a single file holds. -/
def tableIn? (text name : String) : Option Value :=
  (loadTree ["c.toml"] (some text)).toOption.bind fun base =>
    let s : Settings := { root := .map (Tree.merge [] base), sources := ["c.toml"] }
    if (({} : Log.Setup).configure s []).1.isOk then
      (s.resolveSection [] resourcesKey).toOption.bind fun resources => Table.get? resources name
    else none

theorem finds_of_tableIn? {text : String} (h : tableIn? text name = some (.map t)) :
    Finds [("c.toml", some text)] [] "c.toml" [] name t := by
  obtain ⟨base, hload, h⟩ := Option.bind_eq_some_iff.1 h
  dsimp only at h
  split at h
  · rename_i hconf
    obtain ⟨resources, hsec, hget⟩ := Option.bind_eq_some_iff.1 h
    obtain ⟨plan, setup, hplan⟩ := exists_configure hconf
    exact ⟨_, plan, setup, resources, load_single hload, hplan, eq_ok_of_toOption hsec, hget⟩
  · cases h

variable {password password' uri uri' uris uris' : String}

/-- A file with a resource that has a password in each place for one. -/
def resourceText (password uri uris : String) : String :=
  "[rmqjms.naming.resources.cf]\nclassName='javax.jms.ConnectionFactory'\npassword='" ++ password ++
    "'\nuri='" ++ uri ++ "'\nuris='" ++ uris ++ "'"

/-- The table of such a resource. -/
def resourceTable (password uri uris : String) : Table :=
  [(.text "className", .text ClassName.connectionFactory), (.text "password", .text password),
    (.text "uri", .text uri), (.text "uris", .text uris)]

theorem property_resourceTable :
    (Source.environment (resourceTable password uri uris)).property? "uri" = some uri ∧
      (Source.environment (resourceTable password uri uris)).property? "uris" = some uris := by
  simp [Source.property?, Source.entry?, Table.get?, Table.find?, resourceTable, Scalar.sameKey, Scalar.key,
    Value.isNull, Value.plain, Scalar.plain]

theorem isConnectionFactory_resourceTable :
    (Source.environment (resourceTable password uri uris)).IsConnectionFactory := by
  refine ⟨ClassName.connectionFactory, by decide, ?_⟩
  simp [Source.className, Source.content, Source.entry?, Table.get?, Table.find?, resourceTable, Scalar.sameKey,
    Scalar.key, classNameKey, Value.isNull, Value.toText, Value.isWritable, Scalar.isWritable, Value.plain,
    Scalar.plain, Except.map]

theorem sameButPasswords_resourceTable (huri : Uri.SameButPassword uri.toList uri'.toList)
    (huris : List.Forall₂ (fun u v => Uri.SameButPassword u.toList v.toList) (splitUris uris) (splitUris uris')) :
    (Source.environment (resourceTable password uri uris)).SameButPasswords
      (.environment (resourceTable password' uri' uris')) := by
  constructor
  · intro name hn
    simp only [List.mem_cons, List.not_mem_nil, or_false, not_or] at hn
    obtain ⟨hp, hu, hus⟩ := hn
    simp [Source.entry?, Table.get?, Table.find?, resourceTable, List.find?_cons, Scalar.sameKey, Scalar.key, Ne.symm hp,
      Ne.symm hu, Ne.symm hus]
  · rw [property_resourceTable.1, property_resourceTable.1]
    exact .some huri
  · unfold Source.listed
    rw [property_resourceTable.2, property_resourceTable.2]
    exact huris

theorem acceptsUris_resourceTable (huri : (Endpoint.read uri.toList).isOk = true)
    (huris : ∀ u ∈ splitUris uris, (Endpoint.read u.toList).isOk = true) :
    (Source.environment (resourceTable password uri uris)).AcceptsUris := by
  constructor
  · intro u hu
    rw [property_resourceTable.1] at hu
    rwa [← Option.some.inj hu]
  · unfold Source.listed
    rw [property_resourceTable.2]
    exact huris

end File

/-! ## Two tables -/

/-- Two tables of a class of connection factories that differ only in passwords, and whose URIs can all be
read, are shown in the same way exactly if they list the same nodes: what is masked is never shown, and the
nodes are shown with the passwords in them. -/
theorem resolve_stdout_eq_iff (hf : Finds files vars file profiles name t)
    (hf' : Finds files' vars' file' profiles' name t') (hc : (Source.environment t).IsConnectionFactory)
    (hsame : (Source.environment t).SameButPasswords (.environment t')) (hu : (Source.environment t).AcceptsUris)
    (hu' : (Source.environment t').AcceptsUris) {r r' : Resource}
    (hr : (resolve .working (.other .null) (some name) (some t)).outcome = .ok r)
    (hr' : (resolve .working (.other .null) (some name) (some t')).outcome = .ok r') :
    (∀ json, ((Request.resolve file name profiles json).run files vars).stdout =
      ((Request.resolve file' name profiles' json).run files' vars').stdout) ↔
      (Source.environment t).listed = (Source.environment t').listed := by
  have hc' : (Source.environment t').IsConnectionFactory := by
    obtain ⟨c, hmem, hclass⟩ := hc
    exact ⟨c, hmem, (Source.content_congr (hsame.entries classNameKey (by decide))).symm.trans hclass⟩
  have hbare : bare (Source.environment t).settings = bare (Source.environment t').settings :=
    Source.settings_sameButPasswords hsame hu hu'
  rw [← Source.nodes_eq_listed hu, ← Source.nodes_eq_listed hu']
  simp only [run_resolve_stdout hf hr, run_resolve_stdout hf' hr', resolve_eq_settings hc hr,
    resolve_eq_settings hc' hr']
  constructor
  · -- the JSON alone tells the nodes
    intro h
    exact uris_eq_of_summaryJson_eq hbare (h true)
  · intro h json
    have hsummary : (Resource.factory (Source.environment t).settings).summary =
        (Resource.factory (Source.environment t').settings).summary := by
      rw [summary_factory, summary_factory, hbare]
      exact congrArg (withNodes · _) h
    unfold shown summaryJson summaryTable
    rw [hsummary]

/-- Resources that differ in their passwords: the one of the factory, the one in its URI and the one of its node. -/
def openResources : List (String × String × String) :=
  [("a", "amqp://app:a@b", "amqp://app:open@b"), ("", "amqp://app:@b", "amqp://app:open@b"),
    ("a", "amqp://app:a@b", "amqp://app:******@b")]

/-- Each of them is found in its file and gives a factory. -/
theorem finds_openResources : ∀ r ∈ openResources,
    Finds [("c.toml", some (resourceText r.1 r.2.1 r.2.2))] [] "c.toml" [] "cf" (resourceTable r.1 r.2.1 r.2.2) ∧
      (resolve .working (.other .null) (some "cf") (some (resourceTable r.1 r.2.1 r.2.2))).outcome =
        .ok (.factory { host := "b", username := "app", password := r.1, uris := [r.2.2] }) := by
  simp only [openResources, List.forall_mem_cons, List.not_mem_nil, false_implies, implies_true, and_true]
  refine ⟨⟨finds_of_tableIn? ?_, ?_⟩, ⟨finds_of_tableIn? ?_, ?_⟩, finds_of_tableIn? ?_, ?_⟩ <;> decide +kernel

/-- Other passwords at both places that are masked, and the same node. -/
theorem resolve_stdout_eq_masked :
    let out (password uri : String) (json : Bool) := ((Request.resolve "c.toml" "cf" [] json).run
      [("c.toml", some (resourceText password uri "amqp://app:open@b"))] []).stdout
    out "a" "amqp://app:a@b" true = out "" "amqp://app:@b" true ∧
      out "a" "amqp://app:a@b" false = out "" "amqp://app:@b" false := by
  intro out
  obtain ⟨hf, hr⟩ := finds_openResources ("a", "amqp://app:a@b", "amqp://app:open@b") (by simp [openResources])
  obtain ⟨hf', hr'⟩ := finds_openResources ("", "amqp://app:@b", "amqp://app:open@b") (by simp [openResources])
  have huri : Uri.SameButPassword "amqp://app:a@b".toList "amqp://app:@b".toList :=
    Or.inr ⟨"amqp".toList, "app".toList, "a".toList, [], "b".toList, [], by decide, by decide, by decide, by decide⟩
  have hsplit : splitUris "amqp://app:open@b" = ["amqp://app:open@b"] := by decide
  have hread : ∀ u ∈ splitUris "amqp://app:open@b", (Endpoint.read u.toList).isOk = true := by
    rw [hsplit]
    decide
  have hsame : (Source.environment (resourceTable "a" "amqp://app:a@b" "amqp://app:open@b")).SameButPasswords
      (.environment (resourceTable "" "amqp://app:@b" "amqp://app:open@b")) := by
    refine sameButPasswords_resourceTable huri ?_
    rw [hsplit]
    exact .cons (Or.inl rfl) .nil
  have hlisted : (Source.environment (resourceTable "a" "amqp://app:a@b" "amqp://app:open@b")).listed =
      (Source.environment (resourceTable "" "amqp://app:@b" "amqp://app:open@b")).listed := by
    unfold Source.listed
    rw [property_resourceTable.2, property_resourceTable.2]
  have hout := (resolve_stdout_eq_iff hf hf' isConnectionFactory_resourceTable hsame
    (acceptsUris_resourceTable (by decide) hread) (acceptsUris_resourceTable (by decide) hread) hr hr').2 hlisted
  exact ⟨hout true, hout false⟩

/-- The password of a node is shown. -/
theorem stdout_ne_of_listed_password :
    let files (uris : String) : Files := [("c.toml", some (resourceText "a" "amqp://app:a@b" uris))]
    let table (uris : String) := resourceTable "a" "amqp://app:a@b" uris
    let source (uris : String) := Source.environment (table uris)
    let out (uris : String) := ((Request.resolve "c.toml" "cf" [] true).run (files uris) []).stdout
    (∀ uris ∈ ["amqp://app:open@b", "amqp://app:******@b"],
      Finds (files uris) [] "c.toml" [] "cf" (table uris) ∧ (source uris).IsConnectionFactory ∧
        (source uris).AcceptsUris ∧
        (resolve .working (.other .null) (some "cf") (some (table uris))).outcome = .ok (.factory
          { host := "b", username := "app", password := "a", uris := [uris] })) ∧
      (source "amqp://app:open@b").SameButPasswords (source "amqp://app:******@b") ∧
      out "amqp://app:open@b" ≠ out "amqp://app:******@b" := by
  intro files table source out
  obtain ⟨hf, hr⟩ := finds_openResources ("a", "amqp://app:a@b", "amqp://app:open@b") (by simp [openResources])
  obtain ⟨hf', hr'⟩ := finds_openResources ("a", "amqp://app:a@b", "amqp://app:******@b") (by simp [openResources])
  have hsplit : splitUris "amqp://app:open@b" = ["amqp://app:open@b"] := by decide
  have hsplit' : splitUris "amqp://app:******@b" = ["amqp://app:******@b"] := by decide
  have hu : (source "amqp://app:open@b").AcceptsUris :=
    acceptsUris_resourceTable (by decide) (by rw [hsplit]; decide)
  have hu' : (source "amqp://app:******@b").AcceptsUris :=
    acceptsUris_resourceTable (by decide) (by rw [hsplit']; decide)
  have hnode : Uri.SameButPassword "amqp://app:open@b".toList "amqp://app:******@b".toList :=
    Or.inr ⟨"amqp".toList, "app".toList, "open".toList, "******".toList, "b".toList, [], by decide, by decide,
      by decide, by decide⟩
  refine ⟨?_, ?_, fun h => ?_⟩
  · rw [List.forall_mem_cons, List.forall_mem_singleton]
    exact ⟨⟨hf, isConnectionFactory_resourceTable, hu, hr⟩, ⟨hf', isConnectionFactory_resourceTable, hu', hr'⟩⟩
  · refine sameButPasswords_resourceTable (Or.inl rfl) ?_
    rw [hsplit, hsplit']
    exact .cons hnode .nil
  · simp only [out, files, run_resolve_stdout hf hr, run_resolve_stdout hf' hr', shown, if_true] at h
    refine absurd (uris_eq_of_summaryJson_eq ?_ h) ?_
    · rfl
    · decide

end CommandLine

end JmsNaming
