import JmsNaming.Proofs.CommandLine.Resolution
import JmsNaming.Proofs.Terminal.Table

/-
The two forms in which a resource is shown. The table has the name of the resource as its title, which is read as markup:
a name that is sound as markup is shown in both forms or in none, and any other only as JSON. The fields are escaped and
do no harm.
-/
namespace JmsNaming.CommandLine

variable {s : Settings} {vars : Variables} {name : String}

/-! ## The table -/

@[simp] theorem toList_escaped (text : String) : (escaped text).toList = Terminal.escape text.toList :=
  String.toList_ofList

theorem not_mem_of_mem_summary (r : Resource) : ∀ f ∈ r.summary, '[' ∉ f.1.toList := by
  have hnames : ∀ name ∈ r.summary.map Prod.fst, '[' ∉ name.toList := by
    cases r with
    | factory f => simp [Resource.summary, ConnectionFactory.summary]
    | destination d => simp [Resource.summary, Destination.summary]
  exact fun f hf => hnames f.1 (List.mem_map_of_mem hf)

/-- All fields can be shown, whatever their values are. -/
theorem exists_rows_summaryTable (name : String) (r : Resource) :
    ∃ rows, (summaryTable name r).rows.mapM Terminal.Table.showRow = .ok rows := by
  rw [exists_mapM_eq_ok_iff]
  refine List.forall_mem_map.2 fun f hf => ?_
  obtain ⟨label, hlabel⟩ := Terminal.exists_showMarkup_of_not_mem (not_mem_of_mem_summary r f hf)
  obtain ⟨text, htext⟩ := Terminal.exists_showMarkup_escape f.2.plain.toList
  exact ⟨(label, text), Terminal.Table.showRow_eq_ok_iff.2 ⟨hlabel, by rw [toList_escaped, htext]⟩⟩

/-- The name of the resource decides whether its table can be printed. -/
theorem exists_print_summaryTable (name : String) (r : Resource) : ∃ draw : List Char → String,
    (summaryTable name r).print = (Terminal.showMarkup name.toList).map draw := by
  obtain ⟨rows, hrows⟩ := exists_rows_summaryTable name r
  exact ⟨_, Terminal.Table.print_of_rows rfl hrows⟩

/-! ## Both forms -/

/-- The run ends well, and no error is left over. -/
def Output.Succeeds (o : Output) : Prop :=
  o.exitCode = 0 ∧ o.escaped = none

theorem Fails.not_succeeds {o : Output} (h : Fails s o) : ¬o.Succeeds := fun hsucceeds => by
  cases h.exitCode.symm.trans hsucceeds.1

/-- The forms are alike where no object is shown. An object is shown as JSON, and as a table if its name can be shown. -/
theorem resolveResource_succeeds (setup : Log.Setup) (s : Settings) (vars : Variables) (name : String) :
    let json := resolveResource setup s vars name true
    let table := resolveResource setup s vars name false
    (json.Succeeds ↔ ∃ r, ResolvesTo s vars name r) ∧ (¬json.Succeeds → table = json) ∧
      (json.Succeeds → ∀ text, Terminal.showMarkup name.toList = .ok text → ∃ stdout, table = { json with stdout }) ∧
      (json.Succeeds → ∀ fault, Terminal.showMarkup name.toList = .error fault →
        table = Output.escape { stderr := json.stderr } (.markup fault)) := by
  intro json table
  rcases resolveResource_forms setup s vars name with ⟨r, stderr, hr, hshown⟩ | ⟨hnone, o, ho, hfailed⟩
  · have hjson : json = { stdout := summaryJson r, stderr } := hshown true
    have htable : table = Output.write { stderr } (summaryTable name r).print := hshown false
    have hsucceeds : json.Succeeds := by
      rw [hjson]
      exact ⟨rfl, rfl⟩
    obtain ⟨draw, hdraw⟩ := exists_print_summaryTable name r
    rw [hdraw] at htable
    refine ⟨iff_of_true hsucceeds ⟨r, hr⟩, absurd hsucceeds, fun _ text htext => ?_, fun _ fault hfault => ?_⟩
    · rw [htext] at htable
      exact ⟨draw text, by rw [htable, hjson]; simp [Except.map, Output.write]⟩
    · rw [hfault] at htable
      rw [htable, hjson]
      rfl
  · have hjson : json = o := hfailed true
    have hfails : ¬json.Succeeds := hjson ▸ ho.not_succeeds
    exact ⟨iff_of_false hfails (not_exists.2 hnone), fun _ => (hfailed false).trans hjson.symm,
      fun h => absurd h hfails, fun h => absurd h hfails⟩

theorem resolveResource_table_succeeds_iff (setup : Log.Setup) (s : Settings) (vars : Variables) (name : String) :
    (resolveResource setup s vars name false).Succeeds ↔ (resolveResource setup s vars name true).Succeeds ∧
      ∃ text, Terminal.showMarkup name.toList = .ok text := by
  obtain ⟨-, hsame, hshown, hfault⟩ := resolveResource_succeeds setup s vars name
  by_cases hjson : (resolveResource setup s vars name true).Succeeds
  · cases hmarkup : Terminal.showMarkup name.toList with
    | ok text =>
      obtain ⟨stdout, htable⟩ := hshown hjson text hmarkup
      rw [htable]
      exact iff_of_true hjson ⟨hjson, text, rfl⟩
    | error fault =>
      rw [hfault hjson fault hmarkup]
      exact iff_of_false (fun h => by cases h.1) nofun
  · rw [hsame hjson]
    exact iff_of_false hjson fun h => hjson h.1

variable {files : Files} {words words' profiles : List String} {file : String} {plan : Log.Plan} {setup : Log.Setup}

/-- The words ask for the resource of a name, once as a table and once as JSON, of settings whose logging section is in
order. Then the runs succeed or fail together exactly if the name stands for no object or can be shown as markup, which
it can if it has no opening bracket. JSON is shown exactly if the name stands for an object; if it stands for none, the
runs are the same, and if only its table cannot be shown, that run ends with the fault of the markup. -/
theorem run_resolve_forms_iff (htable : Request.read files words = .ok (.resolve file name profiles false))
    (hjson : Request.read files words' = .ok (.resolve file name profiles true))
    (hload : Settings.load files file profiles = .ok s)
    (hlog : ({} : Log.Setup).configure s vars = (.ok plan, setup)) :
    let table := run files vars words
    let json := run files vars words'
    ((table.Succeeds ↔ json.Succeeds) ↔
        (∀ r, ¬ResolvesTo s vars name r) ∨ ∃ text, Terminal.showMarkup name.toList = .ok text) ∧
      ('[' ∉ name.toList → (table.Succeeds ↔ json.Succeeds)) ∧
      (json.Succeeds ↔ ∃ r, ResolvesTo s vars name r) ∧
      (¬json.Succeeds → table = json) ∧
      (json.Succeeds → ¬table.Succeeds → ∃ fault, Terminal.showMarkup name.toList = .error fault ∧
        table = Output.escape { stderr := json.stderr } (.markup fault)) := by
  intro table json
  obtain ⟨hresolves, hsame, -, hfault⟩ := resolveResource_succeeds setup s vars name
  have hiff := resolveResource_table_succeeds_iff setup s vars name
  rw [← run_resolve hjson hload hlog] at hresolves hsame hfault hiff
  rw [← run_resolve htable hload hlog] at hsame hfault hiff
  have hagree : (table.Succeeds ↔ json.Succeeds) ↔
      (∀ r, ¬ResolvesTo s vars name r) ∨ ∃ text, Terminal.showMarkup name.toList = .ok text := by
    rw [← not_exists, ← hresolves, hiff]
    tauto
  refine ⟨hagree, fun hname => hagree.2 (.inr (Terminal.exists_showMarkup_of_not_mem hname)), hresolves, hsame, ?_⟩
  intro hsucceeds hfails
  cases hmarkup : Terminal.showMarkup name.toList with
  | ok text => exact absurd (hiff.2 ⟨hsucceeds, text, hmarkup⟩) hfails
  | error fault => exact ⟨fault, rfl, hfault hsucceeds fault hmarkup⟩

/-- A file with a tree whose logging section is in order: there are words for both forms, and what the name stands for
can be computed. -/
theorem exists_single {text name : String} {base t : Table} {r : Resource} (resources : Table)
    (hname : Arguments.isOption name = false) (hbase : (loadTree ["c.toml"] (some text)).toOption = some base)
    (hconf : (({} : Log.Setup).configure { root := .map (Tree.merge [] base), sources := ["c.toml"] } []).1.isOk = true)
    (hsection : (Settings.resolveSection { root := .map (Tree.merge [] base), sources := ["c.toml"] } []
      resourcesKey).toOption = some resources)
    (ht : Table.get? resources name = some (.map t))
    (hr : (resolve .working (.other .null) (some name) (some t)).outcome.toOption = some r) :
    ∃ s plan setup, (∀ json, Request.read [("c.toml", some text)]
        ("resolve" :: "c.toml" :: name :: if json then ["--json"] else []) = .ok (.resolve "c.toml" name [] json)) ∧
      Settings.load [("c.toml", some text)] "c.toml" [] = .ok s ∧
      ({} : Log.Setup).configure s [] = (.ok plan, setup) ∧ ResolvesTo s [] name r := by
  obtain ⟨plan, setup, hplan⟩ := exists_configure hconf
  refine ⟨_, plan, setup, fun json => ?_, load_single hbase, hplan, ?_⟩
  · exact read_resolve json (checkFile_single text) (by simp [Arguments.isOption]) hname
  · exact (resolvesTo_iff (eq_ok_of_toOption hsection)).2 ⟨t, ht, eq_ok_of_toOption hr⟩

/-- A queue under a name that begins a style is shown in both forms. -/
theorem run_resolve_forms_styled :
    let text := "[rmqjms.naming.resources.'[b]q']\nclassName='javax.jms.Queue'\ndestinationName='orders'"
    let out (form : List String) := run [("c.toml", some text)] [] ("resolve" :: "c.toml" :: "[b]q" :: form)
    (out []).Succeeds ∧ (out ["--json"]).Succeeds := by
  intro text out
  let queue : Table := [(.text "className", .text "javax.jms.Queue"), (.text "destinationName", .text "orders")]
  have hbase : (loadTree ["c.toml"] (some text)).toOption = some [(.text "rmqjms",
      .map [(.text "naming", .map [(.text "resources", .map [(.text "[b]q", .map queue)])])])] := by decide +kernel
  have hresolved : (resolve .working (.other .null) (some "[b]q") (some queue)).outcome.toOption =
      some (.destination { name := "orders" }) := by decide +kernel
  obtain ⟨s, plan, setup, hwords, hload, hplan, hqueue⟩ :=
    exists_single [(.text "[b]q", .map queue)] (by simp [Arguments.isOption]) hbase (by decide +kernel)
      (by decide) (by decide) hresolved
  have hshown : Terminal.showMarkup "[b]q".toList = .ok "q".toList := by decide +kernel
  obtain ⟨hagree, -, hresolves, -⟩ := run_resolve_forms_iff (hwords false) (hwords true) hload hplan
  have hjson : (out ["--json"]).Succeeds := hresolves.2 ⟨_, hqueue⟩
  exact ⟨(hagree.2 (.inr ⟨_, hshown⟩)).2 hjson, hjson⟩

/-- A queue under a name that reads as a closing tag is shown as JSON only. -/
theorem run_resolve_forms_ne :
    let text := "[rmqjms.naming.resources.'[/x]']\nclassName='javax.jms.Queue'\ndestinationName='orders'"
    let out (form : List String) := run [("c.toml", some text)] [] ("resolve" :: "c.toml" :: "[/x]" :: form)
    (out ["--json"]).Succeeds ∧ ¬(out []).Succeeds := by
  intro text out
  let queue : Table := [(.text "className", .text "javax.jms.Queue"), (.text "destinationName", .text "orders")]
  have hbase : (loadTree ["c.toml"] (some text)).toOption = some [(.text "rmqjms",
      .map [(.text "naming", .map [(.text "resources", .map [(.text "[/x]", .map queue)])])])] := by decide +kernel
  have hresolved : (resolve .working (.other .null) (some "[/x]") (some queue)).outcome.toOption =
      some (.destination { name := "orders" }) := by decide
  obtain ⟨s, plan, setup, hwords, hload, hplan, hqueue⟩ :=
    exists_single [(.text "[/x]", .map queue)] (by simp [Arguments.isOption]) hbase (by decide)
      (by decide +kernel) (by decide +kernel) hresolved
  obtain ⟨fault, hfault⟩ : ∃ fault, Terminal.showMarkup "[/x]".toList = .error fault :=
    @Terminal.exists_showMarkup_error [] ['x'] [] rfl (by simp [Terminal.IsBracket])
  obtain ⟨hresolves, -, -, htable⟩ := resolveResource_succeeds setup s [] "[/x]"
  have hjson : (out ["--json"]).Succeeds := by
    rw [show out ["--json"] = _ from run_resolve (hwords true) hload hplan]
    exact hresolves.2 ⟨_, hqueue⟩
  refine ⟨hjson, fun hsucceeds => ?_⟩
  rw [show out [] = _ from run_resolve (hwords false) hload hplan, htable (hresolves.2 ⟨_, hqueue⟩) fault hfault]
    at hsucceeds
  cases hsucceeds.1

end JmsNaming.CommandLine
