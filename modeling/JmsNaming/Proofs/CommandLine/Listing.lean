import JmsNaming.Proofs.CommandLine.Forms
import JmsNaming.Proofs.CommandLine.Independence
import JmsNaming.Proofs.Settings.Binding
import JmsNaming.Proofs.Terminal.Print

/-
The list of the resources, beside what the resolution of a name finds. The list reads the settings through the record of
the naming section, which takes whatever stands at the place of the resources; the resolution reads a section, which is
empty where there is no map. Both see the same names where the list can be made at all.
-/
namespace JmsNaming.CommandLine

open Template

variable {s : Settings} {vars : Variables} {name : String}

/-! ## What is listed -/

/-- What stands at the place of the resources, if it is not null. -/
def storedResources (s : Settings) : Option Value :=
  Tree.valueAt? s.root resourcesPath

/-- The entry has a row in the list: its name, and the class that it shows. -/
def Listed (e : Scalar × Value) (row : List Char × List Char) : Prop :=
  ∃ name shown, e.1 = .text name ∧ shownClass e.2 = .ok shown ∧ Terminal.Table.RowShows (escaped name, escaped shown) row

/-- The list can be made: a map or nothing stands at the place of the resources, the names are texts, and what is given
as a class has a text. -/
structure IsListable (s : Settings) : Prop where
  table : ∀ v, storedResources s = some v → v.isEmpty = false → ∃ t, v = .map t
  names : ∀ e ∈ s.getSection resourcesKey, ∃ name, e.1 = .text name
  classes : ∀ e ∈ s.getSection resourcesKey, ∃ shown, shownClass e.2 = .ok shown

theorem getSection_eq_storedResources (s : Settings) : s.getSection resourcesKey =
    match storedResources s with
    | some (.map t) => t
    | _ => [] :=
  (getSection_resourcesKey s).trans (Tree.sectionAt_eq s.root resourcesPath)

/-- The record of the naming section holds what stands at the place of the resources, or null, or an empty map. -/
theorem bind_naming (s : Settings) : ∃ v, Schema.naming.bind s = .ok [("resources", v)] ∧
    (storedResources s = some v ∨ storedResources s = none ∧ v.isEmpty = true) := by
  have hpath : resourcesPath = Text.segments "rmqjms.naming" ++ ["resources"] := by decide
  have hstored : storedResources s = ((s.getSection "rmqjms.naming").get? "resources").filter (!·.isNull) := by
    rw [storedResources, hpath, Tree.valueAt?_concat]
    rfl
  simp only [Schema.bind_eq_ok_iff, hstored]
  cases hfind : (s.getSection "rmqjms.naming").get? "resources" with
  | none =>
    exact ⟨.map [], ⟨_, rfl, .cons ⟨rfl, .inr ⟨hfind, rfl⟩⟩ .nil⟩, .inr ⟨rfl, rfl⟩⟩
  | some v =>
    refine ⟨v, ⟨_, rfl, .cons ⟨rfl, .inl ⟨v, hfind, Schema.convert_any v⟩⟩ .nil⟩, ?_⟩
    cases hnull : v.isNull with
    | false => exact .inl (by simp [Option.filter, hnull])
    | true =>
      obtain rfl := Value.eq_null_of_isNull hnull
      exact .inr ⟨rfl, rfl⟩

/-! ## The list -/

theorem exists_print_loaded (source : String) :
    ∃ shown, Terminal.print ("[dim]Loaded " ++ escaped source ++ "[/dim]") = .ok shown := by
  have hopen : "[" ++ "dim" ++ "]" ++ "Loaded " = "[dim]Loaded " := by decide
  have hclose : "[/" ++ "dim" ++ "]" = "[/dim]" := by decide
  have h := Terminal.exists_print_ended Terminal.IsTagWord.dim "Loaded " (by decide) source
  rwa [hopen, hclose] at h

/-- Each source is told in a line of its own. -/
theorem exists_loaded (sources : List String) (o : Output) : ∃ texts,
    List.Forall₂ (fun source text => Terminal.print ("[dim]Loaded " ++ escaped source ++ "[/dim]") = .ok text) sources
      texts ∧
    sources.foldl (fun o source => o.write (Terminal.print ("[dim]Loaded " ++ escaped source ++ "[/dim]"))) o =
      { o with stdout := o.stdout ++ String.join texts } := by
  induction sources generalizing o with
  | nil => exact ⟨[], .nil, by simp [String.join]⟩
  | cons source sources ih =>
    obtain ⟨text, htext⟩ := exists_print_loaded source
    obtain ⟨texts, htexts, heq⟩ := ih (o.write (.ok text))
    refine ⟨text :: texts, .cons htext htexts, ?_⟩
    rw [List.foldl_cons, htext, heq]
    simp [Output.write, String.append_assoc]

theorem resourceRow_eq_ok_iff {e : Scalar × Value} {row : String × String} : resourceRow e.1 e.2 = .ok row ↔
    ∃ name shown, e.1 = .text name ∧ shownClass e.2 = .ok shown ∧ row = (escaped name, escaped shown) := by
  simp only [resourceRow, bind_eq_ok_iff, mapError_eq_ok_iff]
  cases e.1 with
  | text name => simp [eq_comm]
  | _ => simp

/-- There are rows exactif if the names are texts and each resource shows a class. -/
theorem exists_resourceRows_iff {t : Table} : (∃ rows, resourceRows t = .ok rows) ↔
    (∀ e ∈ t, ∃ name, e.1 = .text name) ∧ ∀ e ∈ t, ∃ shown, shownClass e.2 = .ok shown := by
  simp only [resourceRows, exists_mapM_eq_ok_iff, resourceRow_eq_ok_iff]
  constructor
  · intro h
    refine ⟨fun e he => ?_, fun e he => ?_⟩ <;> obtain ⟨_, name, shown, hname, hshown, -⟩ := h e he
    · exact ⟨name, hname⟩
    · exact ⟨shown, hshown⟩
  · rintro ⟨hnames, hclasses⟩ e he
    obtain ⟨name, hname⟩ := hnames e he
    obtain ⟨shown, hshown⟩ := hclasses e he
    exact ⟨_, name, shown, hname, hshown, rfl⟩

/-- What the rows show, one for each resource. -/
theorem exists_shown_rows {t : Table} {rows : List (String × String)} (h : resourceRows t = .ok rows) :
    ∃ shown, rows.mapM Terminal.Table.showRow = .ok shown ∧ List.Forall₂ Listed t shown := by
  have hrows := mapM_eq_ok_iff.1 h
  clear h
  simp only [mapM_eq_ok_iff, Terminal.Table.showRow_eq_ok_iff]
  induction hrows with
  | nil => exact ⟨[], .nil, .nil⟩
  | cons hrow _ ih =>
    obtain ⟨shown, hshown, hlisted⟩ := ih
    obtain ⟨name, className, hname, hclass, rfl⟩ := resourceRow_eq_ok_iff.1 hrow
    obtain ⟨first, hfirst⟩ := Terminal.exists_showMarkup_escape name.toList
    obtain ⟨second, hsecond⟩ := Terminal.exists_showMarkup_escape className.toList
    have hshows : Terminal.Table.RowShows (escaped name, escaped className) (first, second) :=
      ⟨by rw [toList_escaped, hfirst], by rw [toList_escaped, hsecond]⟩
    exact ⟨(first, second) :: shown, .cons hshows hshown, .cons ⟨name, className, hname, hclass, hshows⟩ hlisted⟩

/-- The table of the resources, as it is printed with these rows. -/
def listText (rows : List (List Char × List Char)) : String :=
  Terminal.joinLines
    (Terminal.Shown.lines { title := some "Resources".toList, header := some ("Name".toList, "Class name".toList), rows })

theorem print_list {rows : List (String × String)} {shown : List (List Char × List Char)}
    (h : rows.mapM Terminal.Table.showRow = .ok shown) :
    Terminal.Table.print { title := "Resources", header := some ("Name", "Class name"), rows } = .ok (listText shown) := by
  have htitle : Terminal.showMarkup "Resources".toList = .ok "Resources".toList := by decide +kernel
  have hheader : (some ("Name", "Class name")).mapM Terminal.Table.showRow =
      .ok (some ("Name".toList, "Class name".toList)) := by decide +kernel
  rw [Terminal.Table.print_of_rows hheader h, htitle]
  rfl

/-- The list has a row for each resource and no others, or says that there is none, or cannot be made. -/
theorem listResources_cases (s : Settings) : ∃ loaded,
    List.Forall₂ (fun source text => Terminal.print ("[dim]Loaded " ++ escaped source ++ "[/dim]") = .ok text) s.sources
      loaded ∧
    ((IsListable s ∧ s.getSection resourcesKey = [] ∧
        listResources s = { stdout := String.join loaded ++ "No resources defined.\n" }) ∨
      (IsListable s ∧ s.getSection resourcesKey ≠ [] ∧ ∃ rows, List.Forall₂ Listed (s.getSection resourcesKey) rows ∧
        listResources s = { stdout := String.join loaded ++ listText rows }) ∨
      ¬IsListable s ∧ ∃ e, listResources s = Output.escape { stdout := String.join loaded } e) := by
  obtain ⟨loaded, hloaded, hfold⟩ := exists_loaded s.sources {}
  obtain ⟨v, hbind, hv⟩ := bind_naming s
  have hsection := getSection_eq_storedResources s
  refine ⟨loaded, hloaded, ?_⟩
  have hlookup : ([("resources", v)].lookup "resources").getD Value.null = v := rfl
  simp only [listResources, hfold, hbind, hlookup, String.empty_append]
  by_cases hempty : v.isEmpty = true
  · -- what counts as nothing is no map with entries, so that the section is empty too
    have hstored : ∀ w, storedResources s = some w → w = v := by
      rcases hv with hv | ⟨hv, -⟩ <;> simp [hv]
    have hnone : s.getSection resourcesKey = [] := by
      rw [hsection]
      split
      · rename_i t ht
        rw [← hstored _ ht] at hempty
        simpa [Value.isEmpty] using hempty
      · rfl
    rw [if_pos hempty, Terminal.print_noResources]
    refine .inl ⟨⟨fun w hw hnonempty => ?_, by simp [hnone], by simp [hnone]⟩, hnone, rfl⟩
    rw [hstored w hw, hempty] at hnonempty
    cases hnonempty
  · rw [if_neg hempty]
    have hstored : storedResources s = some v := hv.resolve_right fun h => hempty h.2
    cases v with
    | map t =>
      replace hsection : s.getSection resourcesKey = t := by rw [hsection, hstored]
      have hne : t ≠ [] := fun hnil => hempty (by rw [hnil]; rfl)
      have hlistable : IsListable s ↔ ∃ rows, resourceRows t = .ok rows := by
        rw [exists_resourceRows_iff, ← hsection]
        refine ⟨fun h => ⟨h.names, h.classes⟩, fun h => ⟨fun w hw _ => ?_, h.1, h.2⟩⟩
        exact ⟨t, Option.some.inj (hw.symm.trans hstored)⟩
      cases hrows : resourceRows t with
      | error e =>
        refine .inr (.inr ⟨fun h => ?_, e, by simp only [hrows]⟩)
        obtain ⟨rows, hok⟩ := hlistable.1 h
        cases hrows.symm.trans hok
      | ok rows =>
        obtain ⟨shown, hshown, hlisted⟩ := exists_shown_rows hrows
        refine .inr (.inl ⟨hlistable.2 ⟨rows, hrows⟩, hsection ▸ hne, shown, hsection ▸ hlisted, ?_⟩)
        simp only [hrows, print_list hshown]
        rfl
    -- anything else has no entries to list
    | scalar a =>
      refine .inr (.inr ⟨fun h => ?_, _, rfl⟩)
      obtain ⟨t, ht⟩ := h.table _ hstored (Bool.eq_false_iff.2 hempty)
      cases ht
    | list items =>
      refine .inr (.inr ⟨fun h => ?_, _, rfl⟩)
      obtain ⟨t, ht⟩ := h.table _ hstored (Bool.eq_false_iff.2 hempty)
      cases ht

theorem listResources_succeeds_iff (s : Settings) : (listResources s).Succeeds ↔ IsListable s := by
  obtain ⟨loaded, -, ⟨hlist, -, heq⟩ | ⟨hlist, -, rows, -, heq⟩ | ⟨hlist, e, heq⟩⟩ := listResources_cases s
  · rw [heq]
    exact iff_of_true ⟨rfl, rfl⟩ hlist
  · rw [heq]
    exact iff_of_true ⟨rfl, rfl⟩ hlist
  · rw [heq]
    exact iff_of_false (fun h => by cases h.1) hlist

/-! ## What is found -/

/-- The answer that there is no resource of a name. -/
def unknownResource (name : String) : Output :=
  Output.fail {} ("[error]Unknown resource:[/error] " ++ escaped name)

theorem fail_of_print {o : Output} {markup text : String} (h : Terminal.print markup = .ok text) :
    o.fail markup = { o with exitCode := 1, stderr := o.stderr ++ text } := by
  rw [Output.fail, h]

/-- That answer begins with a letter of its own. -/
theorem exists_unknownResource (name : String) :
    ∃ text, unknownResource name = { exitCode := 1, stderr := text } ∧ Terminal.Begins 'U' text.toList := by
  obtain ⟨text, htext⟩ := exists_print_unknown name
  have hmarkup : ("[error]Unknown resource:[/error] " ++ escaped name).toList =
      '[' :: ("error".toList ++ ']' :: 'U' :: ("nknown resource:[/error] ".toList ++ (escaped name).toList)) := by simp
  refine ⟨text, ?_, Terminal.begins_print_tagged .error (by decide) hmarkup htext⟩
  rw [unknownResource, fail_of_print htext, String.empty_append]

theorem begins_notMapping {name text : String} (h : Terminal.print ("[error]Resource " ++ escaped name ++
    " is not a mapping of properties[/error]") = .ok text) : Terminal.Begins 'R' text.toList := by
  have hmarkup : ("[error]Resource " ++ escaped name ++ " is not a mapping of properties[/error]").toList =
      '[' :: ("error".toList ++ ']' :: 'R' :: ("esource ".toList ++ ((escaped name).toList ++
        " is not a mapping of properties[/error]".toList))) := by simp
  exact Terminal.begins_print_tagged .error (by decide) hmarkup h

theorem begins_naming {e : NamingError} {text : String} (h : Terminal.print (namingMarkup e) = .ok text) :
    Terminal.Begins 'N' text.toList := by
  have hcodes : ∀ code ∈ namingCodes, Terminal.Begins 'N' code.toList := by
    simp [namingCodes, Terminal.Begins]
  obtain ⟨rest, hrest⟩ := Terminal.begins_iff.1 (hcodes _ (code_mem_namingCodes e))
  have hmarkup : (namingMarkup e).toList = '[' :: ("error".toList ++ ']' :: 'N' :: (rest ++
      (":[/error] ".toList ++ (escaped e.report.message).toList))) := by
    simp [namingMarkup, hrest]
  exact Terminal.begins_print_tagged .error (by decide) hmarkup h

/-- What is written on the output is no failure with a message. -/
theorem write_ne_failed {o failed : Output} (ho : o.exitCode = 0) (hcode : failed.exitCode = 1)
    (hescaped : failed.escaped = none) (text : Except Terminal.MarkupFault String) : o.write text ≠ failed := by
  rintro rfl
  cases text with
  | ok text => cases ho.symm.trans hcode
  | error fault => cases hescaped

/-- What is logged and told of a failure of naming begins with no letter but that of its code. -/
theorem naming_ne_unknown (setup : Log.Setup) {events : List Log.Event} (hevents : ∀ e ∈ events, e.IsPlain)
    {e : NamingError} {text unknown : String} (htext : Terminal.print (namingMarkup e) = .ok text)
    (hunknown : Terminal.Begins 'U' unknown.toList) : setup.logAll resolutionLogger events ++ text ≠ unknown := by
  rintro rfl
  rw [String.toList_append] at hunknown
  have hnaming := begins_naming htext
  rcases Log.head?_logAll hevents setup resolutionLogger with hlogs | hlogs | hlogs
  · rw [hlogs] at hunknown
    exact absurd (hnaming.unique hunknown) (by decide)
  · exact absurd (Terminal.Begins.unique (Terminal.Begins.append hlogs text.toList) hunknown) (by decide)
  · exact absurd (Terminal.Begins.unique (Terminal.Begins.append hlogs text.toList) hunknown) (by decide)

/-- Where the placeholders can be resolved, a name is unknown exactly if there is nothing under it. -/
theorem resolveResource_eq_unknown_iff (setup : Log.Setup) (name : String) (json : Bool) {resources : Table}
    (h : s.resolveSection vars resourcesKey = .ok resources) :
    resolveResource setup s vars name json = unknownResource name ↔ Table.get? resources name = none := by
  obtain ⟨unknown, hunknown, hbegins⟩ := exists_unknownResource name
  cases hfind : Table.get? resources name with
  | none => exact iff_of_true (by simp only [resolveResource, h, hfind, unknownResource]) rfl
  | some v =>
    refine iff_of_false ?_ (Option.some_ne_none v)
    rw [hunknown]
    cases v with
    | map t =>
      have hevents := @isPlain_of_mem_resolve .working (some name) (.other .null) (some t)
      simp only [resolveResource, h, hfind]
      cases (resolve .working (.other .null) (some name) (some t)).outcome with
      | ok r =>
        -- an object is shown, or its table cannot be shown and an error is left over
        dsimp only
        split <;> exact write_ne_failed rfl rfl rfl _
      | error failure =>
        cases failure with
        | naming e =>
          obtain ⟨text, htext⟩ := exists_print_naming e
          simp only [fail_of_print htext]
          exact fun heq => naming_ne_unknown setup hevents htext hbegins (congrArg Output.stderr heq)
        | _ => exact fun heq => by cases congrArg Output.escaped heq
    | _ =>
      obtain ⟨text, htext⟩ := exists_print_notMapping name
      simp only [resolveResource, h, hfind, fail_of_print htext, String.empty_append]
      intro heq
      have htexts : text = unknown := congrArg Output.stderr heq
      exact absurd ((begins_notMapping htext).unique (htexts ▸ hbegins)) (by decide)

/-- The names with something under them are those of the entries, as far as the placeholders can be resolved. -/
theorem get?_resolved_eq_none_iff {resources : Table} (h : s.resolveSection vars resourcesKey = .ok resources) :
    Table.get? resources name = none ↔ ∀ e ∈ s.getSection resourcesKey, e.1 ≠ .text name := by
  have hrel := find?_resolveEntries h (.text name)
  rw [← Table.get?_eq_none_iff, Table.get?, Table.get?]
  generalize Table.find? resources (.text name) = found at hrel ⊢
  generalize (s.getSection resourcesKey).find? (.text name) = stored at hrel ⊢
  cases hrel with
  | none => simp
  | some _ => simp

/-! ## Runs -/

variable {files : Files} {words profiles : List String} {file : String} {plan : Log.Plan} {setup : Log.Setup}

theorem run_resources (hwords : Request.read files words = .ok (.resources file profiles))
    (hload : Settings.load files file profiles = .ok s)
    (hlog : ({} : Log.Setup).configure s vars = (.ok plan, setup)) : run files vars words = listResources s := by
  simp only [run, hwords, Request.run, withSettings, hload, hlog]

/-- The words ask for the list of the resources, and the logging section is in order. Then the run succeeds exactly if
the list can be made. Its output tells each source, and then each resource in a row, or that there is none. A name is
among the resources exactly if it is not unknown to the resolution, as far as the placeholders can be resolved. -/
theorem run_resources_iff (hwords : Request.read files words = .ok (.resources file profiles))
    (hload : Settings.load files file profiles = .ok s)
    (hlog : ({} : Log.Setup).configure s vars = (.ok plan, setup)) :
    let out := run files vars words
    (out.Succeeds ↔ IsListable s) ∧
      (∃ loaded, List.Forall₂ (fun source text => Terminal.print ("[dim]Loaded " ++ escaped source ++ "[/dim]") = .ok text)
          s.sources loaded ∧
        ((IsListable s ∧ s.getSection resourcesKey = [] ∧
            out = { stdout := String.join loaded ++ "No resources defined.\n" }) ∨
          (IsListable s ∧ s.getSection resourcesKey ≠ [] ∧ ∃ rows,
            List.Forall₂ Listed (s.getSection resourcesKey) rows ∧
              out = { stdout := String.join loaded ++ listText rows }) ∨
          ¬IsListable s ∧ ∃ e, out = Output.escape { stdout := String.join loaded } e)) ∧
      ∀ words' name json, Request.read files words' = .ok (.resolve file name profiles json) →
        (∀ text, TextIn (.map (s.getSection resourcesKey)) text → ∃ out, expand s.root vars text = .ok out) →
        ((∃ e ∈ s.getSection resourcesKey, e.1 = .text name) ↔ run files vars words' ≠ unknownResource name) := by
  intro out
  have hout : out = listResources s := run_resources hwords hload hlog
  rw [hout]
  refine ⟨listResources_succeeds_iff s, listResources_cases s, fun words' name json hwords' htexts => ?_⟩
  obtain ⟨resources, hresources⟩ := (exists_resolveEntries_iff s.root vars _).2 htexts
  have hsection : s.resolveSection vars resourcesKey = .ok resources := hresources
  rw [run_resolve hwords' hload hlog, ne_eq, resolveResource_eq_unknown_iff setup name json hsection,
    get?_resolved_eq_none_iff hsection]
  simp

/-- A queue and a text among the resources are listed, and nothing else is. -/
theorem run_resources_mixed :
    let text := "[rmqjms.naming.resources]\nx='a'\n[rmqjms.naming.resources.q]\nclassName='javax.jms.Queue'"
    let out (words : List String) := run [("c.toml", some text)] [] words
    (out ["resources", "c.toml"]).Succeeds ∧
      out ["resolve", "c.toml", "x"] ≠ unknownResource "x" ∧ out ["resolve", "c.toml", "q"] ≠ unknownResource "q" ∧
      out ["resolve", "c.toml", "y"] = unknownResource "y" := by
  intro text out
  let resources : Table := [(.text "x", .text "a"), (.text "q", .map [(.text "className", .text "javax.jms.Queue")])]
  let base : Table := [(.text "rmqjms", .map [(.text "naming", .map [(.text "resources", .map resources)])])]
  let s : Settings := { root := .map (Tree.merge [] base), sources := ["c.toml"] }
  have hload : Settings.load [("c.toml", some text)] "c.toml" [] = .ok s := load_single (by decide +kernel)
  have hconf : (({} : Log.Setup).configure s []).1.isOk = true := by decide
  obtain ⟨plan, setup, hplan⟩ := exists_configure hconf
  have hsection : s.getSection resourcesKey = resources := by decide
  have hlistable : IsListable s := by
    refine ⟨fun v hv _ => ?_, ?_, ?_⟩
    · have hstored : storedResources s = some (.map resources) := by decide
      exact ⟨resources, Option.some.inj (hv.symm.trans hstored)⟩
    · simp [hsection, resources]
    · rw [hsection]
      simp only [resources, List.forall_mem_cons, List.not_mem_nil, false_implies, implies_true, and_true]
      exact ⟨⟨_, rfl⟩, "javax.jms.Queue", by decide⟩
  have hresolved : ∃ t, resolveEntries s.root [] (s.getSection resourcesKey) = .ok t :=
    ⟨resources, eq_ok_of_toOption (by decide)⟩
  obtain ⟨hsucceeds, -, hnames⟩ :=
    run_resources_iff (read_resources (checkFile_single text) (by simp [Arguments.isOption])) hload hplan
  have hiff : ∀ name, Arguments.isOption name = false →
      ((∃ e ∈ resources, e.1 = .text name) ↔ out ["resolve", "c.toml", name] ≠ unknownResource name) := by
    intro name hname
    have hwords := read_resolve false (checkFile_single text) (by simp [Arguments.isOption]) hname
    rw [← hsection]
    exact hnames _ _ _ hwords ((exists_resolveEntries_iff _ _ _).1 hresolved)
  refine ⟨hsucceeds.2 hlistable, (hiff "x" ?_).1 ?_, (hiff "q" ?_).1 ?_, not_ne_iff.1 fun h => ?_⟩
  · simp [Arguments.isOption]
  · simp [resources]
  · simp [Arguments.isOption]
  · simp [resources]
  · have hmem := (hiff "y" (by simp [Arguments.isOption])).2 h
    simp [resources] at hmem

/-- A list in the place of the resources cannot be listed, though there is nothing in it for the resolution. -/
theorem run_resources_ne :
    let text := "[rmqjms.naming]\nresources=['a']"
    let out (words : List String) := run [("c.toml", some text)] [] words
    ¬(out ["resources", "c.toml"]).Succeeds ∧ out ["resolve", "c.toml", "a"] = unknownResource "a" := by
  intro text out
  let base : Table := [(.text "rmqjms", .map [(.text "naming", .map [(.text "resources", .list [.text "a"])])])]
  let s : Settings := { root := .map (Tree.merge [] base), sources := ["c.toml"] }
  have hload : Settings.load [("c.toml", some text)] "c.toml" [] = .ok s := load_single (by decide +kernel)
  have hconf : (({} : Log.Setup).configure s []).1.isOk = true := by decide
  obtain ⟨plan, setup, hplan⟩ := exists_configure hconf
  have hstored : storedResources s = some (.list [.text "a"]) := by decide
  have hsection : s.resolveSection [] resourcesKey = .ok [] := eq_ok_of_toOption (by decide)
  have hlist : out ["resources", "c.toml"] = listResources s :=
    run_resources (read_resources (checkFile_single text) (by simp [Arguments.isOption])) hload hplan
  have hresolve : out ["resolve", "c.toml", "a"] = resolveResource setup s [] "a" false :=
    run_resolve (read_resolve false (checkFile_single text) (by simp [Arguments.isOption])
      (by simp [Arguments.isOption])) hload hplan
  rw [hlist, hresolve, listResources_succeeds_iff]
  refine ⟨fun h => ?_, (resolveResource_eq_unknown_iff setup "a" false hsection).2 rfl⟩
  obtain ⟨t, ht⟩ := h.table _ hstored rfl
  cases ht

end JmsNaming.CommandLine
