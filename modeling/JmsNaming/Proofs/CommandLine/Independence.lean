import JmsNaming.Proofs.CommandLine.Resolution
import JmsNaming.Proofs.Settings.Apart

/-
How far a resource is shown independently of the others. The placeholders of all resources are resolved before one of
them is picked, so that the others count in one respect: whether their placeholders can be resolved.
-/
namespace JmsNaming.CommandLine

open Template

/-- The path to the section with the resources. -/
def resourcesPath : List String :=
  ["rmqjms", "naming", "resources"]

/-- Each text in the resources of other names can be expanded. -/
def OthersResolve (s : Settings) (vars : Variables) (name : String) : Prop :=
  ∀ e ∈ s.getSection resourcesKey, e.1.sameKey (.text name) = false →
    ∀ text, TextIn e.2 text → ∃ out, expand s.root vars text = .ok out

/-- The table under the name resolves to the object by itself. -/
def OwnResolvesTo (s : Settings) (vars : Variables) (name : String) (r : Resource) : Prop :=
  ∃ t t', (s.getSection resourcesKey).get? name = some (.map t) ∧ resolveEntries s.root vars t = .ok t' ∧
    (resolve .working (.other .null) (some name) (some t')).outcome = .ok r

/-- No placeholder in the table under the name reaches into the tables of other resources. -/
def OwnAvoids (s : Settings) (vars : Variables) (name : String) : Prop :=
  ∀ t, (s.getSection resourcesKey).get? name = some (.map t) →
    ∀ text, TextIn (.map t) text → Avoids s.root vars name resourcesPath text

variable {s s' : Settings} {vars : Variables} {name : String} {r : Resource}

theorem getSection_resourcesKey (s : Settings) :
    s.getSection resourcesKey = Tree.sectionAt s.root resourcesPath := by
  have hpath : Text.segments resourcesKey = resourcesPath := by decide
  rw [Settings.getSection, hpath]

/-- A name stands for an object if its own table does, and nothing among the other resources is in the way. -/
theorem resolvesTo_iff_own (hs : s.root.Distinct) :
    ResolvesTo s vars name r ↔ OthersResolve s vars name ∧ OwnResolvesTo s vars name r := by
  constructor
  · exact fun h => ⟨fun e he _ text htext => h.texts text (.entry he htext), h.table⟩
  · rintro ⟨hothers, t, t', ht, ht', hr⟩
    refine ⟨fun text htext => ?_, t, t', ht, ht', hr⟩
    obtain ⟨e, he, htext⟩ := textIn_map.1 htext
    by_cases hk : e.1.sameKey (.text name) = true
    · -- the key is there once, so that the entry is the table under the name
      have hdistinct : (s.getSection resourcesKey).Distinct := by
        rw [getSection_resourcesKey]
        exact (Tree.distinct_sectionAt resourcesPath hs).keys
      have hvalue : e.2 = .map t := Option.some.inj ((Table.find?_of_mem hdistinct he hk).symm.trans ht)
      rw [hvalue] at htext
      exact (exists_resolveEntries_iff s.root vars t).1 ⟨t', ht'⟩ text htext
    · exact hothers e he (Bool.eq_false_iff.2 hk) text htext

theorem get?_section_of_sameBut (hsame : Tree.SameBut name resourcesPath s.root s'.root) :
    (s.getSection resourcesKey).get? name = (s'.getSection resourcesKey).get? name := by
  rw [getSection_resourcesKey, getSection_resourcesKey]
  exact Tree.get?_of_sameEntries hsame.section

/-- What the table under a name resolves to does not depend on the tables that it does not reach into. -/
theorem ownResolvesTo_congr (hsame : Tree.SameBut name resourcesPath s.root s'.root) (havoids : OwnAvoids s vars name) :
    OwnResolvesTo s vars name r ↔ OwnResolvesTo s' vars name r := by
  have hresolved : ∀ t, (s.getSection resourcesKey).get? name = some (.map t) →
      resolveEntries s.root vars t = resolveEntries s'.root vars t := fun t ht =>
    resolveEntries_congr t fun text htext => expandTo_eq_of_avoids hsame (havoids t ht text htext) maxDepth
  unfold OwnResolvesTo
  rw [← get?_section_of_sameBut hsame]
  refine exists_congr fun t => exists_congr fun t' => and_congr_right fun ht => ?_
  rw [hresolved t ht]

/-! ## What is shown -/

section Shown

variable (setup : Log.Setup)

/-- A name whose own table resolves to nothing is not shown, whatever the others are. -/
theorem resolveResource_of_not_own (h : ∀ r, ¬OwnResolvesTo s vars name r) :
    (resolveResource setup s vars name true).exitCode = 1 ∧ (resolveResource setup s vars name true).stdout = "" := by
  rcases resolveResource_cases setup s vars name with ⟨r, stderr, hr, -⟩ | ⟨-, hfails⟩
  · exact absurd hr.table (h r)
  · exact ⟨hfails.exitCode, hfails.stdout⟩

/-- A name whose own table resolves to an object is shown exactly if the others can be resolved. -/
theorem resolveResource_of_own (hs : s.root.Distinct) (h : OwnResolvesTo s vars name r) :
    (OthersResolve s vars name → (resolveResource setup s vars name true).exitCode = 0 ∧
      (resolveResource setup s vars name true).stdout = summaryJson r) ∧
      (¬OthersResolve s vars name → (resolveResource setup s vars name true).exitCode = 1 ∧
        (resolveResource setup s vars name true).stdout = "") := by
  rcases resolveResource_cases setup s vars name with ⟨r', stderr, hr', heq⟩ | ⟨hnone, hfails⟩
  · refine ⟨fun hothers => ?_, fun hno => absurd ((resolvesTo_iff_own hs).1 hr').1 hno⟩
    rw [heq, hr'.unique ((resolvesTo_iff_own hs).2 ⟨hothers, h⟩)]
    exact ⟨rfl, rfl⟩
  · refine ⟨fun hothers => absurd ((resolvesTo_iff_own hs).2 ⟨hothers, h⟩) (hnone r), fun _ => ?_⟩
    exact ⟨hfails.exitCode, hfails.stdout⟩

end Shown

/-! ## Two runs -/

variable {files files' : Files} {words words' profiles profiles' : List String} {file file' : String}
  {plan plan' : Log.Plan} {setup setup' : Log.Setup}

/-- Two runs ask for the resource of one name as JSON, with settings that differ only inside the tables of other
resources, into which no placeholder of the resource reaches, and with logging sections in order. They have the same
exit code and the same output exactly if the placeholders of the other resources can all be resolved in both or in
neither, or if the resource cannot be resolved by itself. -/
theorem run_resolve_eq_iff (hwords : Request.read files words = .ok (.resolve file name profiles true))
    (hwords' : Request.read files' words' = .ok (.resolve file' name profiles' true))
    (hload : Settings.load files file profiles = .ok s) (hload' : Settings.load files' file' profiles' = .ok s')
    (hlog : ({} : Log.Setup).configure s vars = (.ok plan, setup))
    (hlog' : ({} : Log.Setup).configure s' vars = (.ok plan', setup'))
    (hsame : Tree.SameBut name resourcesPath s.root s'.root) (havoids : OwnAvoids s vars name) :
    ((run files vars words).exitCode = (run files' vars words').exitCode ∧
      (run files vars words).stdout = (run files' vars words').stdout) ↔
      (OthersResolve s vars name ↔ OthersResolve s' vars name) ∨ ∀ r, ¬OwnResolvesTo s vars name r := by
  have hown : ∀ r, OwnResolvesTo s vars name r ↔ OwnResolvesTo s' vars name r :=
    fun r => ownResolvesTo_congr hsame havoids
  rw [run_resolve hwords hload hlog, run_resolve hwords' hload' hlog']
  by_cases hnone : ∀ r, ¬OwnResolvesTo s vars name r
  · have hout := resolveResource_of_not_own setup hnone
    have hout' := resolveResource_of_not_own setup' fun r hr => hnone r ((hown r).2 hr)
    rw [hout.1, hout.2, hout'.1, hout'.2]
    exact iff_of_true ⟨rfl, rfl⟩ (.inr hnone)
  · obtain ⟨r, hr⟩ : ∃ r, OwnResolvesTo s vars name r := by simpa using hnone
    obtain ⟨hshown, hfails⟩ := resolveResource_of_own setup (Settings.distinct_load hload) hr
    obtain ⟨hshown', hfails'⟩ :=
      resolveResource_of_own setup' (Settings.distinct_load hload') ((hown r).1 hr)
    rw [or_iff_left hnone]
    by_cases hothers : OthersResolve s vars name <;> by_cases hothers' : OthersResolve s' vars name
    · rw [(hshown hothers).1, (hshown hothers).2, (hshown' hothers').1, (hshown' hothers').2]
      exact iff_of_true ⟨rfl, rfl⟩ (iff_of_true hothers hothers')
    · rw [(hshown hothers).1, (hfails' hothers').1]
      exact iff_of_false (fun h => absurd h.1 (by decide)) fun h => hothers' (h.1 hothers)
    · rw [(hfails hothers).1, (hshown' hothers').1]
      exact iff_of_false (fun h => absurd h.1 (by decide)) fun h => hothers (h.2 hothers')
    · rw [(hfails hothers).1, (hfails hothers).2, (hfails' hothers').1, (hfails' hothers').2]
      exact iff_of_true ⟨rfl, rfl⟩ (iff_of_false hothers hothers')

/-! ## Two queues -/

section Queues

/-- A file with a queue whose name stands elsewhere in the file, and another queue. -/
def queuesText (other : String) : String :=
  "d='orders'\n[rmqjms.naming.resources.q]\nclassName='javax.jms.Queue'\ndestinationName='$\x7bd\x7d'\n" ++
    "[rmqjms.naming.resources.x]\nclassName='javax.jms.Queue'\ndestinationName='" ++ other ++ "'"

/-- The table of a queue. -/
def queueTable (destination : String) : Table :=
  [(.text "className", .text "javax.jms.Queue"), (.text "destinationName", .text destination)]

/-- The resources in such a file. -/
def queuesSection (other : String) : Table :=
  [(.text "q", .map (queueTable "$\x7bd\x7d")), (.text "x", .map (queueTable other))]

/-- The settings in such a file. -/
def queuesSettings (other : String) : Settings where
  root := .map [(.text "d", .text "orders"),
    (.text "rmqjms", .map [(.text "naming", .map [(.text "resources", .map (queuesSection other))])])]
  sources := ["c.toml"]

variable (other : String)

theorem getSection_queues : (queuesSettings other).getSection resourcesKey = queuesSection other := by
  rw [getSection_resourcesKey]
  rfl

theorem get?_queues : Table.get? (queuesSection other) "q" = some (.map (queueTable "$\x7bd\x7d")) := rfl

theorem sameBut_queues (other' : String) :
    Tree.SameBut "q" resourcesPath (queuesSettings other).root (queuesSettings other').root := by
  have hother : ∀ destination, Tree.IsOther "q" (.text "x", .map (queueTable destination)) := fun _ => ⟨rfl, _, rfl⟩
  have hsection : Tree.SameBut "q" [] (.map (queuesSection other)) (.map (queuesSection other')) :=
    .here (.cons (Tree.sameEntry_self _) (.cons ⟨rfl, .inr ⟨hother _, hother _⟩⟩ .nil))
  exact .tail (by decide) (.head (by decide) (.head (by decide) (.head (by decide) hsection [])  []) [])

theorem textIn_queueTable {destination text : String} :
    TextIn (.map (queueTable destination)) text ↔ text = "javax.jms.Queue" ∨ text = destination := by
  simp [queueTable, textIn_text, textIn_map]

/-- The placeholder of the queue leads to a text that has none, beside the resources. -/
theorem ownAvoids_queues : OwnAvoids (queuesSettings other) [] "q" := by
  intro t ht text htext
  rw [getSection_queues, get?_queues] at ht
  cases ht
  rcases textIn_queueTable.1 htext with rfl | rfl
  · exact avoids_of_not_opens (by decide)
  · have hleads : Leads ['d'] [] "$\x7bd\x7d".toList := ⟨by decide, by decide, by decide⟩
    have honly : ∀ inner, Has "$\x7bd\x7d" inner → inner = ['d'] := fun _ => (has_iff_of_leads hleads).1
    have hvalue : StandsFor (queuesSettings other).root [] ['d'] (.text "orders") := ⟨rfl, rfl⟩
    refine avoids_of_not_follows ?_ ?_
    · rintro text' ⟨inner, hhas, v, hv, ht, hopens⟩
      rw [honly inner hhas] at hv
      rw [← Option.some.inj (hvalue.2.symm.trans hv.2)] at ht
      cases ht
      revert hopens
      rw [← opens_iff]
      decide
    · rintro inner hhas - ⟨e, -, -, hprefix | ⟨key, rest, hpath, -⟩⟩
      · rw [honly inner hhas] at hprefix
        revert hprefix
        decide
      · rw [honly inner hhas] at hpath
        have hsegments : Text.segments (nameOf ['d']) = ["d"] := by decide
        rw [hsegments] at hpath
        simp [resourcesPath] at hpath

/-- The other queue can be resolved if its name can. -/
theorem othersResolve_queues_iff : OthersResolve (queuesSettings other) [] "q" ↔
    ∃ out, expand (queuesSettings other).root [] other = .ok out := by
  have hclass : ∃ out, expand (queuesSettings other).root [] "javax.jms.Queue" = .ok out :=
    ⟨_, expand_of_not_opens _ _ (by decide)⟩
  rw [OthersResolve, getSection_queues]
  constructor
  · intro h
    exact h (.text "x", .map (queueTable other)) (by simp [queuesSection]) rfl other (textIn_queueTable.2 (.inr rfl))
  · intro h e he hk text htext
    rcases List.mem_cons.1 he with rfl | he
    · cases hk
    · rw [List.mem_singleton.1 he] at htext
      rcases textIn_queueTable.1 htext with rfl | rfl
      · exact hclass
      · exact h

/-- The queue resolves by itself, whatever the other one is. -/
theorem ownResolvesTo_queues : OwnResolvesTo (queuesSettings other) [] "q" (.destination { name := "orders" }) := by
  have hq : ∀ other', OwnResolvesTo (queuesSettings other') [] "q" (.destination { name := "orders" }) ↔
      OwnResolvesTo (queuesSettings "a") [] "q" (.destination { name := "orders" }) := fun other' =>
    ownResolvesTo_congr (sameBut_queues other' "a") (ownAvoids_queues other')
  refine (hq other).2 ⟨queueTable "$\x7bd\x7d", queueTable "orders", ?_, ?_, ?_⟩
  · rw [getSection_queues]
    exact get?_queues "a"
  · exact eq_ok_of_toOption (by decide +kernel)
  · decide

/-- The file is read as the settings with two queues, the words for the first one ask for it, and the logging section
is in order. -/
def AsksForQueue (other : String) : Prop :=
  Request.read [("c.toml", some (queuesText other))] ["resolve", "c.toml", "q", "--json"] =
      .ok (.resolve "c.toml" "q" [] true) ∧
    Settings.load [("c.toml", some (queuesText other))] "c.toml" [] = .ok (queuesSettings other) ∧
    ∃ plan setup, ({} : Log.Setup).configure (queuesSettings other) [] = (.ok plan, setup)

theorem asksForQueue (hload : (loadTree ["c.toml"] (some (queuesText other))).toOption =
      (queuesSettings other).root.entries?)
    (hconf : (({} : Log.Setup).configure (queuesSettings other) []).1.isOk = true) : AsksForQueue other :=
  ⟨read_resolve_json (checkFile_single _) (by simp [Arguments.isOption]) (by simp [Arguments.isOption]),
    load_single hload, exists_configure hconf⟩

/-- A name for the other queue without placeholders, one that can be resolved, and one that cannot. -/
theorem asksForQueue_of_mem : ∀ other ∈ ["a", "$\x7bd\x7d!", "$\x7bnope\x7d"], AsksForQueue other := by
  simp only [List.forall_mem_cons, List.not_mem_nil, false_implies, implies_true, and_true]
  exact ⟨asksForQueue "a" (by decide +kernel) (by decide), asksForQueue "$\x7bd\x7d!" (by decide +kernel) (by decide),
    asksForQueue "$\x7bnope\x7d" (by decide +kernel) (by decide)⟩

theorem othersResolve_names : OthersResolve (queuesSettings "a") [] "q" ∧
    OthersResolve (queuesSettings "$\x7bd\x7d!") [] "q" ∧ ¬OthersResolve (queuesSettings "$\x7bnope\x7d") [] "q" := by
  have hexpand : (expand (queuesSettings "$\x7bd\x7d!").root [] "$\x7bd\x7d!").toOption = some "orders!" ∧
      (expand (queuesSettings "$\x7bnope\x7d").root [] "$\x7bnope\x7d").toOption = none := by decide +kernel
  simp only [othersResolve_queues_iff]
  refine ⟨⟨"a", expand_of_not_opens _ _ (by decide)⟩, ⟨"orders!", eq_ok_of_toOption hexpand.1⟩, ?_⟩
  rintro ⟨out, hout⟩
  rw [hout] at hexpand
  cases hexpand.2

/-- Two names for the other queue that can be resolved. -/
theorem run_resolve_eq_queues :
    let out (other : String) := run [("c.toml", some (queuesText other))] [] ["resolve", "c.toml", "q", "--json"]
    (out "a").exitCode = (out "$\x7bd\x7d!").exitCode ∧ (out "a").stdout = (out "$\x7bd\x7d!").stdout := by
  intro out
  obtain ⟨hplain, hd, -⟩ := othersResolve_names
  obtain ⟨hwords, hload, plan, setup, hlog⟩ := asksForQueue_of_mem "a" (by simp)
  obtain ⟨hwords', hload', plan', setup', hlog'⟩ := asksForQueue_of_mem "$\x7bd\x7d!" (by simp)
  exact (run_resolve_eq_iff hwords hwords' hload hload' hlog hlog' (sameBut_queues _ _) (ownAvoids_queues _)).2
    (.inl (iff_of_true hplain hd))

/-- A name for the other queue that cannot be resolved is in the way of the first queue, which does not reach into it. -/
theorem run_resolve_ne_of_unresolvable :
    let files (other : String) : Files := [("c.toml", some (queuesText other))]
    let words := ["resolve", "c.toml", "q", "--json"]
    (∀ other ∈ ["a", "$\x7bnope\x7d"], Request.read (files other) words = .ok (.resolve "c.toml" "q" [] true) ∧
        Settings.load (files other) "c.toml" [] = .ok (queuesSettings other) ∧
        (∃ plan setup, ({} : Log.Setup).configure (queuesSettings other) [] = (.ok plan, setup)) ∧
        OwnAvoids (queuesSettings other) [] "q") ∧
      Tree.SameBut "q" resourcesPath (queuesSettings "a").root (queuesSettings "$\x7bnope\x7d").root ∧
      (run (files "a") [] words).exitCode = 0 ∧ (run (files "$\x7bnope\x7d") [] words).exitCode = 1 := by
  intro files words
  obtain ⟨hplain, -, hno⟩ := othersResolve_names
  obtain ⟨hwords, hload, plan, setup, hlog⟩ := asksForQueue_of_mem "a" (by simp)
  obtain ⟨hwords', hload', plan', setup', hlog'⟩ := asksForQueue_of_mem "$\x7bnope\x7d" (by simp)
  refine ⟨?_, sameBut_queues _ _, ?_, ?_⟩
  · rw [List.forall_mem_cons, List.forall_mem_singleton]
    exact ⟨⟨hwords, hload, ⟨plan, setup, hlog⟩, ownAvoids_queues _⟩,
      hwords', hload', ⟨plan', setup', hlog'⟩, ownAvoids_queues _⟩
  · rw [run_resolve hwords hload hlog]
    exact ((resolveResource_of_own setup (Settings.distinct_load hload) (ownResolvesTo_queues _)).1 hplain).1
  · rw [run_resolve hwords' hload' hlog']
    exact ((resolveResource_of_own setup' (Settings.distinct_load hload') (ownResolvesTo_queues _)).2 hno).1

end Queues

end JmsNaming.CommandLine
