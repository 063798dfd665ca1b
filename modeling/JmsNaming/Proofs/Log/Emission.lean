import JmsNaming.Proofs.Log.History
import JmsNaming.Proofs.Log.Inheritance
import JmsNaming.Proofs.Log.LevelMap

/-
What events write after a map of levels has been put into force: an event is written if it is at least as grave as the
level of the longest name in the map that is its logger's or above it, or else as the level of the root. Only a name that
begins the root's may miss a logger, if the map names another one on the way between the two before it.
-/
namespace JmsNaming.Log.Setup

variable {levels : List (String × String)} {name : String}

/-! ## The level that decides for a name -/

/-- Nothing but the root decides for the root. -/
theorem nearest?_root (levels : List (String × String)) : nearest? (namedLevels levels) "root".toList = none := by
  refine nearest?_eq_none_iff.2 fun e he hhead => ?_
  rcases hhead with heq | hpre
  · have hkey : e.1 ∈ (levels.filter (·.1 ≠ "root")).map (·.1.toList) :=
      keys_namedLevels levels ▸ List.mem_map_of_mem he
    obtain ⟨d, hd, hdkey⟩ := List.mem_map.1 hkey
    exact absurd (String.toList_inj.1 (hdkey.trans heq)) (by simpa using (List.mem_filter.1 hd).2)
  · exact absurd (hpre.subset (List.mem_append_right _ List.mem_cons_self)) (by decide)

section Effective

variable {l : Loggers} (hl : l.Holds (namedLevels levels)) (hroot : l.rootLevel = wordLevel (rootWord levels))
  (hmap : IsLevelMap levels) (hname : WellFormed name.toList)
include hl hroot hmap hname

theorem effective_of_not_cutOff (hcut : ¬CutOff (namedLevels levels) name.toList) :
    l.effective (.ofText name) = decidingLevel levels name := by
  by_cases heq : name = "root"
  · rw [heq, ofText_root, decidingLevel, nearest?_root, Option.map_none, Option.getD_none, Loggers.effective, hroot]
  · rw [ofText_of_wellFormed hname heq, decidingLevel, ← hroot]
    exact hl.effectiveNamed_of_not_cutOff (nodup_namedLevels hmap) hname hcut

theorem effective_of_cutOff (hcut : CutOff (namedLevels levels) name.toList)
    (hused : ∀ q, l.has q = true → q = name.toList ∨ q ∈ (namedLevels levels).map Prod.fst) :
    l.effective (.ofText name) = wordLevel (rootWord levels) := by
  by_cases heq : name = "root"
  · rw [heq, ofText_root, Loggers.effective, hroot]
  · rw [ofText_of_wellFormed hname heq, ← hroot]
    exact hl.effectiveNamed_of_cutOff (nodup_namedLevels hmap) hname hcut hused

end Effective

/-! ## Events -/

/-- The setup after some events, whatever becomes of them. -/
def after (s : Setup) (calls : List (LoggerName × Event)) : Setup :=
  calls.foldl (fun s call => (s.log call.1 call.2).2) s

theorem rootLevel_visit (l : Loggers) (n : LoggerName) : (l.visit n).rootLevel = l.rootLevel :=
  Loggers.own_visit l n .root

theorem after_spec {s : Setup} {entries : List (List Char × Nat)} (h : s.loggers.Holds entries)
    (calls : List (LoggerName × Event)) : (s.after calls).loggers.Holds entries ∧
      (s.after calls).loggers.rootLevel = s.loggers.rootLevel ∧ (s.after calls).format = s.format := by
  induction calls generalizing s with
  | nil => exact ⟨h, rfl, rfl⟩
  | cons call calls ih =>
    obtain ⟨hholds, hroot, hformat⟩ := ih (s := (s.log call.1 call.2).2) (h.visit call.1)
    exact ⟨hholds, hroot.trans (rootLevel_visit s.loggers call.1), hformat⟩

theorem log_of_text {s : Setup} {logger : LoggerName} {e : Event} {text : String}
    (h : e.text s.format logger.text = .ok text) : (s.log logger e).1 =
      .ok (if (s.loggers.visit logger).effective logger ≤ e.severity.level then text ++ "\n" else "") := by
  simp only [log, h, Except.map]

theorem text_ofText (h : WellFormed name.toList) : (LoggerName.ofText name).text = name := by
  by_cases heq : name = "root"
  · rw [heq, ofText_root]
    rfl
  · rw [ofText_of_wellFormed h heq, LoggerName.text, String.ofList_toList]

/-- After a map of levels has been put into force on a fresh setup, an event with a text is written exactly if it is at
least as grave as the level that decides for its logger, whatever events came before it. The order of the map makes no
difference to that level. Only where a name that begins the root's is cut off from the logger, the first event is
written as the level of the root has it. -/
theorem log_decidingLevel {settings : Settings} {vars : Variables} {format : String} (hmap : IsLevelMap levels)
    (hlevels : (settings.getSection "rmqjms.logging").get? "level" = some (.map (levelTable levels)))
    (hformat : Plan.formatWord settings vars = .ok format) : ∃ plan s, ({} : Setup).configure settings vars = (.ok plan, s) ∧
    (∀ levels', levels'.Perm levels → ∀ name, decidingLevel levels' name = decidingLevel levels name) ∧
    ∀ name, WellFormed name.toList → ∀ (e : Event) (text : String), e.text s.format name = .ok text →
      let output := if decidingLevel levels name ≤ e.severity.level then text ++ "\n" else ""
      (¬CutOff (namedLevels levels) name.toList →
        ∀ calls, ((s.after calls).log (.ofText name) e).1 = .ok output) ∧
      ((s.log (.ofText name) e).1 = .ok output ↔ (CutOff (namedLevels levels) name.toList →
        (wordLevel (rootWord levels) ≤ e.severity.level ↔ decidingLevel levels name ≤ e.severity.level))) := by
  refine ⟨_, _, configure_eq hmap hlevels hformat, fun levels' h => decidingLevel_perm hmap h, ?_⟩
  intro name hname e text htext output
  have hholds : (configured levels format).loggers.Holds (namedLevels levels) := ⟨[], by simp [configured]⟩
  have hroot : (configured levels format).loggers.rootLevel = wordLevel (rootWord levels) := by rw [configured]
  have hcall : ∀ s : Setup, s.format = (configured levels format).format → (s.log (.ofText name) e).1 =
      .ok (if (s.loggers.visit (.ofText name)).effective (.ofText name) ≤ e.severity.level then text ++ "\n" else "") := by
    intro s hs
    refine log_of_text ?_
    rw [text_ofText hname, hs]
    exact htext
  have huncut : ¬CutOff (namedLevels levels) name.toList →
      ∀ calls, (((configured levels format).after calls).log (.ofText name) e).1 = .ok output := by
    intro hcut calls
    obtain ⟨hafter, hkept, hsame⟩ := after_spec hholds calls
    rw [hcall _ hsame, effective_of_not_cutOff (hafter.visit _) (by rw [rootLevel_visit, hkept, hroot]) hmap hname hcut]
  refine ⟨huncut, ?_⟩
  by_cases hcut : CutOff (namedLevels levels) name.toList
  · have hused : ∀ q, ((configured levels format).loggers.visit (.ofText name)).has q = true →
        q = name.toList ∨ q ∈ (namedLevels levels).map Prod.fst := by
      intro q hq
      by_cases heq : name = "root"
      · rw [heq, ofText_root] at hq
        exact .inr (Loggers.has_iff.1 hq)
      · rw [ofText_of_wellFormed hname heq, Loggers.has_visit_iff] at hq
        exact hq.symm.imp_right Loggers.has_iff.1
    rw [hcall _ rfl, effective_of_cutOff (hholds.visit _) (by rw [rootLevel_visit, hroot]) hmap hname hcut hused]
    simp only [output, hcut, forall_const, Except.ok.injEq]
    have hne : text ++ "\n" ≠ "" := by simp
    split_ifs <;> simp [*]
  · exact iff_of_true (huncut hcut []) fun h => absurd h hcut

/-- A level above one without, a name that only begins the logger's text, and a word that means no level. -/
theorem log_decidingLevel_nested :
    let levels := [("a.b", "notset"), ("a.bc", "error"), ("r.x", "chatty"), ("a", "debug"), ("r", "critical")]
    let e (severity : Severity) : Event := { name := "e", severity, fields := [] }
    let s := alone (withLevels levels)
    (s.log (.ofText "a.b.c") (e .debug)).1 = .ok "[debug    ] e                              [a.b.c]\n" ∧
      (s.log (.ofText "r.x.y") (e .info)).1 = .ok "[info     ] e                              [r.x.y]\n" ∧
      (s.log (.ofText "r.y") (e .error)).1 = .ok "" := by
  intro levels e s
  have hmap : IsLevelMap levels := by decide
  have hlevels : ((withLevels levels).1.getSection "rmqjms.logging").get? "level" =
      some (.map (levelTable levels)) := by decide
  have hformat : Plan.formatWord (withLevels levels).1 [] = .ok "console" := eq_ok_of_toOption (by decide)
  obtain ⟨plan, t, ht, -, hlog⟩ := log_decidingLevel hmap hlevels hformat
  obtain rfl : s = t := congrArg Prod.snd ht
  have hs : s.format = .console := by decide
  have hwrites : ∀ name severity text, WellFormed name.toList → ¬CutOff (namedLevels levels) name.toList →
      (e severity).text .console name = .ok text → (s.log (.ofText name) (e severity)).1 =
        .ok (if decidingLevel levels name ≤ severity.level then text ++ "\n" else "") := by
    intro name severity text hname hcut htext
    rw [← hs] at htext
    exact (hlog name hname (e severity) text htext).1 hcut []
  refine ⟨?_, ?_, ?_⟩
  · exact (hwrites "a.b.c" .debug "[debug    ] e                              [a.b.c]" (by decide)
      (by decide) (eq_ok_of_toOption (by decide +kernel))).trans (congrArg Except.ok (by decide))
  · exact (hwrites "r.x.y" .info "[info     ] e                              [r.x.y]" (by decide)
      (by decide) (eq_ok_of_toOption (by decide +kernel))).trans (congrArg Except.ok (by decide))
  · exact (hwrites "r.y" .error "[error    ] e                              [r.y]" (by decide)
      (by decide) (eq_ok_of_toOption (by decide +kernel))).trans (congrArg Except.ok (by decide))

/-- A name that begins the root's gives no level to a logger that the map names before it. -/
theorem log_cutOff :
    let levels := [("r.x", "NOTSET"), ("r", "DEBUG")]
    let e : Event := { name := "e", severity := .debug, fields := [] }
    let output (levels : List (String × String)) := ((alone (withLevels levels)).log (.ofText "r.x") e).1.toOption
    IsLevelMap levels ∧ decidingLevel levels "r.x" = e.severity.level ∧ output levels = some "" ∧
      output levels.reverse = some "[debug    ] e                              [r.x]\n" := by
  decide +kernel

end JmsNaming.Log.Setup
