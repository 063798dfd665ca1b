import JmsNaming.Log.Setup
import JmsNaming.Proofs.Log.Loggers
import JmsNaming.Proofs.Outcome

/-
Configurations one after the other: each sets the form of the lines, the level of the root and the levels of the loggers
that it names, and leaves the other loggers as they are. So a level lasts until a configuration names its logger again.
-/
namespace JmsNaming.Log.Setup

variable {s t : Setup} {settings : Settings} {vars : Variables} {plan : Plan}

/-! ## What a configuration sets -/

/-- Whether a word can be the level of a logger does not depend on the setup. -/
theorem setLevel_of_ok {logger : Scalar} {word : String} (h : (s.setLevel logger word).1 = .ok ()) :
    ∃ name level, ∀ t : Setup, t.setLevel logger word = (.ok (), { t with loggers := t.loggers.set level name }) := by
  unfold setLevel at h ⊢
  cases hname : LoggerName.ofScalar? logger with
  | none =>
    rw [hname] at h
    cases h
  | some name =>
    rw [hname] at h
    dsimp only at h ⊢
    cases hlevel : levelOf (String.ofList (Text.upper word.toList)) with
    | error fault =>
      rw [hlevel] at h
      cases h
    | ok level => exact ⟨name, level, fun _ => rfl⟩

theorem setLevels_of_ok {words : List (Scalar × String)} (h : (s.setLevels words).1 = .ok ()) :
    ∃ levels, ∀ t : Setup, t.setLevels words = (.ok (), { t with loggers := t.loggers.setAll levels }) := by
  induction words generalizing s with
  | nil => exact ⟨[], fun _ => rfl⟩
  | cons e words ih =>
    have hfirst : (s.setLevel e.1 e.2).1 = .ok () := by
      rw [setLevels] at h
      split at h
      · rename_i heq
        rw [heq]
      · exact h
    obtain ⟨name, level, hset⟩ := setLevel_of_ok hfirst
    have hstep : ∀ t : Setup, t.setLevels (e :: words) =
        { t with loggers := t.loggers.set level name }.setLevels words := by
      intro t
      simp only [setLevels, hset]
    obtain ⟨levels, hrest⟩ := ih (hstep s ▸ h)
    exact ⟨(name, level) :: levels, fun t => by rw [hstep, hrest]; rfl⟩

/-- A configuration that succeeds does so in every setup, and sets the same levels, among them that of the root. -/
theorem configure_of_ok (h : s.configure settings vars = (.ok plan, t)) :
    ∃ levels : List (LoggerName × Nat), .root ∈ levels.map Prod.fst ∧ ∀ s : Setup, s.configure settings vars =
      (.ok plan, { loggers := s.loggers.setAll levels, format := .ofText plan.format }) := by
  cases hread : Plan.read settings vars with
  | error fault =>
    simp only [configure, hread] at h
    cases congrArg Prod.fst h
  | ok plan' =>
    have hconf : ∀ s : Setup, s.configure settings vars = ((s.apply plan').1.map fun _ => plan', (s.apply plan').2) :=
      fun s => by simp only [configure, hread]
    rw [hconf] at h
    cases hlevel : levelOf plan'.rootLevel with
    | error fault =>
      simp only [apply, hlevel] at h
      cases congrArg Prod.fst h
    | ok level =>
      have happly : ∀ s : Setup, s.apply plan' =
          { loggers := s.loggers.set level .root, format := .ofText plan'.format : Setup }.setLevels plan'.levels :=
        fun s => by simp only [apply, hlevel]
      have hok : ({ loggers := s.loggers.set level .root, format := .ofText plan'.format : Setup }.setLevels
          plan'.levels).1 = .ok () := by
        rw [← happly]
        cases ho : (s.apply plan').1 with
        | error fault =>
          rw [ho] at h
          cases congrArg Prod.fst h
        | ok => rfl
      obtain ⟨levels, hset⟩ := setLevels_of_ok hok
      rw [happly, hset] at h
      cases congrArg Prod.fst h
      refine ⟨(.root, level) :: levels, List.mem_cons_self, fun s => ?_⟩
      rw [hconf, happly, hset]
      rfl

/-! ## Configurations one after the other -/

/-- The setup after configurations one after the other, all of which succeed. -/
def configureAll (s : Setup) : List (Settings × Variables) → Except Fault Setup
  | [] => .ok s
  | call :: rest =>
    match s.configure call.1 call.2 with
    | (.ok _, s) => configureAll s rest
    | (.error fault, _) => .error fault

/-- The setup that a configuration leaves of a fresh one. -/
def alone (call : Settings × Variables) : Setup :=
  (({} : Setup).configure call.1 call.2).2

/-- The last configuration that names a logger. -/
def latest? (calls : List (Settings × Variables)) (name : List Char) : Option (Settings × Variables) :=
  calls.reverse.find? fun call => (alone call).loggers.has name

variable {call : Settings × Variables} {calls : List (Settings × Variables)} {name : List Char}

/-- What a configuration that succeeds leaves of a setup: what it sets is as in a fresh one, and the other loggers are
as before. -/
structure Sets (call : Settings × Variables) (s t : Setup) : Prop where
  format : t.format = (alone call).format
  rootLevel : t.loggers.rootLevel = (alone call).loggers.rootLevel
  has_iff : ∀ name, t.loggers.has name = true ↔ s.loggers.has name = true ∨ (alone call).loggers.has name = true
  own : ∀ name, t.loggers.own (.named name) =
    if (alone call).loggers.has name then (alone call).loggers.own (.named name) else s.loggers.own (.named name)

theorem sets_of_configure (h : s.configure call.1 call.2 = (.ok plan, t)) : Sets call s t := by
  obtain ⟨levels, hroot, hall⟩ := configure_of_ok h
  have halone : alone call = { loggers := Loggers.setAll {} levels, format := .ofText plan.format } := by
    rw [alone, hall]
  have ht : t = { loggers := s.loggers.setAll levels, format := .ofText plan.format } := by
    rw [hall] at h
    exact (congrArg Prod.snd h).symm
  have hnamed : ∀ name, (Loggers.setAll {} levels).has name = true ↔ .named name ∈ levels.map Prod.fst := by
    intro name
    rw [Loggers.has_setAll_iff]
    simp [Loggers.has]
  constructor
  · rw [ht, halone]
  · rw [ht, halone]
    exact Loggers.own_setAll_of_mem (n := .root) hroot
  · intro name
    rw [ht, halone, hnamed, Loggers.has_setAll_iff]
  · intro name
    rw [ht, halone]
    dsimp only
    split
    · rename_i hname
      exact Loggers.own_setAll_of_mem ((hnamed name).1 hname)
    · rename_i hname
      exact Loggers.own_setAll_of_not_mem fun hmem => hname ((hnamed name).2 hmem)

theorem configureAll_cons_eq_ok_iff : s.configureAll (call :: calls) = .ok t ↔
    ∃ plan next, s.configure call.1 call.2 = (.ok plan, next) ∧ next.configureAll calls = .ok t := by
  rw [configureAll]
  rcases hc : s.configure call.1 call.2 with ⟨outcome, next⟩
  cases outcome with
  | error fault => simp
  | ok plan =>
    constructor
    · exact fun h => ⟨plan, next, rfl, h⟩
    · rintro ⟨plan', next', heq, h⟩
      obtain ⟨-, rfl⟩ := Prod.mk.inj heq
      exact h

theorem configureAll_append {more : List (Settings × Variables)} (h : s.configureAll (calls ++ more) = .ok t) :
    ∃ next, s.configureAll calls = .ok next ∧ next.configureAll more = .ok t := by
  induction calls generalizing s with
  | nil => exact ⟨s, rfl, h⟩
  | cons call calls ih =>
    rw [List.cons_append, configureAll_cons_eq_ok_iff] at h
    obtain ⟨plan, next, hc, h⟩ := h
    obtain ⟨last, hcalls, hmore⟩ := ih h
    exact ⟨last, configureAll_cons_eq_ok_iff.2 ⟨plan, next, hc, hcalls⟩, hmore⟩

/-- After configurations one after the other, each logger has the level that the last one gave it that names it. -/
theorem own_configureAll (h : s.configureAll calls = .ok t) (name : List Char) :
    t.loggers.own (.named name) = ((latest? calls name).map fun call => (alone call).loggers.own (.named name)).getD
      (s.loggers.own (.named name)) := by
  induction calls generalizing s with
  | nil =>
    cases h
    rfl
  | cons call calls ih =>
    obtain ⟨plan, next, hc, h⟩ := configureAll_cons_eq_ok_iff.1 h
    have hlatest : latest? (call :: calls) name = (latest? calls name).or
        (if (alone call).loggers.has name then some call else none) := by
      rw [latest?, List.reverse_cons, List.find?_append, latest?, List.find?_singleton]
    rw [ih h, hlatest, (sets_of_configure hc).own]
    cases latest? calls name with
    | some c => simp
    | none => split <;> simp

/-- A logger is in use after configurations if it was before, or if one of them names it. -/
theorem has_configureAll_iff (h : s.configureAll calls = .ok t) (name : List Char) :
    t.loggers.has name = true ↔ s.loggers.has name = true ∨ ∃ call, latest? calls name = some call := by
  have hlatest : (∃ call, latest? calls name = some call) ↔ ∃ call ∈ calls, (alone call).loggers.has name = true := by
    rw [← Option.isSome_iff_exists, latest?, List.find?_isSome]
    simp
  rw [hlatest]
  clear hlatest
  induction calls generalizing s with
  | nil =>
    cases h
    simp
  | cons call calls ih =>
    obtain ⟨plan, next, hc, h⟩ := configureAll_cons_eq_ok_iff.1 h
    refine (ih h).trans ?_
    rw [(sets_of_configure hc).has_iff]
    simp [or_assoc]

/-- After configurations that all succeed, the form of the lines and the level of the root are as if only the last one
had been made. The same holds of the level that decides for each logger, where all loggers in use are regular, exactly
if every logger that only earlier ones name has no level from them, or the level that it would inherit. -/
theorem effective_configureAll_iff {last : Settings × Variables}
    (h : ({} : Setup).configureAll (calls ++ [last]) = .ok s)
    (hregular : ∀ name, s.loggers.has name = true → Regular name) :
    let fresh := alone last
    ({} : Setup).configureAll [last] = .ok fresh ∧ s.format = fresh.format ∧
      s.loggers.effective .root = fresh.loggers.effective .root ∧
      ((∀ name, s.loggers.effective name = fresh.loggers.effective name) ↔
        ∀ name call, latest? calls name = some call → fresh.loggers.has name = false →
          (alone call).loggers.own (.named name) = unsetLevel ∨
            (alone call).loggers.own (.named name) = fresh.loggers.effective (.named name)) := by
  intro fresh
  obtain ⟨next, hcalls, hlast⟩ := configureAll_append h
  obtain ⟨plan, s', hc, hs⟩ := configureAll_cons_eq_ok_iff.1 hlast
  cases hs
  have hsets : Sets last next s := sets_of_configure hc
  have hfresh : ({} : Setup).configureAll [last] = .ok fresh := by
    obtain ⟨levels, -, hall⟩ := configure_of_ok hc
    exact configureAll_cons_eq_ok_iff.2 ⟨plan, fresh, by simp only [fresh, alone, hall], rfl⟩
  have hiff := Loggers.effectiveNamed_eq_iff hsets.rootLevel (fun name hname => (hsets.has_iff name).2 (.inr hname))
    (fun name hname => by rw [hsets.own, if_pos hname]) hregular
  refine ⟨hfresh, hsets.format, hsets.rootLevel, ?_⟩
  constructor
  · intro heq name call hcall hname
    have hhas : next.loggers.has name = true := (has_configureAll_iff hcalls name).2 (.inr ⟨call, hcall⟩)
    have hown : s.loggers.own (.named name) = (alone call).loggers.own (.named name) := by
      rw [hsets.own, if_neg (by simp [fresh, hname]), own_configureAll hcalls, hcall, Option.map_some, Option.getD_some]
    rw [← hown]
    exact hiff.1 (fun name => heq (.named name)) name ((hsets.has_iff name).2 (.inl hhas)) hname
  · intro hleft name
    cases name with
    | root => exact hsets.rootLevel
    | named name =>
      refine hiff.2 (fun name hhas hname => ?_) name
      have hnext : next.loggers.has name = true := by
        rcases (hsets.has_iff name).1 hhas with hnext | hfresh
        · exact hnext
        · rw [hname] at hfresh
          cases hfresh
      obtain ⟨call, hcall⟩ : ∃ call, latest? calls name = some call :=
        ((has_configureAll_iff hcalls name).1 hnext).resolve_left (by simp [Loggers.has])
      rw [hsets.own, if_neg (by simp [hname]), own_configureAll hcalls, hcall, Option.map_some, Option.getD_some]
      exact hleft name call hcall hname

/-! ## Some loggers -/

deriving instance DecidableEq for Loggers, Setup

/-- Settings that give some loggers levels. -/
def withLevels (levels : List (String × String)) : Settings × Variables :=
  let entries : Table := levels.map fun e => (.text e.1, .text e.2)
  ({ root := .map [(.text "rmqjms", .map [(.text "logging", .map [(.text "level", .map entries)])])] }, [])

/-- Of the loggers that only the first configuration names, one has no level and the other the one that it would
inherit. -/
theorem effective_configureAll_inherited :
    let first := withLevels [("a.b", "info"), ("c", "NOTSET")]
    let last := withLevels [("root", "WARNING"), ("a", "INFO")]
    ∃ s, ({} : Setup).configureAll [first, last] = .ok s ∧ (∀ name, s.loggers.has name = true → Regular name) ∧
      ∀ name, s.loggers.effective name = (alone last).loggers.effective name := by
  intro first last
  let earlier : Loggers := { rootLevel := 20, named := [("a.b".toList, 20), ("c".toList, unsetLevel)] }
  let fresh : Loggers := { rootLevel := 30, named := [("a".toList, 20)] }
  let s : Setup :=
    { loggers := { rootLevel := 30, named := [("a.b".toList, 20), ("c".toList, unsetLevel), ("a".toList, 20)] } }
  have h : ({} : Setup).configureAll ([first] ++ [last]) = .ok s := eq_ok_of_toOption (by decide)
  have hfirst : (alone first).loggers = earlier := by decide
  have hlast : (alone last).loggers = fresh := by decide
  have hregular : ∀ name, s.loggers.has name = true → Regular name := by
    intro name hname
    have hnames : ∀ name ∈ ["a.b".toList, "c".toList, "a".toList],
        name.isPrefixOf LoggerName.rootName = false ∧ name.getLast? ≠ some '.' := by decide
    exact ⟨(hnames name (Loggers.has_iff.1 hname)).1, (hnames name (Loggers.has_iff.1 hname)).2⟩
  have hleft : ∀ name ∈ ["a.b".toList, "c".toList], earlier.own (.named name) = unsetLevel ∨
      earlier.own (.named name) = fresh.effective (.named name) := by decide +kernel
  refine ⟨s, h, hregular, (effective_configureAll_iff h hregular).2.2.2.2 fun name call hcall _ => ?_⟩
  obtain rfl : call = first := by simpa using List.mem_of_find?_eq_some hcall
  have hname := List.find?_some hcall
  rw [hfirst, Loggers.has_iff] at hname
  rw [hfirst, hlast]
  exact hleft name hname

/-- A level that only an earlier configuration sets stays in force. -/
theorem effective_configureAll_ne :
    let first := withLevels [("a", "DEBUG")]
    let last := withLevels []
    (({} : Setup).configureAll [first, last]).toOption.map (·.loggers.effective (.ofText "a")) = some 10 ∧
      (({} : Setup).configureAll [last]).toOption.map (·.loggers.effective (.ofText "a")) = some 20 := by
  decide +kernel

end JmsNaming.Log.Setup
