import JmsNaming.Log.Setup
import JmsNaming.Proofs.Log.Ancestors
import JmsNaming.Proofs.Settings.Binding
import JmsNaming.Proofs.Text.Case
import JmsNaming.Proofs.Value.Table

/-
Maps from names to words for levels. Every map of well-formed names to words that can be levels is put into force, for
every form of the lines that can be read: the loggers come into use in the order of the map, each with the level of its
word, and the root has the level that the map gives it, or the default.
-/
namespace JmsNaming.Log

open Text

/-! ## Levels by words -/

/-- A word in capitals. -/
def capitalWord (word : String) : String :=
  String.ofList (upper word.toList)

/-- The level of a word, in letters of any case. -/
def wordLevel (word : String) : Nat :=
  (levelOf (capitalWord word)).toOption.getD otherLevel

/-- The word can be a level: it means one or means nothing. -/
def IsLevelWord (word : String) : Prop :=
  capitalWord word ∉ ["BASIC_FORMAT", "_STYLES"]

instance (word : String) : Decidable (IsLevelWord word) :=
  inferInstanceAs (Decidable (_ ∉ _))

variable {word : String}

theorem levelOf_capitalWord (h : IsLevelWord word) : levelOf (capitalWord word) = .ok (wordLevel word) := by
  simp only [IsLevelWord, List.mem_cons, List.not_mem_nil, or_false, not_or] at h
  unfold wordLevel levelOf
  cases levelWords.lookup (capitalWord word) with
  | some n => rfl
  | none =>
    dsimp only
    rw [if_neg h.1, if_neg h.2]
    rfl

theorem lookup_congr {α : Type} {entries : List (String × α)} {u v : String} (h : ∀ e ∈ entries, u = e.1 ↔ v = e.1) :
    entries.lookup u = entries.lookup v := by
  induction entries with
  | nil => rfl
  | cons e entries ih =>
    have hkey : (u == e.1) = (v == e.1) := by
      rw [Bool.eq_iff_iff, beq_iff_eq, beq_iff_eq]
      exact h e List.mem_cons_self
    rw [List.lookup_cons, List.lookup_cons, hkey, ih fun d hd => h d (List.mem_cons_of_mem _ hd)]

/-- It makes no difference to the level of a word whether capitals are taken once or twice. -/
theorem levelOf_capitalWord_capitalWord (word : String) :
    levelOf (capitalWord (capitalWord word)) = levelOf (capitalWord word) := by
  have hsame : ∀ w ∈ levelWords.map Prod.fst ++ ["BASIC_FORMAT", "_STYLES"],
      capitalWord (capitalWord word) = w ↔ capitalWord word = w := by
    intro w hw
    have hascii : ∀ w ∈ levelWords.map Prod.fst ++ ["BASIC_FORMAT", "_STYLES"],
        (w.toList.all fun d => d.toNat < 128) = true := by
      decide
    rw [capitalWord, capitalWord, ← String.toList_inj, ← String.toList_inj, String.toList_ofList, String.toList_ofList]
    exact upper_upper_eq_iff fun d hd => of_decide_eq_true (List.all_eq_true.1 (hascii w hw) d hd)
  have hlookup : levelWords.lookup (capitalWord (capitalWord word)) = levelWords.lookup (capitalWord word) :=
    lookup_congr fun e he => hsame e.1 (List.mem_append_left _ (List.mem_map_of_mem he))
  unfold levelOf
  rw [hlookup]
  simp only [hsame "BASIC_FORMAT" (by decide), hsame "_STYLES" (by decide)]

/-! ## Maps of levels -/

/-- A map from names of segments, or the root's, to words that can be levels. -/
structure IsLevelMap (levels : List (String × String)) : Prop where
  keys : (levels.map Prod.fst).Nodup
  names : ∀ e ∈ levels, WellFormed e.1.toList
  words : ∀ e ∈ levels, IsLevelWord e.2

instance (levels : List (String × String)) : Decidable (IsLevelMap levels) :=
  decidable_of_iff ((levels.map Prod.fst).Nodup ∧ (∀ e ∈ levels, WellFormed e.1.toList) ∧ ∀ e ∈ levels, IsLevelWord e.2)
    ⟨fun ⟨keys, names, words⟩ => ⟨keys, names, words⟩, fun h => ⟨h.keys, h.names, h.words⟩⟩

/-- A map of levels as a table. -/
def levelTable (levels : List (String × String)) : Table :=
  levels.map fun e => (.text e.1, .text e.2)

/-- The names of a map other than the root's, with their levels. -/
def namedLevels (levels : List (String × String)) : List (List Char × Nat) :=
  (levels.filter (·.1 ≠ "root")).map fun e => (e.1.toList, wordLevel e.2)

/-- The word for the level of the root. -/
def rootWord (levels : List (String × String)) : String :=
  (levels.lookup "root").getD defaultRootLevel

/-- The level of the longest name in the map that is a logger's or above it, or else that of the root. -/
def decidingLevel (levels : List (String × String)) (name : String) : Nat :=
  ((nearest? (namedLevels levels) name.toList).map Prod.snd).getD (wordLevel (rootWord levels))

variable {levels : List (String × String)} {name : String}

theorem keys_namedLevels (levels : List (String × String)) :
    (namedLevels levels).map Prod.fst = (levels.filter (·.1 ≠ "root")).map (·.1.toList) := by
  rw [namedLevels, List.map_map]
  rfl

theorem nodup_namedLevels (h : IsLevelMap levels) : ((namedLevels levels).map Prod.fst).Nodup := by
  have hnames : ((levels.filter (·.1 ≠ "root")).map Prod.fst).Nodup := h.keys.sublist (List.filter_sublist.map _)
  rw [keys_namedLevels, show (levels.filter (·.1 ≠ "root")).map (·.1.toList) =
    ((levels.filter (·.1 ≠ "root")).map Prod.fst).map String.toList by rw [List.map_map]; rfl]
  exact hnames.map fun _ _ => String.toList_inj.1

/-- The level that decides does not depend on the order of the map. -/
theorem decidingLevel_perm {levels' : List (String × String)} (hmap : IsLevelMap levels) (h : levels'.Perm levels)
    (name : String) : decidingLevel levels' name = decidingLevel levels name := by
  have hkeys' : (levels'.map Prod.fst).Nodup := (h.map Prod.fst).nodup_iff.2 hmap.keys
  have hroot : levels'.lookup "root" = levels.lookup "root" := by
    refine Option.ext fun word => ?_
    rw [lookup_eq_some_iff_mem hkeys', lookup_eq_some_iff_mem hmap.keys, h.mem_iff]
  have hnamed : (namedLevels levels').Perm (namedLevels levels) := (h.filter _).map _
  rw [decidingLevel, decidingLevel, nearest?_perm (nodup_namedLevels hmap) hnamed, rootWord, rootWord, hroot]

/-! ## Reading a map -/

/-- The word for the form of the lines. -/
def Plan.formatWord (s : Settings) (vars : Variables) : Except Fault String := do
  let stored := ((s.getSection "rmqjms.logging").get? "format").getD (.text "console")
  let format ← (s.get vars "rmqjms.logging.format" stored).mapError .template
  let format ← format.toText.mapError .unwritable
  return String.ofList (lower format.toList)

/-- What is read of a map of levels. -/
def planOf (levels : List (String × String)) (format : String) : Plan :=
  { rootLevel := capitalWord (rootWord levels), format
    levels := (levels.filter (·.1 ≠ "root")).map fun e => (.text e.1, capitalWord e.2) }

theorem bind_logging {s : Settings} (h : (s.getSection "rmqjms.logging").get? "level" = some (.map (levelTable levels))) :
    Schema.logging.bind s = .ok [("level", .map (levelTable levels)),
      ("format", ((s.getSection "rmqjms.logging").get? "format").getD (.text "console"))] := by
  simp only [Schema.bind, Schema.logging, Schema.given, h, Schema.convert_any]
  cases (s.getSection "rmqjms.logging").get? "format" <;> rfl

theorem sameKey_text (key name : String) : (Scalar.text key).sameKey (.text name) = (key == name) := by
  rw [Bool.eq_iff_iff, Scalar.sameKey_text_iff, beq_iff_eq, Scalar.text.injEq]

theorem get?_levelTable (levels : List (String × String)) (name : String) :
    Table.get? (levelTable levels) name = (levels.lookup name).map .text := by
  induction levels with
  | nil => rfl
  | cons e levels ih =>
    rw [Table.get?] at ih ⊢
    rw [levelTable, List.map_cons, Table.find?_cons, sameKey_text, List.lookup_cons, Bool.beq_comm]
    cases name == e.1 with
    | true => rfl
    | false => exact ih

theorem filter_levelTable (levels : List (String × String)) :
    (levelTable levels).filter (fun e => !e.1.sameKey (.text "root")) = levelTable (levels.filter (·.1 ≠ "root")) := by
  rw [levelTable, levelTable, List.filter_map]
  congr 1
  refine List.filter_congr fun e _ => ?_
  by_cases he : e.1 = "root" <;> simp [sameKey_text, he]

theorem mapM_capitals (entries : List (String × String)) :
    ((levelTable entries).mapM fun e => do return (e.1, ← capitals e.2)) =
      .ok (entries.map fun e => (.text e.1, capitalWord e.2)) := by
  induction entries with
  | nil => rfl
  | cons e entries ih =>
    have hcapitals : capitals (.text e.2) = .ok (capitalWord e.2) := rfl
    rw [levelTable, List.map_cons, List.mapM_cons, hcapitals, ← levelTable, ih]
    rfl

/-- A map of levels is read for every form of the lines that has a text. -/
theorem Plan.read_eq {s : Settings} {vars : Variables}
    (h : (s.getSection "rmqjms.logging").get? "level" = some (.map (levelTable levels))) :
    Plan.read s vars = (Plan.formatWord s vars).map (planOf levels) := by
  have hroot : capitals ((Table.get? (levelTable levels) "root").getD (.text defaultRootLevel)) =
      .ok (capitalWord (rootWord levels)) := by
    rw [get?_levelTable, rootWord]
    cases levels.lookup "root" <;> rfl
  have hfields : ∀ format : Value,
      List.lookup "level" [("level", Value.map (levelTable levels)), ("format", format)] =
          some (.map (levelTable levels)) ∧
        List.lookup "format" [("level", Value.map (levelTable levels)), ("format", format)] = some format := by
    intro format
    constructor <;> simp [List.lookup_cons]
  unfold Plan.read Plan.formatWord
  simp only [bind_logging h, mapError_ok, ok_bind, hfields, Option.getD_some, Value.toTable, hroot, filter_levelTable,
    mapM_capitals]
  -- only the form of the lines can still be refused
  cases s.get vars "rmqjms.logging.format" (((s.getSection "rmqjms.logging").get? "format").getD (.text "console")) with
  | error fault => rfl
  | ok format => cases hformat : format.toText with
    | error fault => simp [hformat, Except.mapError, Except.map]
    | ok format => simp [hformat, Except.map, planOf]

/-! ## Putting a map into force -/

namespace Setup

/-- The setup that a map of levels leaves of a fresh one. -/
def configured (levels : List (String × String)) (format : String) : Setup :=
  { loggers := { rootLevel := wordLevel (rootWord levels), named := namedLevels levels }, format := .ofText format }

theorem ne_empty_of_wellFormed {key : String} (h : WellFormed key.toList) : key ≠ "" := by
  rintro rfl
  exact h.ne_nil rfl

theorem ofText_of_wellFormed {key : String} (h : WellFormed key.toList) (hroot : key ≠ "root") :
    LoggerName.ofText key = .named key.toList := by
  have hne : key.toList ≠ LoggerName.rootName := fun h => hroot (String.toList_inj.1 h)
  simp [LoggerName.ofText, ne_empty_of_wellFormed h, hne]

theorem ofText_root : LoggerName.ofText "root" = .root := by
  decide

theorem setLevel_text (s : Setup) {key : String} (hkey : WellFormed key.toList) (hroot : key ≠ "root")
    (h : IsLevelWord word) :
    s.setLevel (.text key) (capitalWord word) =
      (.ok (), { s with loggers := s.loggers.set (wordLevel word) (.named key.toList) }) := by
  have hlevel : levelOf (String.ofList (upper (capitalWord word).toList)) = .ok (wordLevel word) :=
    (levelOf_capitalWord_capitalWord word).trans (levelOf_capitalWord h)
  rw [setLevel, LoggerName.ofScalar?, ofText_of_wellFormed hkey hroot]
  dsimp only
  rw [hlevel]

/-- A logger that is not in use yet comes last. -/
theorem set_of_not_has {l : Loggers} {key : List Char} (h : key ∉ l.named.map Prod.fst) (level : Nat) :
    l.set level (.named key) = { l with named := l.named ++ [(key, level)] } := by
  have hhas : l.has key = false := Bool.eq_false_iff.2 fun hkey => h (Loggers.has_iff.1 hkey)
  have hold : l.named.map (fun e => if e.1 = key then (key, level) else e) = l.named := by
    have hid : ∀ e ∈ l.named, (if e.1 = key then (key, level) else e) = id e := by
      intro e he
      refine if_neg ?_
      rintro rfl
      exact h (List.mem_map_of_mem he)
    rw [List.map_congr_left hid, List.map_id]
  simp [Loggers.set, Loggers.visit, hhas, hold]

/-- New loggers get their levels in the order of the map. -/
theorem setLevels_text (s : Setup) {entries : List (String × String)}
    (hkeys : ∀ e ∈ entries, WellFormed e.1.toList ∧ e.1 ≠ "root") (hwords : ∀ e ∈ entries, IsLevelWord e.2)
    (hnodup : (s.loggers.named.map Prod.fst ++ entries.map (·.1.toList)).Nodup) :
    s.setLevels (entries.map fun e => (.text e.1, capitalWord e.2)) = (.ok (), { s with loggers :=
      { s.loggers with named := s.loggers.named ++ entries.map fun e => (e.1.toList, wordLevel e.2) } }) := by
  induction entries generalizing s with
  | nil => simp [setLevels]
  | cons e entries ih =>
    obtain ⟨⟨hkey, hroot⟩, hkeys⟩ := List.forall_mem_cons.1 hkeys
    obtain ⟨hword, hwords⟩ := List.forall_mem_cons.1 hwords
    have hnew : e.1.toList ∉ s.loggers.named.map Prod.fst := by
      intro hmem
      rw [List.map_cons, List.nodup_append] at hnodup
      exact hnodup.2.2 _ hmem _ List.mem_cons_self rfl
    rw [List.map_cons, setLevels, setLevel_text s hkey hroot hword, set_of_not_has hnew]
    dsimp only
    rw [ih _ hkeys hwords (by simpa using hnodup)]
    simp

/-- Every map of levels can be put into force. -/
theorem configure_eq {settings : Settings} {vars : Variables} {format : String} (hmap : IsLevelMap levels)
    (hlevels : (settings.getSection "rmqjms.logging").get? "level" = some (.map (levelTable levels)))
    (hformat : Plan.formatWord settings vars = .ok format) :
    ({} : Setup).configure settings vars = (.ok (planOf levels format), configured levels format) := by
  have hroot : IsLevelWord (rootWord levels) := by
    rw [rootWord]
    cases hlookup : levels.lookup "root" with
    | none =>
      rw [Option.getD_none]
      decide
    | some word =>
      rw [Option.getD_some]
      exact hmap.words ("root", word) ((lookup_eq_some_iff_mem hmap.keys).1 hlookup)
  have hothers : ∀ e ∈ levels.filter (·.1 ≠ "root"), (WellFormed e.1.toList ∧ e.1 ≠ "root") ∧ IsLevelWord e.2 := by
    intro e he
    obtain ⟨hmem, hne⟩ := List.mem_filter.1 he
    exact ⟨⟨hmap.names e hmem, by simpa using hne⟩, hmap.words e hmem⟩
  have hset := setLevels_text { loggers := { rootLevel := wordLevel (rootWord levels) }, format := .ofText format }
    (fun e he => (hothers e he).1) (fun e he => (hothers e he).2) (keys_namedLevels levels ▸ nodup_namedLevels hmap)
  have happly : ({} : Setup).apply (planOf levels format) = (.ok (), configured levels format) := by
    simp only [apply, planOf, levelOf_capitalWord hroot]
    exact hset
  rw [configure, Plan.read_eq hlevels, hformat]
  simp only [Except.map, happly]

end Setup

end JmsNaming.Log
