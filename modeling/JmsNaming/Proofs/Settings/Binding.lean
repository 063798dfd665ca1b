import JmsNaming.Proofs.Outcome
import JmsNaming.Proofs.Settings.Leaves
import JmsNaming.Proofs.Settings.Path
import JmsNaming.Proofs.Text.Cut
import JmsNaming.Settings.Binding

/-
Binding a section to the fields of a record, beside reading the same values by their keys. A record takes what its section
holds, or else the defaults; a key is read with the variables before the section, and with placeholders expanded. For a
field with a text, the two agree exactly where neither makes a difference.
-/
namespace JmsNaming

/-! ## Records -/

/-- What a field takes from a section: what stands under its name, converted, or else its default. -/
def Field.Takes (f : Field) (t : Table) (v : Value) : Prop :=
  (∃ stored, t.get? f.name = some stored ∧ Schema.convert f.type stored = .ok v) ∨
    t.get? f.name = none ∧ f.default = some v

theorem Field.Takes.unique {f : Field} {t : Table} {v w : Value} (hv : f.Takes t v) (hw : f.Takes t w) : v = w := by
  rcases hv with ⟨stored, hs, hv⟩ | ⟨hs, hv⟩ <;> rcases hw with ⟨stored', hs', hw⟩ | ⟨hs', hw⟩
  · cases hs.symm.trans hs'
    exact Except.ok.inj (hv.symm.trans hw)
  · cases hs.symm.trans hs'
  · cases hs.symm.trans hs'
  · exact Option.some.inj (hv.symm.trans hw)

namespace Schema

variable {schema : Schema} {s : Settings} {t : Table} {fields : List (String × Value)}

theorem convert_any (v : Value) : convert .any v = .ok v := by
  unfold convert
  split <;> rfl

/-- A field with what a section gives for it, and the value that it then has. -/
def bound (p : Field × Option Value) : String × Value :=
  (p.1.name, p.2.getD (p.1.default.getD .null))

/-- There is neither a value for the field nor a default. -/
def lacks (p : Field × Option Value) : Bool :=
  p.2.isNone && p.1.default.isNone

theorem given_cons_eq_ok_iff {f : Field} {rest : List Field} {found : List (Field × Option Value)} :
    given t (f :: rest) = .ok found ↔ ∃ v more, given t rest = .ok more ∧ found = (f, v) :: more ∧
      ((∃ stored w, t.get? f.name = some stored ∧ convert f.type stored = .ok w ∧ v = some w) ∨
        t.get? f.name = none ∧ v = none) := by
  rw [given]
  cases t.get? f.name with
  | none =>
    rw [map_eq_ok_iff]
    constructor
    · rintro ⟨more, hmore, rfl⟩
      exact ⟨none, more, hmore, rfl, .inr ⟨rfl, rfl⟩⟩
    · rintro ⟨v, more, hmore, rfl, ⟨_, _, ⟨⟩, -⟩ | ⟨-, rfl⟩⟩
      exact ⟨more, hmore, rfl⟩
  | some stored =>
    dsimp only
    cases hconvert : convert f.type stored with
    | error fault =>
      refine iff_of_false nofun ?_
      rintro ⟨v, more, -, -, ⟨_, w, ⟨⟩, hw, -⟩ | ⟨⟨⟩, -⟩⟩
      cases hconvert.symm.trans hw
    | ok w =>
      rw [map_eq_ok_iff]
      constructor
      · rintro ⟨more, hmore, rfl⟩
        exact ⟨some w, more, hmore, rfl, .inl ⟨stored, w, rfl, hconvert, rfl⟩⟩
      · rintro ⟨v, more, hmore, rfl, ⟨_, w', ⟨⟩, hw, rfl⟩ | ⟨⟨⟩, -⟩⟩
        cases hconvert.symm.trans hw
        exact ⟨more, hmore, rfl⟩

theorem exists_given_iff {fs : List Field} : (∃ found, given t fs = .ok found ∧ (∀ p ∈ found, lacks p = false) ∧
    fields = found.map bound) ↔ List.Forall₂ (fun f e => e.1 = f.name ∧ f.Takes t e.2) fs fields := by
  induction fs generalizing fields with
  | nil => simp [given]
  | cons f rest ih =>
    simp only [List.forall₂_cons_left_iff, ← ih, given_cons_eq_ok_iff]
    constructor
    · rintro ⟨_, ⟨v, more, hmore, rfl, hv⟩, hlacks, rfl⟩
      obtain ⟨hf, hrest⟩ := List.forall_mem_cons.1 hlacks
      refine ⟨bound (f, v), more.map bound, ⟨rfl, ?_⟩, ⟨more, hmore, hrest, rfl⟩, rfl⟩
      rcases hv with ⟨stored, w, hs, hw, rfl⟩ | ⟨hs, rfl⟩
      · exact Or.inl ⟨stored, hs, hw⟩
      · obtain ⟨default, hdefault⟩ : ∃ default, f.default = some default := by
          simpa [lacks, Option.isSome_iff_exists] using hf
        exact Or.inr ⟨hs, by simp [bound, hdefault]⟩
    · rintro ⟨⟨name, v⟩, _, ⟨rfl, htakes⟩, ⟨more, hmore, hlacks, rfl⟩, rfl⟩
      rcases htakes with ⟨stored, hs, hw⟩ | ⟨hs, hdefault⟩
      · exact ⟨(f, some v) :: more, ⟨_, more, hmore, rfl, .inl ⟨stored, v, hs, hw, rfl⟩⟩,
          List.forall_mem_cons.2 ⟨rfl, hlacks⟩, rfl⟩
      · exact ⟨(f, none) :: more, ⟨_, more, hmore, rfl, .inr ⟨hs, rfl⟩⟩,
          List.forall_mem_cons.2 ⟨by simp [lacks, hdefault], hlacks⟩, by simp [bound, hdefault]⟩

/-- A record is bound exactly if it has a section and each field takes a value from it. -/
theorem bind_eq_ok_iff : schema.bind s = .ok fields ↔ ∃ key, schema.key = some key ∧
    List.Forall₂ (fun f e => e.1 = f.name ∧ f.Takes (s.getSection key) e.2) schema.fields fields := by
  unfold bind
  cases schema.key with
  | none => simp
  | some key =>
    simp only [Option.some.injEq, exists_eq_left', ← exists_given_iff]
    cases given (s.getSection key) schema.fields with
    | error fault => simp
    | ok found =>
      have hmissing : (found.filter fun p => p.2.isNone && p.1.default.isNone).isEmpty = true ↔
          ∀ p ∈ found, lacks p = false := by
        simp [lacks, Option.isSome_iff_ne_none]
      have hvalues : (found.map fun p => (p.1.name, p.2.getD (p.1.default.getD .null))) = found.map bound := rfl
      simp only [Except.ok.injEq, exists_eq_left', ← hmissing]
      split
      · rename_i hempty
        simp [hempty, hvalues, eq_comm]
      · rename_i hempty
        simp [hempty]

/-! ## One field -/

section Field

variable {f : Field} {key name default : String} {v : Value}

theorem exists_fields_iff {fs : List Field} : (∃ fields : List (String × Value),
    List.Forall₂ (fun f e => e.1 = f.name ∧ f.Takes t e.2) fs fields) ↔ ∀ f ∈ fs, ∃ w, f.Takes t w := by
  simp [exists_forall₂_iff]

theorem exists_lookup {fs : List Field} (h : List.Forall₂ (fun f e => e.1 = f.name ∧ f.Takes t e.2) fs fields)
    (hnames : (fs.map Field.name).Nodup) (hf : f ∈ fs) : ∃ w, fields.lookup f.name = some w ∧ f.Takes t w := by
  induction h with
  | nil => cases hf
  | @cons g e rest fields hhead _ ih =>
    obtain ⟨hname, htakes⟩ := hhead
    rw [List.map_cons, List.nodup_cons] at hnames
    rcases List.mem_cons.1 hf with rfl | hf
    · exact ⟨e.2, by rw [List.lookup_cons, hname, beq_self_eq_true], htakes⟩
    · have hne : (f.name == e.1) = false := by
        rw [hname, beq_eq_false_iff_ne]
        exact fun heq => hnames.1 (heq ▸ List.mem_map_of_mem hf)
      obtain ⟨w, hw, htakes⟩ := ih hnames.2 hf
      exact ⟨w, by rw [List.lookup_cons, hne, hw], htakes⟩

/-- A record is bound with a value for a field exactly if every field takes a value, and this one takes that. -/
theorem exists_bind_lookup_iff (hkey : schema.key = some key) (hnames : (schema.fields.map Field.name).Nodup)
    (hf : f ∈ schema.fields) : (∃ fields, schema.bind s = .ok fields ∧ fields.lookup f.name = some v) ↔
      (∀ g ∈ schema.fields, ∃ w, g.Takes (s.getSection key) w) ∧ f.Takes (s.getSection key) v := by
  simp only [bind_eq_ok_iff, hkey, Option.some.injEq, exists_eq_left']
  constructor
  · rintro ⟨fields, hfields, hv⟩
    obtain ⟨w, hw, htakes⟩ := exists_lookup hfields hnames hf
    cases hv.symm.trans hw
    exact ⟨exists_fields_iff.1 ⟨fields, hfields⟩, htakes⟩
  · rintro ⟨hall, htakes⟩
    obtain ⟨fields, hfields⟩ := exists_fields_iff.2 hall
    obtain ⟨w, hw, htakes'⟩ := exists_lookup hfields hnames hf
    exact ⟨fields, hfields, by rw [hw, htakes'.unique htakes]⟩

end Field

end Schema

/-! ## Binding beside reading by key -/

section Reading

variable {schema : Schema} {s : Settings} {vars : Variables} {key name default : String} {v : Value}

/-- The text of a field in the section under a key, or else the default. -/
def Settings.textUnder (s : Settings) (key name default : String) : String :=
  (((s.getSection key).get? name).bind Value.text?).getD default

/-- The section holds nothing but a text for the field, if anything. -/
theorem Field.takes_text_iff
    (hstored : ∀ stored, (s.getSection key).get? name = some stored → ∃ text, stored = .text text) :
    Field.Takes { name, default := some (.text default) } (s.getSection key) v ↔
      v = .text (s.textUnder key name default) := by
  unfold Field.Takes Settings.textUnder
  cases hfind : (s.getSection key).get? name with
  | none => simp [eq_comm]
  | some stored =>
    obtain ⟨text, rfl⟩ := hstored stored hfind
    simp [Schema.convert, Value.text?, eq_comm]

/-- A field is read by its key as the variable of the key, or else as its expanded text or the default. -/
theorem Settings.get_field (hname : '.' ∉ name.toList)
    (hstored : ∀ stored, (s.getSection key).get? name = some stored → ∃ text, stored = .text text) :
    s.get vars (key ++ "." ++ name) (.text default) =
      match vars.get? (variableName (key ++ "." ++ name)), (s.getSection key).get? name with
      | some value, _ => .ok (.text value)
      | none, some (.scalar (.text text)) => (Template.expand s.root vars text).map .text
      | none, _ => .ok (.text default) := by
  rw [Settings.get]
  cases vars.get? (variableName (key ++ "." ++ name)) with
  | some value => rfl
  | none =>
    have hsection : Tree.sectionAt s.root (Text.segments key) = s.getSection key := rfl
    rw [Text.segments_append key hname, Tree.valueAt?_concat, hsection]
    cases hfind : (s.getSection key).get? name with
    | none => rfl
    | some stored =>
      obtain ⟨text, rfl⟩ := hstored stored hfind
      exact congrArg (Except.map Value.text) (Template.resolveText_eq_expand s.root vars text)

/-- A record has a field that takes any value and has a text as its default, its section holds nothing but a text for it,
if anything, and reading it by its key gives a value. Then binding gives the field that value exactly if every field of
the record takes a value, a variable of the key has the very text that is bound, and without one the text of the section
is its own expansion. -/
theorem bind_eq_get_iff (hkey : schema.key = some key)
    (hfield : { name, default := some (.text default) } ∈ schema.fields)
    (hnames : (schema.fields.map Field.name).Nodup) (hname : '.' ∉ name.toList)
    (hstored : ∀ stored, (s.getSection key).get? name = some stored → ∃ text, stored = .text text)
    (hget : s.get vars (key ++ "." ++ name) (.text default) = .ok v) :
    (∃ fields, schema.bind s = .ok fields ∧ fields.lookup name = some v) ↔
      (∀ f ∈ schema.fields, ∃ w, f.Takes (s.getSection key) w) ∧
        (∀ value, vars.get? (Settings.variableName (key ++ "." ++ name)) = some value →
          value = s.textUnder key name default) ∧
        (vars.get? (Settings.variableName (key ++ "." ++ name)) = none → ∀ text,
          (s.getSection key).get? name = some (.text text) → Template.expand s.root vars text = .ok text) := by
  rw [Schema.exists_bind_lookup_iff hkey hnames hfield, Field.takes_text_iff hstored]
  refine and_congr_right fun _ => ?_
  -- what is read by the key is compared with the text that is bound, with and without a variable
  rw [Settings.get_field hname hstored] at hget
  unfold Settings.textUnder
  cases hvar : vars.get? (Settings.variableName (key ++ "." ++ name)) with
  | some value =>
    rw [hvar] at hget
    cases hget
    simp
  | none =>
    rw [hvar] at hget
    cases hfind : (s.getSection key).get? name with
    | none =>
      rw [hfind] at hget
      cases hget
      simp
    | some stored =>
      obtain ⟨text, rfl⟩ := hstored stored hfind
      rw [hfind] at hget
      obtain ⟨out, hout, rfl⟩ := map_eq_ok_iff.1 hget
      simp [Value.text?, hout]

/-- The format of the log lines stands in the file, and a variable has the same text. -/
theorem bind_eq_get_format :
    let s : Settings :=
      { root := .map [(.text "rmqjms", .map [(.text "logging", .map [(.text "format", .text "json")])])] }
    s.get [("RMQJMS_LOGGING_FORMAT", "json")] "rmqjms.logging.format" (.text "console") = .ok (.text "json") ∧
      ∃ fields, Schema.logging.bind s = .ok fields ∧ fields.lookup "format" = some (.text "json") := by
  intro s
  have hget : s.get [("RMQJMS_LOGGING_FORMAT", "json")] ("rmqjms.logging" ++ "." ++ "format") (.text "console") =
      .ok (.text "json") := by decide
  have hsection : s.getSection "rmqjms.logging" = [(.text "format", .text "json")] := by decide
  have hfind : (s.getSection "rmqjms.logging").get? "format" = some (.text "json") := by rw [hsection]; decide
  have hlevel : (s.getSection "rmqjms.logging").get? "level" = none := by rw [hsection]; decide
  refine ⟨hget, (bind_eq_get_iff rfl (by simp [Schema.logging]) (by decide) (by decide) ?_ hget).2
    ⟨?_, ?_, ?_⟩⟩
  · intro stored hstored
    exact ⟨"json", Option.some.inj (hstored.symm.trans hfind)⟩
  · rintro f hf
    simp only [Schema.logging, List.mem_cons, List.not_mem_nil, or_false] at hf
    rcases hf with rfl | rfl
    · exact ⟨_, Or.inr ⟨hlevel, rfl⟩⟩
    · exact ⟨_, Or.inl ⟨_, hfind, rfl⟩⟩
  · intro value hvalue
    have hvar : Variables.get? [("RMQJMS_LOGGING_FORMAT", "json")]
        (Settings.variableName ("rmqjms.logging" ++ "." ++ "format")) = some "json" := by decide
    rw [← Option.some.inj (hvar.symm.trans hvalue)]
    decide
  · intro hnone
    exact absurd hnone (by decide)

/-- A variable of the key, or a placeholder in the section, is read by the key and not bound. -/
theorem bind_ne_get :
    let stored (format : String) : Settings :=
      { root := .map [(.text "rmqjms", .map [(.text "logging", .map [(.text "format", .text format)])])] }
    let bound (format : String) := Schema.logging.bind (stored format) |>.toOption.bind (·.lookup "format")
    (stored "console").get [("RMQJMS_LOGGING_FORMAT", "json")] "rmqjms.logging.format" (.text "console") =
        .ok (.text "json") ∧
      bound "console" = some (.text "console") ∧
      (stored "$\x7bFORMAT:json\x7d").get [] "rmqjms.logging.format" (.text "console") = .ok (.text "json") ∧
      bound "$\x7bFORMAT:json\x7d" = some (.text "$\x7bFORMAT:json\x7d") := by
  decide +kernel

end Reading

end JmsNaming
