import JmsNaming.Log.Setup
import JmsNaming.Proofs.Outcome
import JmsNaming.Proofs.Value.Table

/-
Events that always have a text: none of their fields stands for a record, a stack or an exception, and every value has a
text.
-/
namespace JmsNaming

theorem Value.isWritable_optional (s : Option String) : (Value.optional s).isWritable = true := by
  cases s <;> rfl

namespace Log

/-- The fields that an event gives a meaning of their own. -/
def specialFields : List String :=
  ["_record", "stack", "exception", "timestamp"]

/-- The event has none of these fields, and every field has a text. -/
def Event.IsPlain (e : Event) : Prop :=
  ∀ f ∈ e.fields, f.1 ∉ specialFields ∧ f.2.isWritable = true

variable {e : Event}

/-- The entries of such an event have texts for keys, none of them a special one, and values with a text. -/
theorem exists_entries (h : e.IsPlain) (logger : String) : ∃ entries, e.entries logger = .ok entries ∧
    ∀ entry ∈ entries, (∃ name, entry.1 = .text name ∧ name ∉ specialFields) ∧ entry.2.isWritable = true := by
  have hrecord : e.fields.filter (·.1 == "_record") = [] := by
    refine List.filter_eq_nil_iff.2 fun f hf heq => (h f hf).1 ?_
    rw [beq_iff_eq.1 heq]
    exact List.mem_cons_self
  refine ⟨_, by rw [Event.entries, hrecord]; rfl, fun entry hentry => ?_⟩
  refine Table.forall_mem_ofEntries (P := fun k => ∃ name, k = .text name ∧ name ∉ specialFields)
    (Q := fun v => v.isWritable = true) ?_ entry (List.mem_filter.1 hentry).1
  refine List.forall_mem_append.2 ⟨List.forall_mem_map.2 fun f hf => ⟨⟨f.1, rfl, (h f hf).1⟩, (h f hf).2⟩, ?_⟩
  simp only [List.forall_mem_cons, List.not_mem_nil, false_implies, implies_true, and_true]
  exact ⟨⟨⟨_, rfl, by decide⟩, rfl⟩, ⟨⟨_, rfl, by decide⟩, rfl⟩, ⟨_, rfl, by decide⟩, rfl⟩

theorem get?_special {entries : Table} (h : ∀ entry ∈ entries, ∃ name, entry.1 = .text name ∧ name ∉ specialFields)
    {name : String} (hname : name ∈ specialFields) : entries.get? name = none := by
  refine Table.find?_eq_none fun entry hentry => ?_
  obtain ⟨other, hother, hspecial⟩ := h entry hentry
  have hne : other ≠ name := fun heq => hspecial (heq ▸ hname)
  simp [hother, Scalar.sameKey, Scalar.key, hne]

/-- The line of some entries in a form. -/
def lineOf (format : Format) (entries : Table) : String :=
  match format with
  | .json => Json.line (.map entries)
  | .console => String.intercalate " " (leadingTexts entries ++ fieldTexts entries)

/-- The text of such an event is one line, and maybe the last line of an exception. -/
theorem text_of_isPlain (h : e.IsPlain) (format : Format) (logger : String) : ∃ entries, e.entries logger = .ok entries ∧
    entries.get? "timestamp" = none ∧
    e.text format logger = .ok (lineOf format entries ++ if e.asException then exceptionLine else "") := by
  obtain ⟨entries, heq, hentries⟩ := exists_entries h logger
  have hwritable : Value.haveWritable entries = true := by
    refine Value.haveWritable_iff.2 fun entry hentry => ⟨?_, (hentries entry hentry).2⟩
    obtain ⟨⟨name, hname, -⟩, -⟩ := hentries entry hentry
    rw [hname]
    rfl
  have hkeys := fun entry hentry => (hentries entry hentry).1
  have hstack : entries.get? "stack" = none := get?_special hkeys (by decide)
  have hexception : entries.get? "exception" = none := get?_special hkeys (by decide)
  have htrailing : trailingText entries = .ok "" := by
    simp [trailingText, hstack, hexception, ownLine, Value.isNull]
  refine ⟨entries, heq, get?_special hkeys (by decide), ?_⟩
  cases format <;> simp [Event.text, heq, hwritable, htrailing, lineOf]

/-- Such an event has a text in each form, whatever its logger. -/
theorem exists_text (h : e.IsPlain) (format : Format) (logger : String) : ∃ text, e.text format logger = .ok text := by
  obtain ⟨entries, -, -, htext⟩ := text_of_isPlain h format logger
  exact ⟨_, htext⟩

/-! ## How a line begins -/

/-- The severity is among the entries, whatever the fields are. -/
theorem get?_level {entries : Table} {logger : String} (h : e.entries logger = .ok entries) :
    entries.get? "level" = some (.text e.severity.text) := by
  have hlast : ∀ t : Table, Table.get? (Table.ofEntries (t ++ [(.text "level", .text e.severity.text)])) "level" =
      some (.text e.severity.text) := by
    intro t
    have hsame : (Scalar.text "level").sameKey (.text "level") = true := by decide
    rw [Table.ofEntries, List.foldl_append, List.foldl_cons, List.foldl_nil, Table.get?, Table.find?_put, if_pos hsame]
  have hkept : ∀ t : Table, ∀ e ∈ t, e.1.sameKey (.text "level") = true → decide (e.1 ≠ .text stackRequest) = true := by
    rintro t ⟨key, v⟩ - hsame
    refine decide_eq_true fun hrequest => ?_
    simp only at hsame hrequest
    rw [hrequest] at hsame
    exact absurd hsame (by decide)
  unfold Event.entries at h
  dsimp only at h
  split at h
  · cases h
    have hput := hlast ((e.fields.map fun f => (.text f.1, f.2)) ++
      [(.text "event", .text e.name), (.text "logger", .text logger)])
    rw [List.append_assoc] at hput
    rw [Table.get?, Table.find?_filter (hkept _)]
    exact hput
  · cases h

theorem head?_line (entries : Table) : (Json.line (.map entries)).toList.head? = some '\x7b' := by
  rw [Json.line, String.toList_ofList]
  cases entries with
  | nil => rfl
  | cons entry entries => simp [Json.write]

/-- The severity leads the columns, unless there is a time. -/
theorem exists_leadingTexts {entries : Table} {severity : String} (htime : entries.get? "timestamp" = none)
    (hlevel : entries.get? "level" = some (.text severity)) :
    ∃ more, leadingTexts entries = ("[" ++ padded 9 severity ++ "]") :: more := by
  simp only [leadingTexts, leadingColumns, List.filterMap_cons, htime, hlevel, Option.map_none, Option.map_some,
    Value.plain, Scalar.plain]
  exact ⟨_, List.filter_cons_of_pos (by simp)⟩

/-- In each form the line of an event begins with a bracket or a brace. -/
theorem head?_text {format : Format} {logger text : String} (h : e.IsPlain) (htext : e.text format logger = .ok text) :
    text.toList.head? = some '[' ∨ text.toList.head? = some '\x7b' := by
  obtain ⟨entries, heq, htime, hline⟩ := text_of_isPlain h format logger
  cases htext.symm.trans hline
  rw [String.toList_append]
  cases format with
  | json =>
    obtain ⟨rest, hrest⟩ := List.head?_eq_some_iff.1 (head?_line entries)
    exact .inr (by simp [lineOf, hrest])
  | console =>
    obtain ⟨more, hmore⟩ := exists_leadingTexts htime (get?_level heq)
    exact .inl (by simp [lineOf, hmore])

/-- So does what such events write, if they write anything. -/
theorem head?_logAll {events : List Event} (h : ∀ e ∈ events, e.IsPlain) (setup : Setup) (logger : LoggerName) :
    setup.logAll logger events = "" ∨ (setup.logAll logger events).toList.head? = some '[' ∨
      (setup.logAll logger events).toList.head? = some '\x7b' := by
  induction events generalizing setup with
  | nil => exact .inl rfl
  | cons e events ih =>
    obtain ⟨he, hevents⟩ := List.forall_mem_cons.1 h
    obtain ⟨text, htext⟩ := exists_text he setup.format logger.text
    rw [Setup.logAll, Setup.log, htext]
    dsimp only [Except.map]
    split
    · -- the event is written, and its line comes first
      refine .inr ((head?_text he htext).imp (fun hhead => ?_) fun hhead => ?_) <;>
        · obtain ⟨rest, hrest⟩ := List.head?_eq_some_iff.1 hhead
          simp [hrest]
    · simpa using ih hevents _

end Log

end JmsNaming
