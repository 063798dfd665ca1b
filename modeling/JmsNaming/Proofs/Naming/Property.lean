import JmsNaming.Naming.Resolve
import JmsNaming.Proofs.Number.Decimal
import JmsNaming.Proofs.Outcome
import JmsNaming.Proofs.Text.Case
import Mathlib.Data.Bool.AllAny

/-
The properties of a source: the text that each one has, the values read from it, and the one fault
that a whole-number property can have.
-/
namespace JmsNaming.Source

variable {s t : Source} {name : String}

/-! ## Texts -/

/-- Every entry has content that can be written as text. -/
def Textual (s : Source) : Prop :=
  ∀ name v, s.entry? name = some v → v.isWritable = true

/-- The text of a property, if there is an entry with content. -/
def property? (s : Source) (name : String) : Option String :=
  match s.entry? name with
  | some v => if v.isNull then none else some v.plain
  | none => none

/-- Content that can be had at all is the text of the property. -/
theorem content_eq_ok {c : Option String} (h : s.content name = .ok c) : s.content name = .ok (s.property? name) := by
  unfold content at h ⊢
  unfold property?
  cases he : s.entry? name with
  | none => rfl
  | some v =>
    simp only [he, Value.toText] at h ⊢
    by_cases hn : v.isNull = true
    · rw [if_pos hn, if_pos hn]
    · rw [if_neg hn] at h
      by_cases hw : v.isWritable = true
      · rw [if_neg hn, if_neg hn, if_pos hw]
        rfl
      · rw [if_neg hw] at h
        cases h

/-- The entry of a name, if there is one, has content that can be written as text. -/
def HasText (s : Source) (name : String) : Prop :=
  ∀ v, s.entry? name = some v → v.isWritable = true

theorem HasText.content_eq (h : s.HasText name) : s.content name = .ok (s.property? name) := by
  have hc : ∃ c, s.content name = .ok c := by
    unfold content
    cases he : s.entry? name with
    | none => exact ⟨none, rfl⟩
    | some v =>
      simp only [Value.toText, if_pos (h v he)]
      split
      · exact ⟨none, rfl⟩
      · exact ⟨some v.plain, rfl⟩
  obtain ⟨c, hc⟩ := hc
  exact content_eq_ok hc

/-- Content without a text is not null, and so it is asked for its text. -/
theorem content_eq_error (h : ¬s.HasText name) : s.content name = .error .digits := by
  unfold HasText at h
  push Not at h
  obtain ⟨v, he, hv⟩ := h
  have hnull : v.isNull = false := by
    rw [Bool.eq_false_iff]
    intro hn
    unfold Value.isNull at hn
    split at hn
    · exact hv rfl
    · cases hn
  unfold content
  simp only [he, hnull, Value.toText, if_neg hv]
  rfl

theorem Textual.hasText (h : s.Textual) (name : String) : s.HasText name :=
  h name

theorem Textual.content_eq (h : s.Textual) (name : String) : s.content name = .ok (s.property? name) :=
  (h.hasText name).content_eq

theorem textual_reference {r : Reference} (h : ∀ a ∈ r.addrs, a.content.isWritable = true) :
    (Source.reference r).Textual := by
  intro name v hv
  unfold entry? Reference.get? at hv
  obtain ⟨a, ha, rfl⟩ := Option.map_eq_some_iff.1 hv
  exact h a (List.mem_of_find?_eq_some ha)

theorem content_congr (h : s.entry? name = t.entry? name) : s.content name = t.content name := by
  unfold content
  rw [h]

theorem property_congr (h : s.entry? name = t.entry? name) : s.property? name = t.property? name := by
  unfold property?
  rw [h]

/-! ## Values -/

/-- The truth value of a property that has content, and the default otherwise. -/
def flag (s : Source) (name : String) (default : Bool) : Bool :=
  ((s.property? name).map isTrue).getD default

/-- The text is the word for truth in ASCII letters of either case. -/
def SpellsTrue (text : String) : Prop :=
  text.toList.map Char.toLower = ['t', 'r', 'u', 'e']

theorem isTrue_iff {text : String} : isTrue text = true ↔ SpellsTrue text := by
  have hword : Text.IsPlainWord ['t', 'r', 'u', 'e'] := List.all_iff_forall_prop.1 (by decide)
  rw [isTrue, beq_iff_eq, Text.lower_eq_iff hword]
  rfl

/-- The property has content, and it is the word for truth. -/
def Says (s : Source) (name : String) : Prop :=
  ∃ text, s.property? name = some text ∧ SpellsTrue text

theorem flag_false_iff : s.flag name false = true ↔ s.Says name := by
  unfold flag Says
  cases s.property? name with
  | none => simp
  | some text => simp [isTrue_iff]

theorem flag_true_iff : s.flag name true = true ↔ s.property? name = none ∨ s.Says name := by
  unfold flag Says
  cases s.property? name with
  | none => simp
  | some text => simp [isTrue_iff]

theorem flag_congr (h : s.entry? name = t.entry? name) (default : Bool) : s.flag name default = t.flag name default := by
  unfold flag
  rw [property_congr h]

/-- The number of a property that has content, and the default otherwise. -/
def number (s : Source) (name : String) (default : Int) : Int :=
  ((s.property? name).map Number.decimalValue).getD default

/-- A property is a number of its type, or has no content. -/
def HasNumber (s : Source) (p : String × NumberKind) : Prop :=
  ∀ raw, s.property? p.1 = some raw → Number.IsDecimal p.2.least p.2.greatest raw

/-- The failure of reading a property as a number of its type. -/
def numberError? (s : Source) (p : String × NumberKind) : Option NamingError :=
  match s.property? p.1 with
  | none => none
  | some raw =>
    match Number.readDecimal p.2.least p.2.greatest raw with
    | .ok _ => none
    | .error fault => some (.invalidNumber p.1 raw p.2 fault)

theorem hasNumber_iff {p : String × NumberKind} : s.HasNumber p ↔ s.numberError? p = none := by
  unfold HasNumber numberError?
  cases s.property? p.1 with
  | none => simp
  | some raw =>
    dsimp only
    cases hr : Number.readDecimal p.2.least p.2.greatest raw with
    | ok n => simp [(Number.readDecimal_eq_ok_iff.1 hr).1]
    | error fault =>
      have hn : ¬Number.IsDecimal p.2.least p.2.greatest raw := fun hd => by
        rw [Number.readDecimal_eq_ok_iff.2 ⟨hd, rfl⟩] at hr
        cases hr
      simp [hn]

/-- The failure names the property, its text and its type. -/
theorem numberError?_eq_some {p : String × NumberKind} {e : NamingError} (h : s.numberError? p = some e) :
    ∃ raw fault, s.property? p.1 = some raw ∧ ¬Number.IsDecimal p.2.least p.2.greatest raw ∧
      e = .invalidNumber p.1 raw p.2 fault := by
  have hn : ¬s.HasNumber p := fun hn => by
    rw [hasNumber_iff.1 hn] at h
    cases h
  unfold numberError? at h
  split at h
  · cases h
  · rename_i raw hraw
    split at h
    · cases h
    · rename_i fault _
      refine ⟨raw, fault, hraw, fun hd => hn ?_, (Option.some.inj h).symm⟩
      intro raw' hraw'
      rw [hraw] at hraw'
      cases hraw'
      exact hd

/-! ## Typed reading -/

variable {c : Option String}

theorem read_congr (h : s.entry? name = t.entry? name) (required : Bool) :
    s.read name required = t.read name required := by
  unfold read contains
  rw [h, content_congr h]

theorem readText_congr (h : s.entry? name = t.entry? name) (required : Bool) (default : Option String) :
    s.readText name required default = t.readText name required default := by
  unfold readText
  rw [read_congr h]

theorem readBool_congr (h : s.entry? name = t.entry? name) (required default : Bool) :
    s.readBool name required default = t.readBool name required default := by
  unfold readBool
  rw [read_congr h]

theorem readNumber_congr (h : s.entry? name = t.entry? name) (kind : NumberKind) (required : Bool) (default : Int) :
    s.readNumber kind name required default = t.readNumber kind name required default := by
  unfold readNumber
  rw [read_congr h]

theorem read_of_content {text : String} (h : s.content name = .ok (some text)) (required : Bool) :
    s.read name required = .ok (some text) := by
  have hentry : s.contains name = true := by
    unfold contains
    cases he : s.entry? name with
    | none =>
      unfold content at h
      rw [he] at h
      cases h
    | some v => rfl
  simp [read, hentry, h]

theorem read_optional (h : s.content name = .ok c) : s.read name false = .ok c := by
  cases c <;> simp [read, h]

theorem read_optional_error {fault : Number.Unwritable} (h : s.content name = .error fault) :
    s.read name false = .error (.unwritable fault) := by
  simp [read, h]

theorem readBool_optional (h : s.content name = .ok (s.property? name)) (default : Bool) :
    s.readBool name false default = .ok (s.flag name default) := by
  unfold readBool flag
  rw [read_optional h]
  cases s.property? name <;> rfl

theorem readNumber_optional (h : s.content name = .ok (s.property? name)) (kind : NumberKind) (default : Int) :
    s.readNumber kind name false default =
      match s.numberError? (name, kind) with
      | some e => .error (.naming e)
      | none => .ok (s.number name default) := by
  unfold readNumber numberError? number
  rw [read_optional h]
  cases s.property? name with
  | none => rfl
  | some raw =>
    simp only [ok_bind]
    cases hr : Number.readDecimal kind.least kind.greatest raw with
    | error fault => rfl
    | ok n =>
      rw [(Number.readDecimal_eq_ok_iff.1 hr).2]
      rfl

/-- A required text is absent, has no text, is null, or is what the entry says. -/
theorem readText_required_cases (s : Source) (name : String) :
    (s.entry? name = none ∧ s.readText name true none = .error (.naming (.missingProperty name))) ∨
      (∃ fault, s.content name = .error fault ∧ s.readText name true none = .error (.unwritable fault)) ∨
      ∃ v, s.entry? name = some v ∧
        if v.isNull then s.readText name true none = .error (.naming (.emptyProperty name))
        else s.readText name true none = .ok (some v.plain) := by
  unfold readText read contains
  cases he : s.entry? name with
  | none => exact .inl ⟨rfl, by simp⟩
  | some v =>
    cases hc : s.content name with
    | error fault => exact .inr (.inl ⟨fault, rfl, by simp⟩)
    | ok c =>
      have hproperty : s.property? name = c := Except.ok.inj ((content_eq_ok hc).symm.trans hc)
      have hv : (if v.isNull then none else some v.plain) = c := by
        rw [← hproperty, property?, he]
      refine .inr (.inr ⟨v, rfl, ?_⟩)
      split at hv
      · rw [if_pos ‹_›, ← hv]
        simp
      · rw [if_neg ‹_›, ← hv]
        simp

/-! ## Class names -/

theorem className_of_requireClassName {className : String} (h : s.requireClassName = .ok className) :
    s.className = .ok (some className) := by
  unfold requireClassName at h
  split at h
  · cases h
  · rename_i c hc
    split at h
    · cases h
    · rw [hc, Except.ok.inj h]
  · cases h

end JmsNaming.Source
