import JmsNaming.Proofs.Naming.Property

/-
Whole-number properties. A property that has a text is read as the number that the text denotes if the number has
room in the type, and every other text fails with the name, the text and the cause. Neither the default nor whether
the property is required matters to it.
-/
namespace JmsNaming

/-! ## The bounds of the types -/

/-- The width of a type of numbers, which are in two's complement. -/
def NumberKind.bits : NumberKind → Nat
  | integer => 32
  | long => 64

/-- The numbers of a type. -/
def NumberKind.Holds (kind : NumberKind) (n : Int) : Prop :=
  -(Nat.pow 2 (kind.bits - 1) : Int) ≤ n ∧ n ≤ (Nat.pow 2 (kind.bits - 1) : Int) - 1

theorem NumberKind.holds_iff {kind : NumberKind} {n : Int} : kind.Holds n ↔ kind.least ≤ n ∧ n ≤ kind.greatest := by
  cases kind <;> rfl

theorem NumberKind.Holds.widen {n : Int} (h : integer.Holds n) : long.Holds n := by
  rw [holds_iff] at h ⊢
  simp only [least, greatest] at h ⊢
  omega

/-- The decimal text of a number of a type is far below the limit of digits. -/
theorem NumberKind.Holds.length_toDigits_le {kind : NumberKind} {n : Int} (h : kind.Holds n) :
    (Nat.toDigits 10 n.natAbs).length ≤ 19 := by
  have hlong : long.Holds n := by
    cases kind with
    | integer => exact h.widen
    | long => exact h
  rw [holds_iff] at hlong
  simp only [least, greatest] at hlong
  exact (Nat.length_toDigits_le_iff (by decide) (by decide)).2 (by omega)

namespace Source

variable {s : Source} {name text : String}

/-! ## Reading a text -/

theorem readNumber_of_content (h : s.content name = .ok (some text)) (kind : NumberKind) (required : Bool)
    (default : Int) :
    s.readNumber kind name required default =
      match Number.readDecimal kind.least kind.greatest text with
      | .ok n => .ok n
      | .error fault => .error (.naming (.invalidNumber name text kind fault)) := by
  unfold readNumber
  rw [read_of_content h, ok_bind]
  rfl

theorem readNumber_eq_ok_iff_denotes (h : s.content name = .ok (some text)) {kind : NumberKind} {required : Bool}
    {default n : Int} :
    s.readNumber kind name required default = .ok n ↔ Number.Denotes text.toList n ∧ kind.Holds n := by
  rw [readNumber_of_content h, NumberKind.holds_iff, ← Number.readDecimal_eq_ok_iff_denotes]
  cases Number.readDecimal kind.least kind.greatest text <;> simp

/-- A text is read as the number it denotes if that is a number of the type. Every other text fails, with the name of
the property and the text in the report and with a fault of the number as the cause. So a text that is a number of the
narrow type is the same number of the wide one, and every text of a number of the type is read as that number: the plain
one, and up to the limit of digits those with a plus sign or zeros in front. -/
theorem readNumber_exact (h : s.content name = .ok (some text)) (kind : NumberKind) (required : Bool) (default : Int) :
    (∀ n, s.readNumber kind name required default = .ok n ↔ Number.Denotes text.toList n ∧ kind.Holds n) ∧
    ((¬∃ n, Number.Denotes text.toList n ∧ kind.Holds n) → ∃ error fault,
      s.readNumber kind name required default = .error (.naming error) ∧ error = .invalidNumber name text kind fault ∧
        error.report.category = .invalidNumber ∧
        error.report.details = [("property_name", name), ("raw_value", text)] ∧
        error.rootCause = some (.number fault)) ∧
    (∀ n, s.readNumber .integer name required default = .ok n → s.readNumber .long name required default = .ok n) ∧
    (∀ n, kind.Holds n → text = toString n → s.readNumber kind name required default = .ok n) ∧
    ∀ n plus zeros, kind.Holds n → zeros + (Nat.toDigits 10 n.natAbs).length ≤ 4300 →
      text.toList = Number.decimalText n plus zeros → s.readNumber kind name required default = .ok n := by
  refine ⟨fun n => readNumber_eq_ok_iff_denotes h, fun hno => ?_, fun n hn => ?_, fun n hn htext => ?_,
    fun n plus zeros hn hlimit htext => ?_⟩
  · rw [readNumber_of_content h]
    cases hread : Number.readDecimal kind.least kind.greatest text with
    | error fault => exact ⟨_, fault, rfl, rfl, rfl, rfl, rfl⟩
    | ok n =>
      obtain ⟨hdenotes, hbounds⟩ := Number.readDecimal_eq_ok_iff_denotes.1 hread
      exact absurd ⟨n, hdenotes, NumberKind.holds_iff.2 hbounds⟩ hno
  · obtain ⟨hdenotes, hholds⟩ := (readNumber_eq_ok_iff_denotes h).1 hn
    exact (readNumber_eq_ok_iff_denotes h).2 ⟨hdenotes, hholds.widen⟩
  · have hlimit : 0 + (Nat.toDigits 10 n.natAbs).length ≤ 4300 := by have := hn.length_toDigits_le; omega
    refine (readNumber_eq_ok_iff_denotes h).2 ⟨?_, hn⟩
    rw [htext, Number.toList_toString_int]
    exact Number.denotes_decimalText hlimit
  · refine (readNumber_eq_ok_iff_denotes h).2 ⟨?_, hn⟩
    rw [htext]
    exact Number.denotes_decimalText hlimit

/-- The least number of the narrow type with zeros in front. The number below it has no room. -/
theorem readNumber_exact_least :
    let r : Reference := { className := none, addrs := [⟨"port", .text "-002147483648"⟩, ⟨"qos", .text "-2147483649"⟩] }
    let s := Source.reference r
    s.content "port" = .ok (some "-002147483648") ∧ s.readNumber .integer "port" true 0 = .ok (-2147483648) ∧
      s.content "qos" = .ok (some "-2147483649") ∧ s.readNumber .long "qos" false 0 = .ok (-2147483649) ∧
      ∀ n, s.readNumber .integer "qos" false 0 ≠ .ok n := by
  intro r s
  have hport : s.content "port" = .ok (some "-002147483648") := by decide
  have hqos : s.content "qos" = .ok (some "-2147483649") := by decide
  have hleast : NumberKind.integer.Holds (-2147483648) := NumberKind.holds_iff.2 (by decide)
  have hbelow : NumberKind.long.Holds (-2147483649) := NumberKind.holds_iff.2 (by decide)
  refine ⟨hport, ?_, hqos, ?_, fun n hn => ?_⟩
  · exact (readNumber_exact hport .integer true 0).2.2.2.2 _ false 2 hleast (by decide) (by decide)
  · exact (readNumber_exact hqos .long false 0).2.2.2.1 _ hbelow (by decide)
  · obtain ⟨hdenotes, hholds⟩ := ((readNumber_exact hqos .integer false 0).1 n).1 hn
    obtain ⟨-, rfl⟩ := Number.denotes_iff.1 hdenotes
    exact absurd (NumberKind.holds_iff.1 hholds) (by decide)

end Source

end JmsNaming
