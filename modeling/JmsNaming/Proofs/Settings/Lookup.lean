import JmsNaming.Proofs.Settings.Path
import JmsNaming.Proofs.Settings.Splice
import JmsNaming.Settings.Basic

/-
Three ways to look up a dotted key, beside the path of its names through the maps of a tree: reading the key, taking
the section under it, and a placeholder with its name. All three see the value at the end of the path, and where the
path has no end, because a name is missing, null or below something that is no map, all three fall back on what they
have instead.
-/
namespace JmsNaming

/-! ## Stored values -/

namespace Settings

/-- The names of the key lead to the value. -/
def Stores (s : Settings) (key : String) (v : Value) : Prop :=
  ∃ names, Text.Dotted names key ∧ Tree.LeadsTo s.root names v

theorem stores_iff {s : Settings} {key : String} {v : Value} :
    s.Stores key v ↔ Tree.valueAt? s.root (Text.segments key) = some v := by
  rw [Tree.valueAt?_eq_some_iff]
  constructor
  · rintro ⟨names, hnames, h⟩
    rwa [hnames.segments_eq]
  · exact fun h => ⟨_, Text.dotted_segments key, h⟩

end Settings

/-! ## Placeholders with a default -/

namespace Template

section

variable (root : Value) (vars : Variables)

/-- A value as it is read: expanded, if it is a text that may have placeholders. -/
def readValue (v : Value) : Except Fault Value :=
  match v with
  | .scalar (.text text) =>
    if ['$', '\x7b'] <:+: text.toList then (expand root vars text).map .text else .ok (.text text)
  | v => .ok v

/-- The text of a value, expanded if it may have placeholders; chains of references go on to the depth. -/
def expandValue (depth : Nat) (v : Value) : Except Fault String := do
  let text ← v.toText.mapError .unwritable
  if ['$', '\x7b'] <:+: text.toList then expandTo root vars depth text else return text

variable {vars} {key : String}

theorem nameAndDefault_named (hcolon : ':' ∉ key.toList) (default : String) :
    nameAndDefault (key ++ ":" ++ default).toList = (key.toList, some default.toList) := by
  have hcut : Text.cut? ':' (key.toList ++ ':' :: default.toList) = some (key.toList, default.toList) :=
    Text.cut?_append hcolon
  simp [nameAndDefault, hcut]

/-- A placeholder whose name is no variable is replaced by what the name leads to, or else by the default. -/
theorem replace_named (hcolon : ':' ∉ key.toList) (hvar : vars.get? key = none) (default : String) (depth : Nat) :
    replace root vars (expandTo root vars depth) (key ++ ":" ++ default).toList =
      ((Tree.valueAt? root (Text.segments key)).map (expandValue root vars depth)).getD (.ok default) := by
  simp only [replace, nameAndDefault_named hcolon, String.ofList_toList, hvar]
  cases Tree.valueAt? root (Text.segments key) with
  | none => rfl
  | some v =>
    rw [Option.map_some, Option.getD_some, expandValue]
    dsimp only
    cases v.toText with
    | error fault => rfl
    | ok text =>
      rw [mapError_ok, ok_bind]
      exact if_congr (opens_iff _) rfl rfl

theorem gives_named {default : String} (hcolon : ':' ∉ key.toList)
    (hclosing : closing ∉ (key ++ ":" ++ default).toList) (hvar : vars.get? key = none) :
    Gives root vars (key ++ ":" ++ default) fun depth =>
      ((Tree.valueAt? root (Text.segments key)).map (expandValue root vars depth)).getD (.ok default) := by
  have hne : key ++ ":" ++ default ≠ "" := fun h => by simpa using congrArg String.toList h
  simpa only [replace_named root hcolon hvar] using gives_replace root vars hne hclosing

end

end Template

/-! ## The three ways -/

namespace Settings

variable {s : Settings} {vars : Variables} {key : String}

/-- A key without a variable before it is read as what it leads to, or else as the default. -/
theorem get_eq (hoverride : vars.get? (variableName key) = none) (default : Value) :
    s.get vars key default =
      ((Tree.valueAt? s.root (Text.segments key)).map (Template.readValue s.root vars)).getD (.ok default) := by
  simp only [get, hoverride]
  cases Tree.valueAt? s.root (Text.segments key) with
  | none => rfl
  | some v =>
    rw [Option.map_some, Option.getD_some]
    cases v with
    | scalar a =>
      cases a with
      | text text =>
        dsimp only
        rw [Template.resolveText, apply_ite (Except.map Value.text)]
        exact if_congr (Template.opens_iff _) rfl rfl
      | _ => rfl
    | list items => rfl
    | map t => rfl

theorem getSection_eq (s : Settings) (key : String) :
    s.getSection key =
      match Tree.valueAt? s.root (Text.segments key) with
      | some (.map t) => t
      | _ => [] :=
  Tree.sectionAt_eq s.root (Text.segments key)

open Template in
/-- A key that no variable goes before, and whose name no variable has, is looked up alike in three ways. Where it leads
to a value, reading it gives the value, its section is the value if that is a map and empty otherwise, and a placeholder
with its name gives the expanded text of the value. Where it leads to none, reading it gives the default, its section is
empty, and a placeholder gives the default that stands in it, as it is. -/
theorem lookup_stored (s : Settings) (vars : Variables) (key : String)
    (hoverride : vars.get? (variableName key) = none) (hvar : vars.get? key = none) :
    (∀ v, s.Stores key v →
      (∀ default, s.get vars key default = readValue s.root vars v) ∧
      s.getSection key = (match v with | .map t => t | _ => []) ∧
      ∀ default, ':' ∉ key.toList → closing ∉ (key ++ ":" ++ default).toList →
        Gives s.root vars (key ++ ":" ++ default) fun depth => expandValue s.root vars depth v) ∧
    ((∀ v, ¬s.Stores key v) →
      (∀ default, s.get vars key default = .ok default) ∧
      s.getSection key = [] ∧
      ∀ default, ':' ∉ key.toList → closing ∉ (key ++ ":" ++ default).toList →
        Gives s.root vars (key ++ ":" ++ default) fun _ => .ok default) := by
  simp only [stores_iff]
  constructor
  · intro v hv
    refine ⟨fun default => ?_, ?_, fun default hcolon hclosing => ?_⟩
    · rw [get_eq hoverride, hv, Option.map_some, Option.getD_some]
    · rw [getSection_eq, hv]
      cases v <;> rfl
    · simpa only [hv, Option.map_some, Option.getD_some] using gives_named s.root hcolon hclosing hvar
  · intro hno
    have hnone : Tree.valueAt? s.root (Text.segments key) = none := Option.eq_none_iff_forall_ne_some.2 hno
    refine ⟨fun default => ?_, ?_, fun default hcolon hclosing => ?_⟩
    · rw [get_eq hoverride, hnone, Option.map_none, Option.getD_none]
    · rw [getSection_eq, hnone]
    · simpa only [hnone, Option.map_none, Option.getD_none] using gives_named s.root hcolon hclosing hvar

/-- A text in a nested map, with a placeholder of its own, and a key with a null on its way. -/
theorem lookup_stored_nested :
    let s : Settings := { root := .map [(.text "a", .map [(.text "b", .text "<$\x7bn:1\x7d>"), (.text "c", .null)])] }
    let vars : Variables := [("n", "2")]
    (vars.get? (variableName "a.b") = none ∧ vars.get? "a.b" = none ∧ s.Stores "a.b" (.text "<$\x7bn:1\x7d>") ∧
      s.get vars "a.b" .null = .ok (.text "<2>") ∧ s.getSection "a.b" = [] ∧
      Template.expand s.root vars "x $\x7ba.b:0\x7d y" = .ok "x <2> y") ∧
    (vars.get? (variableName "a.c.d") = none ∧ vars.get? "a.c.d" = none ∧ (∀ v, ¬s.Stores "a.c.d" v) ∧
      s.get vars "a.c.d" (.int 7) = .ok (.int 7) ∧ s.getSection "a.c.d" = [] ∧
      Template.expand s.root vars "x $\x7ba.c.d:0\x7d y" = .ok "x 0 y") := by
  intro s vars
  have hfront : Template.Closed "x ".toList := Template.closed_of_no_opening (by decide)
  constructor
  · have hoverride : vars.get? (variableName "a.b") = none := by decide
    have hstored : s.Stores "a.b" (.text "<$\x7bn:1\x7d>") := stores_iff.2 (by decide)
    obtain ⟨hget, hsection, hgives⟩ := (lookup_stored s vars "a.b" hoverride rfl).1 _ hstored
    refine ⟨hoverride, rfl, hstored, ?_, hsection, ?_⟩
    · rw [hget]
      decide +kernel
    · refine (hgives "0" (by decide) (by decide) 10 "x " " y" hfront).trans ?_
      decide +kernel
  · have hoverride : vars.get? (variableName "a.c.d") = none := by decide
    have hmissing : ∀ v, ¬s.Stores "a.c.d" v := by
      have hnone : Tree.valueAt? s.root (Text.segments "a.c.d") = none := by decide
      simp [stores_iff, hnone]
    obtain ⟨hget, hsection, hgives⟩ := (lookup_stored s vars "a.c.d" hoverride rfl).2 hmissing
    refine ⟨hoverride, rfl, hmissing, hget _, hsection, ?_⟩
    refine (hgives "0" (by decide) (by decide) 10 "x " " y" hfront).trans ?_
    decide +kernel

end Settings

end JmsNaming
