import JmsNaming.Proofs.Settings.Expansion
import JmsNaming.Proofs.Value.Table

/-
Sections with their texts expanded: a section is resolved exactly if each text in it can be expanded, and the resolved
section has the same keys, with the resolved value under each. Nothing but the expansions of its texts counts for it.
-/
namespace JmsNaming

namespace Template

/-- The text stands in the value: it is the value, or stands in a value of the map. Lists are not looked into. -/
inductive TextIn : Value → String → Prop
  | text (s : String) : TextIn (.text s) s
  | entry {t : Table} {e : Scalar × Value} {s : String} (he : e ∈ t) (h : TextIn e.2 s) : TextIn (.map t) s

variable {root root' : Value} {vars : Variables} {t t' : Table} {v w : Value} {k : Scalar} {s : String}

theorem textIn_text {s' : String} : TextIn (.text s) s' ↔ s' = s := by
  constructor
  · rintro ⟨⟩
    rfl
  · rintro rfl
    exact .text s'

theorem textIn_map : TextIn (.map t) s ↔ ∃ e ∈ t, TextIn e.2 s := by
  constructor
  · rintro (_ | ⟨he, h⟩)
    exact ⟨_, he, h⟩
  · rintro ⟨e, he, h⟩
    exact .entry he h

theorem textIn_map_cons {e : Scalar × Value} : TextIn (.map (e :: t)) s ↔ TextIn e.2 s ∨ TextIn (.map t) s := by
  simp [textIn_map]

/-! ## Texts -/

theorem pieces_of_not_opens {s : List Char} (h : opens s = false) : pieces s = s.map .char := by
  fun_induction pieces s with
  | case1 => rfl
  | case2 rest _ _ => simp [opens] at h
  | case3 rest _ _ => simp [opens] at h
  | case4 c rest hno ih =>
    have hrest : opens rest = false := by rwa [opens.eq_2 c rest hno] at h
    rw [ih hrest, List.map_cons]

theorem fill_chars (replace : List Char → Except Fault String) (s : List Char) : fill replace (s.map .char) = .ok s := by
  induction s with
  | nil => rfl
  | cons c s ih => exact fill_char_eq_ok_iff.2 ⟨s, ih, rfl⟩

/-- A text that is not looked into is its own expansion. -/
theorem resolveText_eq_expand (root : Value) (vars : Variables) (s : String) :
    resolveText root vars s = expand root vars s := by
  rw [resolveText]
  split
  · rfl
  · rename_i hopens
    refine Eq.symm (expandTo_succ_eq_ok_iff.2 ?_)
    rw [pieces_of_not_opens (Bool.eq_false_iff.2 hopens), fill_chars]

theorem expand_of_not_opens (root : Value) (vars : Variables) {s : String} (h : opens s.toList = false) :
    expand root vars s = .ok s := by
  rw [← resolveText_eq_expand, resolveText, if_neg (by simp [h])]

theorem not_has_of_not_opens {s : String} (h : opens s.toList = false) {inner : List Char} : ¬Has s inner := by
  rw [has_iff, pieces_of_not_opens h]
  simp

/-! ## Values -/

section Values

variable (root : Value) (vars : Variables)

mutual

/-- A value is resolved exactly if each text in it can be expanded. -/
theorem exists_resolveValue_iff : ∀ v : Value, (∃ w, resolveValue root vars v = .ok w) ↔
    ∀ s, TextIn v s → ∃ out, expand root vars s = .ok out
  | .scalar (.text s) => by
    simp only [resolveValue, map_eq_ok_iff, resolveText_eq_expand, textIn_text, forall_eq]
    exact ⟨fun ⟨_, out, hout, _⟩ => ⟨out, hout⟩, fun ⟨out, hout⟩ => ⟨_, out, hout, rfl⟩⟩
  | .scalar .null | .scalar (.bool _) | .scalar (.int _) | .scalar (.float _) | .scalar (.moment _) | .list _ =>
    iff_of_true ⟨_, rfl⟩ nofun
  | .map t => by
    simp only [resolveValue, map_eq_ok_iff]
    rw [← exists_resolveEntries_iff t]
    exact ⟨fun ⟨_, out, hout, _⟩ => ⟨out, hout⟩, fun ⟨out, hout⟩ => ⟨_, out, hout, rfl⟩⟩

theorem exists_resolveEntries_iff : ∀ t : List (Scalar × Value), (∃ out, resolveEntries root vars t = .ok out) ↔
    ∀ s, TextIn (.map t) s → ∃ out, expand root vars s = .ok out
  | [] => iff_of_true ⟨_, rfl⟩ (by simp [textIn_map])
  | (k, v) :: rest => by
    simp only [textIn_map_cons, or_imp, forall_and, ← exists_resolveValue_iff v, ← exists_resolveEntries_iff rest]
    rw [resolveEntries]
    cases resolveValue root vars v <;> cases resolveEntries root vars rest <;> simp [Except.map]

end

end Values

mutual

/-- What a value is resolved to depends on the expansions of the texts in it only. -/
theorem resolveValue_congr : ∀ v : Value, (∀ s, TextIn v s → expand root vars s = expand root' vars s) →
    resolveValue root vars v = resolveValue root' vars v
  | .scalar (.text s), h => by
    simp only [resolveValue, resolveText_eq_expand, h s (.text s)]
  | .scalar .null, _ | .scalar (.bool _), _ | .scalar (.int _), _ | .scalar (.float _), _ | .scalar (.moment _), _
  | .list _, _ => rfl
  | .map t, h => by
    simp only [resolveValue, resolveEntries_congr t h]

theorem resolveEntries_congr : ∀ t : List (Scalar × Value),
    (∀ s, TextIn (.map t) s → expand root vars s = expand root' vars s) →
    resolveEntries root vars t = resolveEntries root' vars t
  | [], _ => rfl
  | (k, v) :: rest, h => by
    simp only [textIn_map_cons, or_imp, forall_and] at h
    simp only [resolveEntries, resolveValue_congr v h.1, resolveEntries_congr rest h.2]

end

/-! ## Entries -/

theorem resolveEntries_cons_eq_ok_iff : resolveEntries root vars ((k, v) :: t) = .ok t' ↔
    ∃ w rest, resolveValue root vars v = .ok w ∧ resolveEntries root vars t = .ok rest ∧ t' = (k, w) :: rest := by
  rw [resolveEntries]
  cases resolveValue root vars v with
  | error fault => simp
  | ok w =>
    simp only [map_eq_ok_iff, Except.ok.injEq, exists_and_left, exists_eq_left']
    simp only [eq_comm]

/-- The resolved entries have the keys of the entries and the resolved values. -/
theorem forall₂_of_resolveEntries (h : resolveEntries root vars t = .ok t') :
    List.Forall₂ (fun e e' => e.1 = e'.1 ∧ resolveValue root vars e.2 = .ok e'.2) t t' := by
  induction t generalizing t' with
  | nil =>
    cases h
    exact .nil
  | cons e t ih =>
    obtain ⟨w, rest, hw, hrest, rfl⟩ := resolveEntries_cons_eq_ok_iff.1 h
    exact .cons ⟨rfl, hw⟩ (ih hrest)

/-- Under each key stands the resolved value. -/
theorem find?_resolveEntries (h : resolveEntries root vars t = .ok t') (k : Scalar) :
    Option.Rel (fun v w => resolveValue root vars v = .ok w) (t.find? k) (t'.find? k) := by
  have hall := forall₂_of_resolveEntries h
  clear h
  induction hall with
  | nil => exact .none
  | cons hhead _ ih =>
    rw [Table.find?_cons, Table.find?_cons, hhead.1]
    split
    · exact .some hhead.2
    · exact ih

theorem resolveValue_eq_map_iff : resolveValue root vars v = .ok (.map t') ↔
    ∃ t, v = .map t ∧ resolveEntries root vars t = .ok t' := by
  cases v with
  | scalar a => cases a <;> simp [resolveValue, map_eq_ok_iff]
  | list items => simp [resolveValue]
  | map t => simp [resolveValue, map_eq_ok_iff]

/-- The maps among the resolved values are the resolved maps. -/
theorem find?_resolveEntries_eq_map_iff (h : resolveEntries root vars t = .ok t') {u' : Table} :
    t'.find? k = some (.map u') ↔ ∃ u, t.find? k = some (.map u) ∧ resolveEntries root vars u = .ok u' := by
  have hrel := find?_resolveEntries h k
  generalize t.find? k = found at hrel
  generalize t'.find? k = found' at hrel
  cases hrel with
  | none => simp
  | some hw =>
    simp only [Option.some.injEq]
    constructor
    · rintro rfl
      exact resolveValue_eq_map_iff.1 hw
    · rintro ⟨u, rfl, hu⟩
      exact Except.ok.inj (hw.symm.trans (resolveValue_eq_map_iff.2 ⟨u, rfl, hu⟩))

/-! ## Writing -/

mutual

/-- Where a value has a text, the resolved value has one. -/
theorem isWritable_of_resolveValue : ∀ {v w : Value}, resolveValue root vars v = .ok w → v.isWritable = true →
    w.isWritable = true
  | .scalar (.text s), w, h, _ => by
    obtain ⟨out, -, rfl⟩ := map_eq_ok_iff.1 h
    rfl
  | .scalar .null, w, h, hv | .scalar (.bool _), w, h, hv | .scalar (.int _), w, h, hv | .scalar (.float _), w, h, hv
  | .scalar (.moment _), w, h, hv | .list _, w, h, hv => by
    cases h
    exact hv
  | .map t, w, h, hv => by
    obtain ⟨out, hout, rfl⟩ := map_eq_ok_iff.1 h
    exact haveWritable_of_resolveEntries hout hv

theorem haveWritable_of_resolveEntries : ∀ {t t' : List (Scalar × Value)}, resolveEntries root vars t = .ok t' →
    Value.haveWritable t = true → Value.haveWritable t' = true
  | [], t', h, _ => by
    cases h
    rfl
  | (k, v) :: t, t', h, ht => by
    obtain ⟨w, rest, hw, hrest, rfl⟩ := resolveEntries_cons_eq_ok_iff.1 h
    simp only [Value.haveWritable, Bool.and_eq_true] at ht ⊢
    exact ⟨⟨ht.1.1, isWritable_of_resolveValue hw ht.1.2⟩, haveWritable_of_resolveEntries hrest ht.2⟩

end

end Template

/-! ## Sections -/

/-- A section of a tree that has a text has one. -/
theorem Tree.haveWritable_sectionAt : ∀ {v : Value} (path : List String), v.isWritable = true →
    Value.haveWritable (Tree.sectionAt v path) = true
  | .map t, [], h => h
  | .scalar _, [], _ | .list _, [], _ | .scalar _, _ :: _, _ | .list _, _ :: _, _ => rfl
  | .map t, name :: path, h => by
    rw [Tree.sectionAt]
    refine Tree.haveWritable_sectionAt path ?_
    cases hfind : Table.get? t name with
    | none => rfl
    | some w => exact Value.isWritable_of_find? h hfind

end JmsNaming
