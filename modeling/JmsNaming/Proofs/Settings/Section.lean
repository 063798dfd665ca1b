import JmsNaming.Proofs.Settings.Binding
import JmsNaming.Proofs.Settings.Merge

/-
A resolved section beside the section itself, and beside reading its texts by their keys: it has the same shape, with
each text expanded, or the fault of the first text in it that cannot be expanded.
-/
namespace JmsNaming

namespace Template

/-! ## The texts of a value -/

mutual

/-- The texts in a value in their order, also those in maps at any depth. Lists are not looked into. -/
def textsOf : Value → List String
  | .scalar (.text s) => [s]
  | .scalar _ => []
  | .list _ => []
  | .map t => textsOfEntries t

/-- The texts in the values of some entries. -/
def textsOfEntries : List (Scalar × Value) → List String
  | [] => []
  | (_, v) :: rest => textsOf v ++ textsOfEntries rest

end

section Relation

variable (root : Value) (vars : Variables)

mutual

/-- The second value is the first with every text in it expanded: its maps have the same keys in the same order, and
what is neither a text nor a map is the same. -/
inductive Resolved : Value → Value → Prop
  | text {s out : String} (h : expand root vars s = .ok out) : Resolved (.text s) (.text out)
  | other {v : Value} (hleaf : v.IsLeaf) (h : v.text? = none) : Resolved v v
  | map {t u : Table} (h : ResolvedEntries t u) : Resolved (.map t) (.map u)

/-- The second entries have the keys of the first, and their values with every text expanded. -/
inductive ResolvedEntries : List (Scalar × Value) → List (Scalar × Value) → Prop
  | nil : ResolvedEntries [] []
  | cons {k : Scalar} {v w : Value} {t u : Table} (h : Resolved v w) (hrest : ResolvedEntries t u) :
    ResolvedEntries ((k, v) :: t) ((k, w) :: u)

end

end Relation

variable {root : Value} {vars : Variables} {v w : Value} {t u : Table} {fault : Fault}

/-- The first text that cannot be expanded has the fault. -/
def FirstFault (root : Value) (vars : Variables) (texts : List String) (fault : Fault) : Prop :=
  ∃ before s after, texts = before ++ s :: after ∧ (∀ s' ∈ before, ∃ out, expand root vars s' = .ok out) ∧
    expand root vars s = .error fault

theorem firstFault_append {texts more : List String} : FirstFault root vars (texts ++ more) fault ↔
    FirstFault root vars texts fault ∨
      (∀ s ∈ texts, ∃ out, expand root vars s = .ok out) ∧ FirstFault root vars more fault := by
  constructor
  · rintro ⟨before, s, after, heq, hbefore, hs⟩
    -- the text stands in the first part or in the second
    rcases List.append_eq_append_iff.1 heq with ⟨between, rfl, hmore⟩ | ⟨between, htexts, hmore⟩
    · exact .inr ⟨fun s' hs' => hbefore s' (List.mem_append_left _ hs'), between, s, after, hmore,
        fun s' hs' => hbefore s' (List.mem_append_right _ hs'), hs⟩
    · cases between with
      | nil =>
        refine .inr ⟨?_, [], s, after, hmore.symm, nofun, hs⟩
        rw [htexts, List.append_nil]
        exact hbefore
      | cons s' between =>
        obtain ⟨rfl, -⟩ := List.cons.inj hmore
        exact .inl ⟨before, s, between, htexts, hbefore, hs⟩
  · rintro (⟨before, s, after, rfl, hbefore, hs⟩ | ⟨htexts, before, s, after, rfl, hbefore, hs⟩)
    · exact ⟨before, s, after ++ more, by simp, hbefore, hs⟩
    · exact ⟨texts ++ before, s, after, by simp, List.forall_mem_append.2 ⟨htexts, hbefore⟩, hs⟩

theorem not_firstFault_nil : ¬FirstFault root vars [] fault := by
  rintro ⟨before, s, after, heq, -⟩
  simp at heq

theorem firstFault_singleton {s : String} : FirstFault root vars [s] fault ↔ expand root vars s = .error fault := by
  constructor
  · rintro ⟨before, s', after, heq, -, hs⟩
    obtain ⟨rfl, rfl, rfl⟩ : before = [] ∧ s' = s ∧ after = [] := by simpa [List.cons_eq_append_iff] using heq
    exact hs
  · exact fun hs => ⟨[], s, [], rfl, nofun, hs⟩

mutual

theorem textIn_iff_mem : ∀ {v : Value} {s : String}, TextIn v s ↔ s ∈ textsOf v
  | .scalar (.text s'), s => by rw [textIn_text, textsOf, List.mem_singleton]
  | .scalar .null, s | .scalar (.bool _), s | .scalar (.int _), s | .scalar (.float _), s | .scalar (.moment _), s
  | .list _, s => iff_of_false nofun List.not_mem_nil
  | .map t, s => by rw [textsOf, textIn_map_iff_mem]

theorem textIn_map_iff_mem : ∀ {t : List (Scalar × Value)} {s : String}, TextIn (.map t) s ↔ s ∈ textsOfEntries t
  | [], s => by simp [textIn_map, textsOfEntries]
  | (k, v) :: rest, s => by
    rw [textIn_map_cons, textsOfEntries, List.mem_append, textIn_iff_mem, textIn_map_iff_mem]

end

/-! ## Resolving -/

section Values

variable (root : Value) (vars : Variables)

mutual

/-- What a value is resolved to is the value with its texts expanded. -/
theorem resolveValue_eq_ok_iff : ∀ {v w : Value}, resolveValue root vars v = .ok w ↔ Resolved root vars v w
  | .scalar (.text s), w => by
    rw [resolveValue, map_eq_ok_iff, resolveText_eq_expand]
    constructor
    · rintro ⟨out, hout, rfl⟩
      exact .text hout
    · rintro (⟨hout⟩ | ⟨-, ⟨⟩⟩)
      exact ⟨_, hout, rfl⟩
  | .scalar .null, w | .scalar (.bool _), w | .scalar (.int _), w | .scalar (.float _), w | .scalar (.moment _), w
  | .list _, w => by
    rw [resolveValue.eq_def]
    constructor
    · rintro ⟨⟩
      exact .other rfl rfl
    · rintro ⟨⟩
      rfl
  | .map t, w => by
    rw [resolveValue, map_eq_ok_iff]
    constructor
    · rintro ⟨u, hu, rfl⟩
      exact .map (resolveEntries_eq_ok_iff.1 hu)
    · rintro (_ | ⟨hleaf, -⟩ | ⟨hu⟩)
      · exact absurd hleaf Value.not_isLeaf_map
      · exact ⟨_, resolveEntries_eq_ok_iff.2 hu, rfl⟩

theorem resolveEntries_eq_ok_iff : ∀ {t u : List (Scalar × Value)},
    resolveEntries root vars t = .ok u ↔ ResolvedEntries root vars t u
  | [], u => by
    rw [resolveEntries]
    constructor
    · rintro ⟨⟩
      exact .nil
    · rintro ⟨⟩
      rfl
  | (k, v) :: rest, u => by
    rw [resolveEntries_cons_eq_ok_iff]
    constructor
    · rintro ⟨w, u, hw, hu, rfl⟩
      exact .cons (resolveValue_eq_ok_iff.1 hw) (resolveEntries_eq_ok_iff.1 hu)
    · rintro (_ | ⟨hw, hu⟩)
      exact ⟨_, _, resolveValue_eq_ok_iff.2 hw, resolveEntries_eq_ok_iff.2 hu, rfl⟩

end

mutual

/-- A value cannot be resolved for the first text in it that cannot be expanded. -/
theorem resolveValue_eq_error_iff : ∀ {v : Value} {fault : Fault},
    resolveValue root vars v = .error fault ↔ FirstFault root vars (textsOf v) fault
  | .scalar (.text s), fault => by
    rw [resolveValue, map_eq_error_iff, resolveText_eq_expand, textsOf, firstFault_singleton]
  | .scalar .null, fault | .scalar (.bool _), fault | .scalar (.int _), fault | .scalar (.float _), fault
  | .scalar (.moment _), fault | .list _, fault =>
    iff_of_false nofun not_firstFault_nil
  | .map t, fault => by
    rw [resolveValue, map_eq_error_iff, resolveEntries_eq_error_iff, textsOf]

theorem resolveEntries_eq_error_iff : ∀ {t : List (Scalar × Value)} {fault : Fault},
    resolveEntries root vars t = .error fault ↔ FirstFault root vars (textsOfEntries t) fault
  | [], fault => iff_of_false nofun not_firstFault_nil
  | (k, v) :: rest, fault => by
    rw [resolveEntries, textsOfEntries, firstFault_append, ← resolveValue_eq_error_iff, ← resolveEntries_eq_error_iff]
    cases hv : resolveValue root vars v with
    | error fault' =>
      -- no later text counts
      have hno : ¬∀ s ∈ textsOf v, ∃ out, expand root vars s = .ok out := by
        intro hall
        obtain ⟨w, hw⟩ := (exists_resolveValue_iff root vars v).2 fun s hs => hall s (textIn_iff_mem.1 hs)
        cases hv.symm.trans hw
      simp [hno]
    | ok w =>
      have hall : ∀ s ∈ textsOf v, ∃ out, expand root vars s = .ok out := fun s hs =>
        (exists_resolveValue_iff root vars v).1 ⟨w, hv⟩ s (textIn_iff_mem.2 hs)
      rw [map_eq_error_iff]
      exact ⟨fun hrest => .inr ⟨hall, hrest⟩, fun h => (h.resolve_left nofun).2⟩

end

/-- At the place of a text stands its expansion. -/
theorem find?_of_resolveValue {path : List Scalar} {v w : Value} {s : String} (h : resolveValue root vars v = .ok w)
    (hs : v.find? path = some (.text s)) : ∃ out, w.find? path = some (.text out) ∧ expand root vars s = .ok out := by
  induction path generalizing v w with
  | nil =>
    cases hs
    obtain ⟨out, hout, rfl⟩ := map_eq_ok_iff.1 h
    exact ⟨out, rfl, resolveText_eq_expand root vars s ▸ hout⟩
  | cons k path ih =>
    rcases Value.isLeaf_or_map v with hv | ⟨t, rfl⟩
    · rw [Value.find?_of_isLeaf hv] at hs
      cases hs
    · obtain ⟨u, hu, rfl⟩ := map_eq_ok_iff.1 h
      rw [Value.find?_map_cons, Option.bind_eq_some_iff] at hs
      obtain ⟨v, hv, hs⟩ := hs
      have hrel := find?_resolveEntries hu k
      rw [hv] at hrel
      cases hw : Table.find? u k with
      | none =>
        rw [hw] at hrel
        cases hrel
      | some w =>
        rw [hw] at hrel
        cases hrel with
        | some hvw => simpa only [Value.find?_map_cons, hw, Option.bind_some] using ih hvw hs

end Values

end Template

/-! ## Keys -/

namespace Tree

/-- A text is found by the names on its path. -/
theorem valueAt?_of_find? {v : Value} {names : List String} {s : String}
    (h : v.find? (names.map .text) = some (.text s)) : valueAt? v names = some (.text s) := by
  induction names generalizing v with
  | nil => exact h
  | cons name names ih =>
    cases v with
    | scalar a => cases h
    | list items => cases h
    | map t =>
      rw [List.map_cons, Value.find?_map_cons, Option.bind_eq_some_iff] at h
      obtain ⟨w, hw, h⟩ := h
      have hnull : w ≠ .null := by
        rintro rfl
        cases names <;> cases h
      rw [valueAt?_map_cons, next?_eq_some_iff.2 ⟨hw, hnull⟩]
      exact ih h

end Tree

namespace Settings

/-- The dotted key of a path below another key. -/
def keyBelow (key : String) (names : List String) : String :=
  names.foldl (fun key name => key ++ "." ++ name) key

theorem segments_keyBelow (key : String) {names : List String} (h : ∀ name ∈ names, '.' ∉ name.toList) :
    Text.segments (keyBelow key names) = Text.segments key ++ names := by
  induction names generalizing key with
  | nil => simp [keyBelow]
  | cons name names ih =>
    obtain ⟨hname, hnames⟩ := List.forall_mem_cons.1 h
    have hstep : keyBelow key (name :: names) = keyBelow (key ++ "." ++ name) names := rfl
    rw [hstep, ih _ hnames, Text.segments_append key hname, List.append_assoc, List.singleton_append]

variable {s : Settings} {vars : Variables} {key : String}

/-- A text below a section is read by its key as its expansion, where no variable goes before it. -/
theorem get_keyBelow {names : List String} {text : String} (hnames : ∀ name ∈ names, '.' ∉ name.toList)
    (htext : (Value.map (s.getSection key)).find? (names.map .text) = some (.text text))
    (hvar : vars.get? (variableName (keyBelow key names)) = none) (default : Value) :
    s.get vars (keyBelow key names) default = (Template.expand s.root vars text).map .text := by
  have hne : names ≠ [] := by
    rintro rfl
    cases htext
  have hvalue : Tree.valueAt? s.root (Text.segments (keyBelow key names)) = some (.text text) := by
    rw [segments_keyBelow key hnames, Tree.valueAt?_append _ _ hne]
    exact Tree.valueAt?_of_find? htext
  simp only [get, hvar, hvalue, Template.resolveText_eq_expand]

open Template in
/-- A section is resolved exactly to the section with every text in it expanded, at every level of its maps, or it has the
fault of the first text that cannot be expanded. A text without a placeholder is its own expansion. Each text in the
resolved section is what its key is read as, where no variable goes before the key. -/
theorem resolveSection_resolved (s : Settings) (vars : Variables) (key : String) :
    (∀ u, s.resolveSection vars key = .ok u ↔ ResolvedEntries s.root vars (s.getSection key) u) ∧
      (∀ fault, s.resolveSection vars key = .error fault ↔
        ∃ before text after, textsOfEntries (s.getSection key) = before ++ text :: after ∧
          (∀ text' ∈ before, ∃ out, expand s.root vars text' = .ok out) ∧ expand s.root vars text = .error fault) ∧
      (∀ text, ¬['$', '\x7b'] <:+: text.toList → expand s.root vars text = .ok text) ∧
      ∀ u names text, s.resolveSection vars key = .ok u → (∀ name ∈ names, '.' ∉ name.toList) →
        (Value.map (s.getSection key)).find? (names.map .text) = some (.text text) →
        vars.get? (variableName (keyBelow key names)) = none →
        ∃ out, (Value.map u).find? (names.map .text) = some (.text out) ∧
          ∀ default, s.get vars (keyBelow key names) default = .ok (.text out) := by
  refine ⟨fun u => resolveEntries_eq_ok_iff s.root vars, fun fault => resolveEntries_eq_error_iff s.root vars,
    fun text hno => ?_, fun u names text hu hnames htext hvar => ?_⟩
  · exact expand_of_not_opens s.root vars (Bool.eq_false_iff.2 fun hopens => hno ((opens_iff _).1 hopens))
  · have hsection : resolveValue s.root vars (.map (s.getSection key)) = .ok (.map u) :=
      map_eq_ok_iff.2 ⟨u, hu, rfl⟩
    obtain ⟨out, hfind, hout⟩ := find?_of_resolveValue s.root vars hsection htext
    refine ⟨out, hfind, fun default => ?_⟩
    rw [get_keyBelow hnames htext hvar, hout]
    rfl

/-- A placeholder in a nested map is read by its key as it is resolved; the one in a list stays. -/
theorem resolveSection_resolved_nested :
    let queue : Table := [(.text "name", .text "$\x7bn:x\x7d-q"), (.int 1, .null)]
    let s : Settings :=
      { root := .map [(.text "r", .map [(.text "q", .map queue), (.text "tags", .list [.text "$\x7bn\x7d"])])] }
    let resolved : Table := [(.text "q", .map [(.text "name", .text "x-q"), (.int 1, .null)]),
      (.text "tags", .list [.text "$\x7bn\x7d"])]
    s.resolveSection [] "r" = .ok resolved ∧ (∀ name ∈ ["q", "name"], '.' ∉ name.toList) ∧
      (Value.map (s.getSection "r")).find? [.text "q", .text "name"] = some (.text "$\x7bn:x\x7d-q") ∧
      Variables.get? [] (variableName "r.q.name") = none ∧ s.get [] "r.q.name" .null = .ok (.text "x-q") := by
  intro queue s resolved
  have hkey : keyBelow "r" ["q", "name"] = "r.q.name" := by decide
  have hsection : s.resolveSection [] "r" = .ok resolved := eq_ok_of_toOption (by decide +kernel)
  have hnames : ∀ name ∈ ["q", "name"], '.' ∉ name.toList := by decide
  have htext : (Value.map (s.getSection "r")).find? [.text "q", .text "name"] = some (.text "$\x7bn:x\x7d-q") := by
    decide
  obtain ⟨out, hout, hget⟩ :=
    (resolveSection_resolved s [] "r").2.2.2 resolved ["q", "name"] _ hsection hnames htext rfl
  have hfound : (Value.map resolved).find? [.text "q", .text "name"] = some (.text "x-q") := by decide
  cases hout.symm.trans hfound
  exact ⟨hsection, hnames, htext, rfl, hkey ▸ hget .null⟩

end Settings

end JmsNaming
