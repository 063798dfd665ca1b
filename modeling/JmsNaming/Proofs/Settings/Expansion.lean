import JmsNaming.Proofs.Outcome
import JmsNaming.Proofs.Settings.Placeholder
import JmsNaming.Proofs.Value.Decidable
import Mathlib.Logic.Relation

/-
Expansion of placeholders, without a limit on its depth, as a relation between a text and its expansion,
and the result that the limited expansion gives: the expansion, unless a chain of references is too long
or a placeholder that is reached stands for nothing that has a text.
-/
namespace JmsNaming.Template

/-! ## What placeholders stand for -/

section Meaning

variable (root : Value) (vars : Variables)

/-- The name in a placeholder. -/
def nameOf (inner : List Char) : String :=
  String.ofList (nameAndDefault inner).1

/-- The placeholder stands for a value of the settings: no variable has its name. -/
def StandsFor (inner : List Char) (v : Value) : Prop :=
  vars.get? (nameOf inner) = none ∧ Tree.valueAt? root (Text.segments (nameOf inner)) = some v

/-- The placeholder stands for a value whose text is followed up, as it may have placeholders again. -/
def Followed (inner : List Char) (text : String) : Prop :=
  ∃ v, StandsFor root vars inner v ∧ v.toText = .ok text ∧ ['$', '\x7b'] <:+: text.toList

/-- There is neither a variable nor a value nor a default. -/
def Unresolvable (inner : List Char) : Prop :=
  vars.get? (nameOf inner) = none ∧ Tree.valueAt? root (Text.segments (nameOf inner)) = none ∧
    (nameAndDefault inner).2 = none

/-- The placeholder stands for a value that has no text. -/
def Textless (inner : List Char) : Prop :=
  ∃ v fault, StandsFor root vars inner v ∧ v.toText = .error fault

/-- The placeholder stands for nothing that has a text. -/
def Fails (inner : List Char) : Prop :=
  Unresolvable root vars inner ∨ Textless root vars inner

/-- The text has the placeholder. -/
def Has (text : String) (inner : List Char) : Prop :=
  ∃ ps, Scan text.toList ps ∧ .placeholder inner ∈ ps

/-- A placeholder in the first text is followed up to the second. -/
def Follows (text text' : String) : Prop :=
  ∃ inner, Has text inner ∧ Followed root vars inner text'

/-- Chains of followed placeholders, by their length. -/
inductive Chain : Nat → String → Prop
  | zero {text : String} : Chain 0 text
  | succ {n : Nat} {text text' : String} (h : Follows root vars text text') (hc : Chain n text') : Chain (n + 1) text

/-- The text is reached from another through followed placeholders. -/
abbrev Reaches : String → String → Prop :=
  Relation.ReflTransGen (Follows root vars)

mutual

/-- The pieces with every placeholder replaced. -/
inductive Filled : List Piece → List Char → Prop
  | nil : Filled [] []
  | char {c : Char} {ps : List Piece} {out : List Char} (h : Filled ps out) : Filled (.char c :: ps) (c :: out)
  | placeholder {inner : List Char} {value : String} {ps : List Piece} {out : List Char} (hv : Replaced inner value)
    (h : Filled ps out) : Filled (.placeholder inner :: ps) (value.toList ++ out)

/-- What replaces a placeholder: its variable as it is, else the text of its value with the placeholders in it
replaced, else its default as it is. -/
inductive Replaced : List Char → String → Prop
  | ofVariable {inner : List Char} {value : String} (h : vars.get? (nameOf inner) = some value) : Replaced inner value
  | ofSetting {inner : List Char} {v : Value} {text : String} {ps : List Piece} {out : List Char}
    (h : StandsFor root vars inner v) (ht : v.toText = .ok text) (hs : Scan text.toList ps) (hf : Filled ps out) :
    Replaced inner (String.ofList out)
  | ofDefault {inner default : List Char} (hvar : vars.get? (nameOf inner) = none)
    (htree : Tree.valueAt? root (Text.segments (nameOf inner)) = none)
    (h : (nameAndDefault inner).2 = some default) : Replaced inner (String.ofList default)

end

/-- The second text is the first with every placeholder replaced. -/
def Expands (text out : String) : Prop :=
  ∃ ps, Scan text.toList ps ∧ Filled root vars ps out.toList

end Meaning

variable {root : Value} {vars : Variables} {inner : List Char} {text out : String} {depth : Nat}

/-! ## Texts without placeholders -/

theorem opens_iff (s : List Char) : opens s = true ↔ ['$', '\x7b'] <:+: s := by
  fun_induction opens s with
  | case1 rest => simp [List.infix_cons_iff]
  | case2 c rest hno ih =>
    rw [ih, List.infix_cons_iff]
    constructor
    · exact .inr
    · rintro (⟨tail, heq⟩ | h)
      · simp only [List.cons_append, List.nil_append, List.cons.injEq] at heq
        exact absurd heq.2.symm (fun h => hno _ heq.1.symm h)
      · exact h
  | case3 => simp

theorem not_leads_of_no_opening {s inner rest : List Char} (h : ¬['$', '\x7b'] <:+: s) : ¬Leads inner rest s := by
  intro hl
  exact h ⟨[], inner ++ closing :: rest, by rw [hl.eq]; simp⟩

/-- A text without an opening brace behind a dollar sign is its own expansion, and has no other. -/
theorem filled_iff_of_no_opening {s : List Char} (h : ¬['$', '\x7b'] <:+: s) {ps : List Piece} (hs : Scan s ps)
    {out : List Char} : Filled root vars ps out ↔ out = s := by
  induction s generalizing ps out with
  | nil =>
    cases hs with
    | nil =>
      constructor
      · rintro ⟨⟩
        rfl
      · rintro rfl
        exact .nil
    | placeholder hl _ => exact absurd hl (not_leads_of_no_opening h)
  | cons c s ih =>
    have htail : ¬['$', '\x7b'] <:+: s := fun hi => h (List.infix_cons_iff.2 (.inr hi))
    cases hs with
    | placeholder hl _ => exact absurd hl (not_leads_of_no_opening h)
    | char _ hs' =>
      constructor
      · rintro (_ | hf)
        rw [(ih htail hs').1 hf]
      · rintro rfl
        exact .char ((ih htail hs').2 rfl)

/-! ## Filling -/

section Fill

variable {replace : List Char → Except Fault String} {ps : List Piece} {s : List Char}

theorem fill_char_eq_ok_iff {c : Char} :
    fill replace (.char c :: ps) = .ok s ↔ ∃ out, fill replace ps = .ok out ∧ c :: out = s := by
  rw [fill, map_eq_ok_iff]

theorem fill_placeholder_eq_ok_iff : fill replace (.placeholder inner :: ps) = .ok s ↔
    ∃ value out, replace inner = .ok value ∧ fill replace ps = .ok out ∧ value.toList ++ out = s := by
  rw [fill]
  cases replace inner <;> simp [map_eq_ok_iff]

theorem filled_of_fill (hr : ∀ inner value, .placeholder inner ∈ ps → replace inner = .ok value →
    Replaced root vars inner value) (h : fill replace ps = .ok s) : Filled root vars ps s := by
  induction ps generalizing s with
  | nil =>
    cases h
    exact .nil
  | cons p ps ih =>
    have htail : ∀ {out}, fill replace ps = .ok out → Filled root vars ps out :=
      ih fun inner value hm => hr inner value (List.mem_cons_of_mem _ hm)
    cases p with
    | char c =>
      obtain ⟨out, hrest, rfl⟩ := fill_char_eq_ok_iff.1 h
      exact .char (htail hrest)
    | placeholder inner =>
      obtain ⟨value, out, hvalue, hrest, rfl⟩ := fill_placeholder_eq_ok_iff.1 h
      exact .placeholder (hr inner value List.mem_cons_self hvalue) (htail hrest)

theorem fill_of_filled (h : Filled root vars ps s) (hr : ∀ inner value, .placeholder inner ∈ ps →
    Replaced root vars inner value → replace inner = .ok value) : fill replace ps = .ok s := by
  induction ps generalizing s with
  | nil =>
    cases h
    rfl
  | cons p ps ih =>
    have htail : ∀ {out}, Filled root vars ps out → fill replace ps = .ok out := fun hf =>
      ih hf fun inner value hm => hr inner value (List.mem_cons_of_mem _ hm)
    cases h with
    | char hf => exact fill_char_eq_ok_iff.2 ⟨_, htail hf, rfl⟩
    | placeholder hv hf =>
      exact fill_placeholder_eq_ok_iff.2 ⟨_, _, hr _ _ List.mem_cons_self hv, htail hf, rfl⟩

/-- Pieces can be filled if each of their placeholders can be replaced. -/
theorem exists_fill_iff : (∃ s, fill replace ps = .ok s) ↔
    ∀ inner, .placeholder inner ∈ ps → ∃ value, replace inner = .ok value := by
  induction ps with
  | nil => simp [fill]
  | cons p ps ih =>
    cases p with
    | char c => simp [fill_char_eq_ok_iff, ← ih]
    | placeholder inner => simp [fill_placeholder_eq_ok_iff, ← ih]

end Fill

/-! ## Replacing one placeholder -/

section Replace

variable {follow : String → Except Fault String} {value : String}

/-- A placeholder for a value of the settings is replaced by the text of the value, followed up if it opens one. -/
theorem replace_of_standsFor {v : Value} (h : StandsFor root vars inner v) (ht : v.toText = .ok text) :
    replace root vars follow inner = if opens text.toList then follow text else .ok text := by
  obtain ⟨hvar, hv⟩ := h
  rw [nameOf] at hvar hv
  simp only [replace, hvar, hv, ht]

theorem replace_of_variable (h : vars.get? (nameOf inner) = some value) :
    replace root vars follow inner = .ok value := by
  rw [nameOf] at h
  simp only [replace, h]

theorem replace_of_default {default : List Char} (hvar : vars.get? (nameOf inner) = none)
    (htree : Tree.valueAt? root (Text.segments (nameOf inner)) = none)
    (h : (nameAndDefault inner).2 = some default) : replace root vars follow inner = .ok (String.ofList default) := by
  rw [nameOf] at hvar htree
  simp only [replace, hvar, htree, h]

theorem replace_of_fails (h : Fails root vars inner) : ∃ fault, replace root vars follow inner = .error fault := by
  rcases h with ⟨hvar, htree, hdefault⟩ | ⟨v, fault, ⟨hvar, hv⟩, ht⟩
  · rw [nameOf] at hvar htree
    simp [replace, hvar, htree, hdefault]
  · rw [nameOf] at hvar hv
    simp [replace, hvar, hv, ht]

/-- Every placeholder has a variable, a value with a text, or a default, unless it fails. -/
theorem source_of_not_fails (h : ¬Fails root vars inner) :
    (∃ value, vars.get? (nameOf inner) = some value) ∨
      (∃ v text, StandsFor root vars inner v ∧ v.toText = .ok text) ∨
      vars.get? (nameOf inner) = none ∧ Tree.valueAt? root (Text.segments (nameOf inner)) = none ∧
        ∃ default, (nameAndDefault inner).2 = some default := by
  cases hvar : vars.get? (nameOf inner) with
  | some value => exact .inl ⟨value, rfl⟩
  | none =>
    cases htree : Tree.valueAt? root (Text.segments (nameOf inner)) with
    | some v =>
      cases ht : v.toText with
      | ok text => exact .inr (.inl ⟨v, text, ⟨hvar, htree⟩, ht⟩)
      | error fault => exact absurd (Or.inr ⟨v, fault, ⟨hvar, htree⟩, ht⟩) h
    | none =>
      cases hdefault : (nameAndDefault inner).2 with
      | some default => exact .inr (.inr ⟨rfl, rfl, default, rfl⟩)
      | none => exact absurd (Or.inl ⟨hvar, htree, hdefault⟩) h

/-- A placeholder can be replaced if it does not fail and its text can be followed up. -/
theorem exists_replace_iff : (∃ value, replace root vars follow inner = .ok value) ↔
    ¬Fails root vars inner ∧ ∀ text, Followed root vars inner text → ∃ value, follow text = .ok value := by
  constructor
  · rintro ⟨value, hvalue⟩
    refine ⟨fun hfails => ?_, ?_⟩
    · obtain ⟨fault, hfault⟩ : ∃ fault, replace root vars follow inner = .error fault := replace_of_fails hfails
      rw [hvalue] at hfault
      cases hfault
    · rintro text ⟨v, hv, ht, hopens⟩
      rw [replace_of_standsFor hv ht, if_pos ((opens_iff _).2 hopens)] at hvalue
      exact ⟨value, hvalue⟩
  · rintro ⟨hfails, hfollow⟩
    rcases source_of_not_fails hfails with ⟨value, hvalue⟩ | ⟨v, text, hv, ht⟩ | ⟨hvar, htree, default, hdefault⟩
    · exact ⟨value, replace_of_variable hvalue⟩
    · rw [replace_of_standsFor hv ht]
      split
      case isTrue hopens => exact hfollow text ⟨v, hv, ht, (opens_iff _).1 hopens⟩
      case isFalse => exact ⟨text, rfl⟩
    · exact ⟨String.ofList default, replace_of_default hvar htree hdefault⟩

end Replace

/-! ## Chains -/

theorem has_iff : Has text inner ↔ .placeholder inner ∈ pieces text.toList := by
  simp [Has, scan_iff]

/-- A text that is one placeholder has no other. -/
theorem has_iff_of_leads {inner' : List Char} (h : Leads inner [] text.toList) : Has text inner' ↔ inner' = inner := by
  rw [has_iff, ← scan_iff.1 (.placeholder h .nil)]
  simp

theorem chain_succ_iff {n : Nat} :
    Chain root vars (n + 1) text ↔ ∃ text', Follows root vars text text' ∧ Chain root vars n text' := by
  constructor
  · rintro (_ | ⟨h, hc⟩)
    exact ⟨_, h, hc⟩
  · rintro ⟨text', h, hc⟩
    exact .succ h hc

theorem follows_of_standsFor (inner : List Char) (v : Value) {text' : String}
    (hmem : .placeholder inner ∈ pieces text.toList) (hv : StandsFor root vars inner v) (ht : v.toText = .ok text')
    (hopens : opens text'.toList = true) : Follows root vars text text' :=
  ⟨inner, has_iff.2 hmem, v, hv, ht, (opens_iff _).1 hopens⟩

/-- Where a cycle is reached, there are chains of every length. -/
theorem chain_of_cycle {text' : String} (hcycle : Relation.TransGen (Follows root vars) text' text')
    (h : Relation.TransGen (Follows root vars) text text') (n : Nat) : Chain root vars n text := by
  induction n generalizing text with
  | zero => exact .zero
  | succ n ih =>
    obtain ⟨next, hnext, hreach⟩ := Relation.TransGen.head'_iff.1 h
    exact .succ hnext (ih (.trans_right hreach hcycle))

/-! ## Expansion to a depth -/

theorem expandTo_succ_eq_ok_iff : expandTo root vars (depth + 1) text = .ok out ↔
    fill (replace root vars (expandTo root vars depth)) (pieces text.toList) = .ok out.toList := by
  rw [expandTo, map_eq_ok_iff]
  constructor
  · rintro ⟨s, hs, rfl⟩
    rwa [String.toList_ofList]
  · exact fun h => ⟨_, h, String.ofList_toList⟩

/-- The text has an expansion within the depth, exactly if no chain is as long as that and no placeholder fails
that is reached. -/
theorem exists_expandTo_iff : (∃ r, expandTo root vars depth text = .ok r) ↔
    ¬Chain root vars depth text ∧
      ∀ text', Reaches root vars text text' → ∀ inner, Has text' inner → ¬Fails root vars inner := by
  induction depth generalizing text with
  | zero => simp [expandTo, Chain.zero]
  | succ depth ih =>
    have hstep : (∃ r, expandTo root vars (depth + 1) text = .ok r) ↔ ∀ inner, Has text inner →
        ∃ value, replace root vars (expandTo root vars depth) inner = .ok value := by
      simp only [has_iff, ← exists_fill_iff, expandTo, map_eq_ok_iff]
      exact ⟨fun ⟨_, s, hs, _⟩ => ⟨s, hs⟩, fun ⟨s, hs⟩ => ⟨_, s, hs, rfl⟩⟩
    rw [hstep]
    simp only [exists_replace_iff, ih]
    constructor
    · intro h
      refine ⟨fun hc => ?_, fun text' hr => ?_⟩
      · obtain ⟨next, ⟨inner, hhas, hfollowed⟩, hc⟩ := chain_succ_iff.1 hc
        exact ((h inner hhas).2 next hfollowed).1 hc
      · rcases Relation.ReflTransGen.cases_head hr with rfl | ⟨next, ⟨inner, hhas, hfollowed⟩, hr⟩
        · exact fun inner hhas => (h inner hhas).1
        · exact ((h inner hhas).2 next hfollowed).2 text' hr
    · rintro ⟨hc, hfails⟩ inner hhas
      refine ⟨hfails text .refl inner hhas, fun next hfollowed => ?_⟩
      have hfollows : Follows root vars text next := ⟨inner, hhas, hfollowed⟩
      exact ⟨fun hnext => hc (.succ hfollows hnext), fun text' hr => hfails text' (.head hfollows hr)⟩

/-- What the expansion gives is the text with its placeholders replaced. -/
theorem expands_of_expandTo (h : expandTo root vars depth text = .ok out) : Expands root vars text out := by
  induction depth generalizing text out with
  | zero => cases h
  | succ depth ih =>
    refine ⟨_, scan_pieces _, filled_of_fill (fun inner value _ hvalue => ?_) (expandTo_succ_eq_ok_iff.1 h)⟩
    have hfails : ¬Fails root vars inner := (exists_replace_iff.1 ⟨value, hvalue⟩).1
    rcases source_of_not_fails hfails with ⟨value', hvar⟩ | ⟨v, text', hv, ht⟩ | ⟨hvar, htree, default, hdefault⟩
    · rw [replace_of_variable hvar] at hvalue
      cases hvalue
      exact .ofVariable hvar
    · rw [replace_of_standsFor hv ht] at hvalue
      split at hvalue
      case isTrue =>
        obtain ⟨ps, hs, hf⟩ := ih hvalue
        simpa using Replaced.ofSetting hv ht hs hf
      case isFalse hopens =>
        cases hvalue
        have hno := (opens_iff value.toList).not.1 hopens
        simpa using Replaced.ofSetting hv ht (scan_pieces _) ((filled_iff_of_no_opening hno (scan_pieces _)).2 rfl)
    · rw [replace_of_default hvar htree hdefault] at hvalue
      cases hvalue
      exact .ofDefault hvar htree hdefault

/-- A text whose placeholders can be replaced is expanded to that, unless a chain is too long. -/
theorem expandTo_of_expands (hc : ¬Chain root vars depth text) (h : Expands root vars text out) :
    expandTo root vars depth text = .ok out := by
  induction depth generalizing text out with
  | zero => exact absurd .zero hc
  | succ depth ih =>
    obtain ⟨ps, hs, hf⟩ := h
    rw [scan_iff] at hs
    rw [expandTo_succ_eq_ok_iff, ← hs]
    refine fill_of_filled hf fun inner value hmem hvalue => ?_
    cases hvalue with
    | ofVariable hvar => exact replace_of_variable hvar
    | ofDefault hvar htree hdefault => exact replace_of_default hvar htree hdefault
    | @ofSetting _ v text' ps' out' hv ht hs' hf' =>
      rw [replace_of_standsFor hv ht]
      split
      case isTrue hopens =>
        have hfollows : Follows root vars text text' := follows_of_standsFor _ v (hs ▸ hmem) hv ht hopens
        exact ih (fun hnext => hc (.succ hfollows hnext)) ⟨ps', hs', by simpa using hf'⟩
      case isFalse hopens =>
        rw [(filled_iff_of_no_opening ((opens_iff _).not.1 hopens) hs').1 hf', String.ofList_toList]

/-! ## Expansion -/

/-- A text is expanded to the text with its placeholders replaced, as long as no chain of eleven placeholders is
followed up from it. There is a fault exactly if there is such a chain, or a placeholder is reached that stands for
nothing with a text; a cycle that is reached leads to a fault. -/
theorem expand_eq_ok_iff_expands (root : Value) (vars : Variables) (text : String) :
    (∀ r, expand root vars text = .ok r ↔ ¬Chain root vars 11 text ∧ Expands root vars text r) ∧
      ((∃ fault, expand root vars text = .error fault) ↔
        Chain root vars 11 text ∨
          ∃ text', Reaches root vars text text' ∧
            ∃ inner, Has text' inner ∧ (Unresolvable root vars inner ∨ Textless root vars inner)) ∧
      ((∃ text', Reaches root vars text text' ∧ Relation.TransGen (Follows root vars) text' text') →
        ∃ fault, expand root vars text = .error fault) := by
  have hexists : (∃ r, expandTo root vars 11 text = .ok r) ↔ ¬Chain root vars 11 text ∧
      ∀ text', Reaches root vars text text' → ∀ inner, Has text' inner → ¬Fails root vars inner := exists_expandTo_iff
  have herror : (∃ fault, expand root vars text = .error fault) ↔ ¬∃ r, expandTo root vars 11 text = .ok r := by
    rw [expand, maxDepth]
    cases expandTo root vars 11 text <;> simp
  refine ⟨fun r => ⟨fun h => ?_, fun ⟨hc, h⟩ => expandTo_of_expands hc h⟩, ?_, ?_⟩
  · exact ⟨(hexists.1 ⟨r, h⟩).1, expands_of_expandTo h⟩
  · rw [herror, hexists, not_and_or, not_not]
    simp only [not_forall, not_not, exists_prop]
    rfl
  · rintro ⟨text', hreach, hcycle⟩
    rw [herror, hexists]
    exact fun h => h.1 (chain_of_cycle hcycle (.trans_right hreach hcycle) 11)

/-- A cycle through the text of a map, which a default does not break. -/
theorem expand_eq_ok_iff_expands_cycle :
    let root : Value := .map [(.text "a", .text "<$\x7bb:0\x7d>"), (.text "b", .map [(.text "c", .text "$\x7ba\x7d")])]
    (∃ text', Reaches root [] "$\x7ba:1\x7d" text' ∧ Relation.TransGen (Follows root []) text' text') ∧
      ∃ fault, expand root [] "$\x7ba:1\x7d" = .error fault := by
  intro root
  have hstart : Follows root [] "$\x7ba:1\x7d" "<$\x7bb:0\x7d>" := by
    refine follows_of_standsFor "a:1".toList (.text "<$\x7bb:0\x7d>") ?_ ⟨?_, ?_⟩ ?_ ?_ <;> decide +kernel
  have hthere : Follows root [] "<$\x7bb:0\x7d>" "\x7b'c': '$\x7ba\x7d'\x7d" := by
    refine follows_of_standsFor "b:0".toList (.map [(.text "c", .text "$\x7ba\x7d")]) ?_ ⟨?_, ?_⟩ ?_ ?_ <;>
      decide +kernel
  have hback : Follows root [] "\x7b'c': '$\x7ba\x7d'\x7d" "<$\x7bb:0\x7d>" := by
    refine follows_of_standsFor "a".toList (.text "<$\x7bb:0\x7d>") ?_ ⟨?_, ?_⟩ ?_ ?_ <;> decide +kernel
  have hcycle : ∃ text', Reaches root [] "$\x7ba:1\x7d" text' ∧ Relation.TransGen (Follows root []) text' text' :=
    ⟨_, .single hstart, .tail (.single hthere) hback⟩
  exact ⟨hcycle, (expand_eq_ok_iff_expands root [] "$\x7ba:1\x7d").2.2 hcycle⟩

/-- A whole number of too many digits leads to a fault, though its placeholder is resolved and nothing is followed
up. -/
theorem expand_unwritable_number :
    let wide : Value := .int (Int.ofNat (Nat.pow 16 3600))
    let root : Value := .map [(.text "a", wide)]
    expand root [] "$\x7ba\x7d" = .error (.unwritable .digits) ∧ ¬Chain root [] 11 "$\x7ba\x7d" ∧
      ∀ text', Reaches root [] "$\x7ba\x7d" text' → ∀ inner, Has text' inner → ¬Unresolvable root [] inner := by
  intro wide root
  have hvalue : StandsFor root [] ['a'] wide := ⟨rfl, rfl⟩
  have htext : wide.toText = .error .digits := by decide +kernel
  have hleads : Leads ['a'] [] "$\x7ba\x7d".toList := ⟨by decide, by decide, by decide⟩
  have honly : ∀ inner, Has "$\x7ba\x7d" inner → inner = ['a'] := fun _ => (has_iff_of_leads hleads).1
  have hfollows : ∀ text', ¬Follows root [] "$\x7ba\x7d" text' := by
    rintro text' ⟨inner, hhas, v, hv, ht, -⟩
    rw [honly inner hhas] at hv
    rw [← Option.some.inj (hvalue.2.symm.trans hv.2), htext] at ht
    cases ht
  refine ⟨by decide +kernel, fun hc => ?_, fun text' hreach inner hhas hno => ?_⟩
  · obtain ⟨text', h, -⟩ := chain_succ_iff.1 hc
    exact hfollows text' h
  · rcases Relation.ReflTransGen.cases_head hreach with rfl | ⟨text', h, -⟩
    · rw [honly inner hhas] at hno
      exact Option.some_ne_none _ (hvalue.2.symm.trans hno.2.1)
    · exact hfollows text' h

end JmsNaming.Template
