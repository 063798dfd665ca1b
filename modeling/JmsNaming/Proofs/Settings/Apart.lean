import JmsNaming.Proofs.Settings.Layers
import JmsNaming.Proofs.Settings.Leaves
import Mathlib.Data.List.Forall2

/-
Trees that differ only inside the tables of a section under other keys than one: what a path finds in them, and what a
text is expanded to, is the same as long as no placeholder that counts for it reaches into those tables.
-/
namespace JmsNaming

/-! ## Trees -/

namespace Tree

theorem distinct_sectionAt : ∀ {v : Value} (path : List String), v.Distinct → (Value.map (sectionAt v path)).Distinct
  | .map t, [], h => h
  | .scalar _, [], _ | .list _, [], _ | .scalar _, _ :: _, _ | .list _, _ :: _, _ => .empty
  | .map t, name :: path, h => by
    rw [sectionAt]
    refine distinct_sectionAt path ?_
    cases hfind : Table.get? t name with
    | none => exact .empty
    | some w => exact h.of_find? hfind

/-- A table under another key than the name. -/
def IsOther (name : String) (e : Scalar × Value) : Prop :=
  e.1.sameKey (.text name) = false ∧ ∃ t, e.2 = .map t

/-- The entries are the same, or tables under the same other key. -/
def SameEntry (name : String) (e d : Scalar × Value) : Prop :=
  e.1 = d.1 ∧ (e.2 = d.2 ∨ IsOther name e ∧ IsOther name d)

/-- The trees are the same but for what stands inside the tables in the section at the path, under other keys than the
name. -/
inductive SameBut (name : String) : List String → Value → Value → Prop
  | refl (path : List String) (v : Value) : SameBut name path v v
  | here {t u : Table} (h : List.Forall₂ (SameEntry name) t u) : SameBut name [] (.map t) (.map u)
  | under {key : String} {path : List String} {before after : Table} {k : Scalar} {v w : Value}
    (hbefore : ∀ e ∈ before, e.1.sameKey (.text key) = false) (hk : k.sameKey (.text key) = true)
    (h : SameBut name path v w) :
    SameBut name (key :: path) (.map (before ++ (k, v) :: after)) (.map (before ++ (k, w) :: after))

/-- The path leads to one of the other tables in the section or into it, or to a value that has them all in it. -/
def ReachesInto (root : Value) (name : String) (place path : List String) : Prop :=
  ∃ e ∈ sectionAt root place, IsOther name e ∧
    (path <+: place ∨ ∃ key rest, path = place ++ key :: rest ∧ e.1.sameKey (.text key) = true)

variable {name key : String} {place path : List String} {v w : Value} {t u before after : Table} {k : Scalar}

theorem sameEntry_self (e : Scalar × Value) : SameEntry name e e :=
  ⟨rfl, .inl rfl⟩

/-- The section stands under the first key. -/
theorem SameBut.head (hk : k.sameKey (.text key) = true) (h : SameBut name path v w) (after : Table) :
    SameBut name (key :: path) (.map ((k, v) :: after)) (.map ((k, w) :: after)) :=
  .under (fun _ he => absurd he List.not_mem_nil) hk h

/-- The section stands behind another key. -/
theorem SameBut.tail {e : Scalar × Value} (he : e.1.sameKey (.text key) = false)
    (h : SameBut name (key :: path) (.map t) (.map u)) : SameBut name (key :: path) (.map (e :: t)) (.map (e :: u)) := by
  cases h with
  | refl => exact .refl _ _
  | under hbefore hk h =>
    rw [← List.cons_append, ← List.cons_append]
    exact .under (List.forall_mem_cons.2 ⟨he, hbefore⟩) hk h

theorem find?_under (hbefore : ∀ e ∈ before, e.1.sameKey (.text key) = false) (hk : k.sameKey (.text key) = true) :
    Table.get? (before ++ (k, v) :: after) key = some v := by
  induction before with
  | nil => rw [List.nil_append, Table.get?, Table.find?_cons, if_pos hk]
  | cons e before ih =>
    obtain ⟨he, hbefore⟩ := List.forall_mem_cons.1 hbefore
    rw [List.cons_append, Table.get?, Table.find?_cons, if_neg (by simp [he])]
    exact ih hbefore

theorem find?_beside {k' : Scalar} (h : k.sameKey k' = false) :
    Table.find? (before ++ (k, v) :: after) k' = Table.find? (before ++ (k, w) :: after) k' := by
  induction before with
  | nil => simp [Table.find?_cons, h]
  | cons e before ih => rw [List.cons_append, List.cons_append, Table.find?_cons, Table.find?_cons, ih]

/-- The same entries are under a key, unless one of the other tables is. -/
theorem find?_eq_or_isOther (h : List.Forall₂ (SameEntry name) t u) (k : Scalar) :
    t.find? k = u.find? k ∨ ∃ e ∈ t, IsOther name e ∧ e.1.sameKey k = true := by
  induction h with
  | nil => exact .inl rfl
  | @cons e d t u hhead _ ih =>
    obtain ⟨hkey, hvalue⟩ := hhead
    rw [Table.find?_cons, Table.find?_cons, ← hkey]
    by_cases hk : e.1.sameKey k = true
    · rw [if_pos hk, if_pos hk]
      rcases hvalue with heq | ⟨hother, -⟩
      · exact .inl (congrArg some heq)
      · exact .inr ⟨e, List.mem_cons_self, hother, hk⟩
    · rw [if_neg hk, if_neg hk]
      rcases ih with heq | ⟨e', he', hother⟩
      · exact .inl heq
      · exact .inr ⟨e', List.mem_cons_of_mem _ he', hother⟩

/-- What is under the name itself is the same. -/
theorem get?_of_sameEntries (h : List.Forall₂ (SameEntry name) t u) : t.get? name = u.get? name := by
  rcases find?_eq_or_isOther h (.text name) with heq | ⟨e, -, hother, hk⟩
  · exact heq
  · rw [hother.1] at hk
    cases hk

theorem eq_of_sameEntries (h : List.Forall₂ (SameEntry name) t u) (hno : ∀ e ∈ t, ¬IsOther name e) : t = u := by
  induction h with
  | nil => rfl
  | @cons e d t u hhead _ ih =>
    obtain ⟨he, ht⟩ := List.forall_mem_cons.1 hno
    obtain ⟨hkey, heq | ⟨hother, -⟩⟩ := hhead
    · rw [ih ht, Prod.ext hkey heq]
    · exact absurd hother he

theorem sectionAt_under (hbefore : ∀ e ∈ before, e.1.sameKey (.text key) = false) (hk : k.sameKey (.text key) = true) :
    sectionAt (.map (before ++ (k, v) :: after)) (key :: path) = sectionAt v path := by
  rw [sectionAt, find?_under hbefore hk, Option.getD_some]

theorem SameBut.section (h : SameBut name place v w) :
    List.Forall₂ (SameEntry name) (sectionAt v place) (sectionAt w place) := by
  induction h with
  | refl place v => exact List.forall₂_same.2 fun e _ => sameEntry_self e
  | here h => exact h
  | under hbefore hk _ ih =>
    rw [sectionAt_under hbefore hk, sectionAt_under hbefore hk]
    exact ih

theorem SameBut.isNull_eq (h : SameBut name place v w) : v.isNull = w.isNull := by
  cases h <;> rfl

/-- Without other tables there is nothing in which the trees could differ. -/
theorem SameBut.eq_of_no_others (h : SameBut name place v w) (hno : ∀ e ∈ sectionAt v place, ¬IsOther name e) :
    v = w := by
  induction h with
  | refl => rfl
  | here h => rw [eq_of_sameEntries h hno]
  | under hbefore hk _ ih =>
    rw [sectionAt_under hbefore hk] at hno
    rw [ih hno]

/-- A path that does not reach into the other tables finds the same in both trees. -/
theorem SameBut.valueAt?_eq (h : SameBut name place v w) (hpath : ¬ReachesInto v name place path) :
    valueAt? v path = valueAt? w path := by
  -- where the path ends above the other tables, there are none
  have habove : path <+: place → v = w := fun hprefix =>
    h.eq_of_no_others fun e he hother => hpath ⟨e, he, hother, .inl hprefix⟩
  induction h generalizing path with
  | refl => rfl
  | @here t u h =>
    cases path with
    | nil => rw [habove (List.nil_prefix)]
    | cons key rest =>
      rcases find?_eq_or_isOther h (.text key) with heq | ⟨e, he, hother, hk⟩
      · rw [valueAt?, valueAt?, Table.get?, Table.get?, heq]
      · exact absurd ⟨e, he, hother, .inr ⟨key, rest, rfl, hk⟩⟩ hpath
  | @under key place before after k v w hbefore hk h ih =>
    cases path with
    | nil => rw [habove (List.nil_prefix)]
    | cons key' rest =>
      by_cases hkey : key' = key
      · subst hkey
        have hrest : ¬ReachesInto v name place rest := by
          rintro ⟨e, he, hother, hprefix | ⟨last, more, hmore, hlast⟩⟩
          · refine hpath ⟨e, by rwa [sectionAt_under hbefore hk], hother, .inl ?_⟩
            exact List.cons_prefix_cons.2 ⟨rfl, hprefix⟩
          · refine hpath ⟨e, by rwa [sectionAt_under hbefore hk], hother, .inr ⟨last, more, ?_, hlast⟩⟩
            rw [hmore, List.cons_append]
        rw [valueAt?, valueAt?, find?_under hbefore hk, find?_under hbefore hk]
        dsimp only
        rw [h.isNull_eq, ih hrest fun hprefix => h.eq_of_no_others fun e he hother =>
          hrest ⟨e, he, hother, .inl hprefix⟩]
      · have hne : k.sameKey (.text key') = false := by
          rw [Scalar.sameKey_congr hk]
          simp [Scalar.sameKey, Scalar.key, Ne.symm hkey]
        rw [valueAt?, valueAt?, Table.get?, Table.get?, find?_beside hne]

end Tree

/-! ## Expansions -/

namespace Template

/-- No placeholder that counts for the text reaches into the other tables, be it in the text or in a value that is
followed up. -/
def Avoids (root : Value) (vars : Variables) (name : String) (place : List String) (text : String) : Prop :=
  ∀ text', Reaches root vars text text' → ∀ inner, Has text' inner → vars.get? (nameOf inner) = none →
    ¬Tree.ReachesInto root name place (Text.segments (nameOf inner))

variable {root root' : Value} {vars : Variables} {name text text' : String} {place : List String} {inner : List Char}

theorem Avoids.of_follows (h : Avoids root vars name place text) (hf : Follows root vars text text') :
    Avoids root vars name place text' :=
  fun _ hreach => h _ (.head hf hreach)

/-- Where nothing is followed up, only the placeholders of the text itself count. -/
theorem avoids_of_not_follows (hf : ∀ text', ¬Follows root vars text text')
    (h : ∀ inner, Has text inner → vars.get? (nameOf inner) = none →
      ¬Tree.ReachesInto root name place (Text.segments (nameOf inner))) : Avoids root vars name place text := by
  intro text' hreach
  rcases Relation.ReflTransGen.cases_head hreach with rfl | ⟨next, hnext, -⟩
  · exact h
  · exact absurd hnext (hf next)

theorem avoids_of_not_opens (h : opens text.toList = false) : Avoids root vars name place text :=
  avoids_of_not_follows (fun _ ⟨_, hhas, _⟩ => not_has_of_not_opens h hhas)
    fun _ hhas => absurd hhas (not_has_of_not_opens h)

theorem fill_congr {replace replace' : List Char → Except Fault String} {ps : List Piece}
    (h : ∀ inner, .placeholder inner ∈ ps → replace inner = replace' inner) : fill replace ps = fill replace' ps := by
  induction ps with
  | nil => rfl
  | cons p ps ih =>
    obtain ⟨hp, hps⟩ : (∀ inner, .placeholder inner = p → replace inner = replace' inner) ∧
        ∀ inner, .placeholder inner ∈ ps → replace inner = replace' inner :=
      ⟨fun inner hp => h inner (hp ▸ List.mem_cons_self), fun inner hm => h inner (List.mem_cons_of_mem _ hm)⟩
    cases p with
    | char c => rw [fill, fill, ih hps]
    | placeholder inner => rw [fill, fill, ih hps, hp inner rfl]

/-- A placeholder is replaced by the same where the trees have the same value for it, and its text is followed up to
the same. -/
theorem replace_congr {follow follow' : String → Except Fault String}
    (hvalue : vars.get? (nameOf inner) = none → Tree.valueAt? root (Text.segments (nameOf inner)) =
      Tree.valueAt? root' (Text.segments (nameOf inner)))
    (hfollow : ∀ text, Followed root vars inner text → follow text = follow' text) :
    replace root vars follow inner = replace root' vars follow' inner := by
  cases hvar : vars.get? (nameOf inner) with
  | some value => rw [replace_of_variable hvar, replace_of_variable hvar]
  | none =>
    have hvalue := hvalue hvar
    rw [nameOf] at hvar hvalue
    simp only [replace, hvar, ← hvalue]
    cases hv : Tree.valueAt? root (Text.segments (String.ofList (nameAndDefault inner).1)) with
    | none => rfl
    | some v =>
      dsimp only
      cases ht : v.toText with
      | error fault => rfl
      | ok text =>
        dsimp only
        split
        · rename_i hopens
          exact hfollow text ⟨v, ⟨hvar, hv⟩, ht, (opens_iff _).1 hopens⟩
        · rfl

/-- A text that avoids the other tables is expanded to the same in both trees. -/
theorem expandTo_eq_of_avoids (hsame : Tree.SameBut name place root root') (h : Avoids root vars name place text)
    (depth : Nat) : expandTo root vars depth text = expandTo root' vars depth text := by
  induction depth generalizing text with
  | zero => rfl
  | succ depth ih =>
    rw [expandTo, expandTo, fill_congr fun inner hmem => ?_]
    have hhas : Has text inner := has_iff.2 hmem
    exact replace_congr (fun hvar => hsame.valueAt?_eq (h text .refl inner hhas hvar))
      fun next hnext => ih (h.of_follows ⟨inner, hhas, hnext⟩)

end Template

end JmsNaming
