import JmsNaming.Log.Loggers
import JmsNaming.Proofs.Text.Cut

/-
The loggers in use: what levels that are set one after the other leave of the levels before them, and when two sets of
loggers, of which one holds the other, decide for every logger in the same way.
-/
namespace JmsNaming.Log

/-! ## Names above a name -/

/-- The logger takes in every logger under its name: its name does not begin the root's and does not end with a dot. -/
structure Regular (name : List Char) : Prop where
  leads_no_root : name.isPrefixOf LoggerName.rootName = false
  getLast?_ne : name.getLast? ≠ some '.'

section Above

variable {name p q : List Char} {c : Char}

theorem namesAbove_of_cutLast? (h : Text.cutLast? '.' name = some (p, q)) :
    namesAbove name = if p.isEmpty then [] else p :: namesAbove p.dropLast := by
  rw [namesAbove]
  split <;> simp_all

theorem namesAbove_of_no_dot (h : '.' ∉ name) : namesAbove name = [] := by
  have hcut := Text.cutLast?_eq_none h
  rw [namesAbove]
  split <;> simp_all

/-- A last character that is no dot makes no difference to the names above a name. -/
theorem namesAbove_concat (hc : c ≠ '.') : namesAbove (name ++ [c]) = namesAbove name := by
  cases h : Text.cutLast? '.' name with
  | none =>
    have hdot : '.' ∉ name := Text.not_mem_of_cutLast? h
    rw [namesAbove_of_no_dot hdot, namesAbove_of_no_dot (by simpa using ⟨hdot, hc.symm⟩)]
  | some r =>
    obtain ⟨heq, hdot⟩ := Text.eq_of_cutLast? h
    have hnext : Text.cutLast? '.' (name ++ [c]) = some (r.1, r.2 ++ [c]) := by
      rw [heq, List.append_assoc, List.cons_append]
      exact Text.cutLast?_append (by simpa using ⟨hdot, hc.symm⟩)
    rw [namesAbove_of_cutLast? h, namesAbove_of_cutLast? hnext]

theorem namesAbove_dropLast (h : name.getLast? ≠ some '.') : namesAbove name.dropLast = namesAbove name := by
  rcases List.eq_nil_or_concat name with rfl | ⟨init, c, rfl⟩
  · rfl
  · rw [List.concat_eq_append, List.dropLast_concat, namesAbove_concat]
    simpa using h

/-- Behind a name that is above another stand the names above that one. -/
theorem eq_namesAbove {nearer rest : List (List Char)} (h : namesAbove name = nearer ++ p :: rest)
    (hp : p.getLast? ≠ some '.') : rest = namesAbove p := by
  fun_induction namesAbove name generalizing nearer with
  | case1 => simp at h
  | case2 name q after hcut hne ih =>
    cases nearer with
    | nil =>
      obtain ⟨rfl, hrest⟩ := List.cons.inj h
      rw [← hrest, namesAbove_dropLast hp]
    | cons a nearer => exact ih (List.cons.inj h).2
  | case3 => simp at h

end Above

namespace Loggers

variable {l m : Loggers} {name p q : List Char} {level : Nat} {entries : List (List Char × Nat)}

/-! ## Levels in a list -/

theorem lookup_entry (e : List Char × Nat) (entries : List (List Char × Nat)) :
    (e :: entries).lookup name = if name = e.1 then some e.2 else entries.lookup name := by
  by_cases h : name = e.1
  · rw [if_pos h, h]
    exact List.lookup_cons_self
  · rw [if_neg h, List.lookup_cons, beq_eq_false_iff_ne.2 h]

theorem lookup_append_unset (entries : List (List Char × Nat)) (q : List Char) :
    ((entries ++ [(q, unsetLevel)]).lookup name).getD unsetLevel = (entries.lookup name).getD unsetLevel := by
  induction entries with
  | nil =>
    rw [List.nil_append, lookup_entry]
    split <;> rfl
  | cons e entries ih =>
    rw [List.cons_append, lookup_entry, lookup_entry]
    split
    · rfl
    · exact ih

theorem lookup_map_set (entries : List (List Char × Nat)) (q : List Char) (level : Nat) :
    (entries.map fun e => if e.1 = q then (q, level) else e).lookup name =
      if name = q then (entries.lookup name).map fun _ => level else entries.lookup name := by
  induction entries with
  | nil => simp
  | cons e entries ih =>
    rw [List.map_cons, lookup_entry, lookup_entry, ih]
    by_cases he : e.1 = q
    · by_cases hn : name = q <;> simp [he, hn]
    · by_cases hn : name = q
      · simp [he, hn, Ne.symm he]
      · simp [he, hn]

/-! ## Setting levels -/

theorem has_iff : l.has name = true ↔ name ∈ l.named.map Prod.fst := by
  simp [has]

theorem own_of_not_has (h : l.has name = false) : l.own (.named name) = unsetLevel := by
  have hlookup : l.named.lookup name = none := by
    rw [List.lookup_eq_none_iff]
    intro e he
    rw [bne_iff_ne]
    rintro rfl
    rw [has_iff.2 (List.mem_map_of_mem he)] at h
    cases h
  rw [own, hlookup]
  rfl

theorem has_of_own_ne (h : l.own (.named name) ≠ unsetLevel) : l.has name = true := by
  by_contra hhas
  exact h (own_of_not_has (Bool.eq_false_iff.2 hhas))

theorem own_visit (l : Loggers) (visited n : LoggerName) : (l.visit visited).own n = l.own n := by
  cases visited with
  | root => rfl
  | named q =>
    rw [visit]
    split
    · rfl
    · cases n with
      | root => rfl
      | named name => exact lookup_append_unset l.named q

theorem has_visit_iff (l : Loggers) (q : List Char) :
    (l.visit (.named q)).has name = true ↔ l.has name = true ∨ name = q := by
  rw [visit]
  split
  · rename_i hq
    constructor
    · exact .inl
    · rintro (hname | rfl)
      · exact hname
      · exact hq
  · simp [has_iff]

theorem has_set_root (l : Loggers) : (l.set level .root).has name = l.has name := rfl

theorem has_set_named_iff (l : Loggers) (q : List Char) :
    (l.set level (.named q)).has name = true ↔ l.has name = true ∨ name = q := by
  have hkeys : ((l.visit (.named q)).named.map fun e => if e.1 = q then (q, level) else e).map Prod.fst =
      (l.visit (.named q)).named.map Prod.fst := by
    rw [List.map_map]
    refine List.map_congr_left fun e _ => ?_
    by_cases he : e.1 = q <;> simp [he]
  rw [← has_visit_iff, has_iff, has_iff, set, hkeys]

/-- A level that is set is that of the logger, and no other logger's own level changes. -/
theorem own_set (l : Loggers) (target n : LoggerName) :
    (l.set level target).own n = if n = target then level else l.own n := by
  cases target with
  | root => cases n <;> simp [set, own]
  | named q =>
    have hvisit : (l.visit (.named q)).own n = l.own n := own_visit l _ _
    cases n with
    | root => exact hvisit
    | named name =>
      rw [own, set, lookup_map_set]
      by_cases hn : name = q
      · have hhas : name ∈ (l.visit (.named q)).named.map Prod.fst := by
          rw [← has_iff, has_visit_iff]
          exact .inr hn
        obtain ⟨v, hv⟩ : ∃ v, (l.visit (.named q)).named.lookup name = some v := by
          by_contra hno
          rw [not_exists, ← Option.eq_none_iff_forall_ne_some, List.lookup_eq_none_iff] at hno
          obtain ⟨e, he, heq⟩ := List.mem_map.1 hhas
          exact bne_iff_ne.1 (hno e he) heq.symm
        rw [if_pos hn, hv, if_pos (congrArg _ hn)]
        rfl
      · have hne : LoggerName.named name ≠ .named q := fun h => hn (LoggerName.named.inj h)
        rw [if_neg hn, if_neg hne, ← hvisit, own]

/-! ## Setting levels one after the other -/

/-- The loggers after some levels have been set in order. -/
def setAll (l : Loggers) (levels : List (LoggerName × Nat)) : Loggers :=
  levels.foldl (fun l e => l.set e.2 e.1) l

variable {levels : List (LoggerName × Nat)} {n : LoggerName}

theorem setAll_cons (l : Loggers) (e : LoggerName × Nat) (levels : List (LoggerName × Nat)) :
    l.setAll (e :: levels) = (l.set e.2 e.1).setAll levels := rfl

theorem has_setAll_iff :
    (l.setAll levels).has name = true ↔ l.has name = true ∨ .named name ∈ levels.map Prod.fst := by
  induction levels generalizing l with
  | nil => simp [setAll]
  | cons e levels ih =>
    rw [setAll_cons, ih, List.map_cons, List.mem_cons]
    cases e.1 with
    | root => simp [has_set_root]
    | named q => simp [has_set_named_iff, or_assoc]

/-- A logger whose level is not among them keeps its own. -/
theorem own_setAll_of_not_mem (h : n ∉ levels.map Prod.fst) : (l.setAll levels).own n = l.own n := by
  induction levels generalizing l with
  | nil => rfl
  | cons e levels ih =>
    obtain ⟨hne, hrest⟩ := List.ne_and_not_mem_of_not_mem_cons h
    rw [setAll_cons, ih hrest, own_set, if_neg hne]

/-- A logger whose level is among them has the last of its levels, whatever was in force before. -/
theorem own_setAll_of_mem (h : n ∈ levels.map Prod.fst) : (l.setAll levels).own n = (m.setAll levels).own n := by
  induction levels generalizing l m with
  | nil => cases h
  | cons e levels ih =>
    by_cases hrest : n ∈ levels.map Prod.fst
    · exact ih hrest
    · have hn : n = e.1 := (List.mem_cons.1 h).resolve_right hrest
      have hstep : ∀ l : Loggers, (l.setAll (e :: levels)).own n = e.2 := by
        intro l
        rw [setAll_cons, own_setAll_of_not_mem hrest, own_set, if_pos hn]
      rw [hstep, hstep]

/-! ## Inheriting levels -/

/-- Where all loggers in use are regular, a logger inherits from the nearest one in use above it. -/
theorem parent?_of_regular (h : ∀ name, l.has name = true → Regular name) (name : List Char) :
    l.parent? name = (namesAbove name).find? l.has := by
  have htakes : ∀ p, l.takesIn p name = l.has p := by
    intro p
    rw [takesIn]
    cases hp : l.has p with
    | false => rfl
    | true => simp [(h p hp).leads_no_root]
  rw [parent?]
  simp only [htakes]

/-- A logger that is not in use, or has no level of its own, has the level of what it inherits from. -/
theorem effectiveNamed_of_unset (h : l.own (.named name) = unsetLevel) :
    l.effectiveNamed name = ((l.parent? name).map l.effectiveNamed).getD l.rootLevel := by
  rw [effectiveNamed, if_neg (by simp [h])]
  split <;> simp_all

theorem effectiveNamed_of_set (h : l.own (.named name) ≠ unsetLevel) : l.effectiveNamed name = l.own (.named name) := by
  rw [effectiveNamed, if_pos h]

/-- A logger without a level of its own has the level of a name above it, if no logger in use is as near. -/
theorem effectiveNamed_eq_of_above (h : ∀ name, l.has name = true → Regular name) {nearer rest : List (List Char)}
    (heq : namesAbove name = nearer ++ p :: rest) (hnearer : ∀ a ∈ nearer, l.has a = false) (hp : l.has p = false)
    (hlast : p.getLast? ≠ some '.') (hname : l.own (.named name) = unsetLevel) :
    l.effectiveNamed name = l.effectiveNamed p := by
  have hnone : nearer.find? l.has = none := by
    rw [List.find?_eq_none]
    intro a ha
    simp [hnearer a ha]
  have hparent : l.parent? name = l.parent? p := by
    rw [parent?_of_regular h, parent?_of_regular h, heq, eq_namesAbove heq hlast, List.find?_append, hnone,
      Option.none_or, List.find?_cons, hp]
  rw [effectiveNamed_of_unset hname, effectiveNamed_of_unset (own_of_not_has hp), hparent]

/-- More loggers than `m` has are in use. A logger without a level of its own has the same level with both, if the
names above it have. -/
theorem effectiveNamed_eq_of_unset (hroot : l.rootLevel = m.rootLevel)
    (hhas : ∀ name, m.has name = true → l.has name = true) (hregular : ∀ name, l.has name = true → Regular name)
    (hname : l.own (.named name) = unsetLevel) (hname' : m.own (.named name) = unsetLevel)
    (habove : ∀ p ∈ namesAbove name, l.effectiveNamed p = m.effectiveNamed p) :
    l.effectiveNamed name = m.effectiveNamed name := by
  have hregular' : ∀ name, m.has name = true → Regular name := fun name h => hregular name (hhas name h)
  rw [effectiveNamed_of_unset hname, parent?_of_regular hregular]
  cases hparent : (namesAbove name).find? l.has with
  | none =>
    have hparent' : m.parent? name = none := by
      rw [parent?_of_regular hregular', List.find?_eq_none]
      intro p hp hm
      exact List.find?_eq_none.1 hparent p hp (hhas p hm)
    rw [effectiveNamed_of_unset hname', hparent', Option.map_none, Option.map_none, hroot]
  | some p =>
    rw [Option.map_some, Option.getD_some, habove p (List.mem_of_find?_eq_some hparent)]
    obtain ⟨hp, nearer, rest, heq, hnearer⟩ := List.find?_eq_some_iff_append.1 hparent
    have hnearer' : ∀ a ∈ nearer, m.has a = false := by
      intro a ha
      by_contra hm
      have hno := hnearer a ha
      rw [hhas a (Bool.not_eq_false _ ▸ hm)] at hno
      cases hno
    cases hm : m.has p with
    | false =>
      -- `m` looks further up from the name as it does from this one
      exact (effectiveNamed_eq_of_above hregular' heq hnearer' hm (hregular p hp).getLast?_ne hname').symm
    | true =>
      have hparent' : m.parent? name = some p := by
        rw [parent?_of_regular hregular', List.find?_eq_some_iff_append]
        exact ⟨hm, nearer, rest, heq, fun a ha => by rw [hnearer' a ha]; rfl⟩
      rw [effectiveNamed_of_unset hname', hparent', Option.map_some, Option.getD_some]

/-- More loggers than `m` has are in use, with the same levels where they are the same. Then the same level decides
everywhere exactly if each logger that is left over has no level of its own, or the one that it would inherit. -/
theorem effectiveNamed_eq_iff (hroot : l.rootLevel = m.rootLevel)
    (hhas : ∀ name, m.has name = true → l.has name = true)
    (hown : ∀ name, m.has name = true → l.own (.named name) = m.own (.named name))
    (hregular : ∀ name, l.has name = true → Regular name) :
    (∀ name, l.effectiveNamed name = m.effectiveNamed name) ↔
      ∀ name, l.has name = true → m.has name = false →
        l.own (.named name) = unsetLevel ∨ l.own (.named name) = m.effectiveNamed name := by
  constructor
  · intro heq name _ _
    by_cases hname : l.own (.named name) = unsetLevel
    · exact .inl hname
    · exact .inr (by rw [← heq, effectiveNamed_of_set hname])
  · intro hleft name
    -- a logger inherits from one with a shorter name
    induction hlen : name.length using Nat.strong_induction_on generalizing name with
    | _ size ih =>
      by_cases hname : l.own (.named name) = unsetLevel
      · have hname' : m.own (.named name) = unsetLevel := by
          cases hm : m.has name with
          | false => exact own_of_not_has hm
          | true => rw [← hown name hm, hname]
        refine effectiveNamed_eq_of_unset hroot hhas hregular hname hname' fun p hp => ?_
        exact ih p.length (hlen ▸ length_of_mem_namesAbove hp) p rfl
      · rw [effectiveNamed_of_set hname]
        cases hm : m.has name with
        | true =>
          rw [hown name hm] at hname ⊢
          rw [effectiveNamed_of_set hname]
        | false => exact (hleft name (has_of_own_ne hname) hm).resolve_left hname

end Loggers

end JmsNaming.Log
