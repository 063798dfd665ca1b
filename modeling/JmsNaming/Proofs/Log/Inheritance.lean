import JmsNaming.Proofs.Log.Ancestors

/-
The level that a logger inherits where the loggers came into use with the levels of a map, in its order. It is the
nearest level of the map, except that a name which begins the root's reaches only the loggers that came into use after
it: where the last logger on the way up to such a name came first, the level of the root decides instead.
-/
namespace JmsNaming.Log

namespace Loggers

variable {l : Loggers} {levels : List (List Char × Nat)} {name p q c : List Char}

/-! ## Inheriting along the names above -/

/-- A level is set for the name. -/
def isSet (l : Loggers) (name : List Char) : Bool :=
  l.own (.named name) ≠ unsetLevel

/-- The last logger in use on the way up from a logger, before a name. -/
def below (l : Loggers) (c : List Char) (names : List (List Char)) (p : List Char) : List Char :=
  ((names.takeWhile (· ≠ p)).filter l.has).getLastD c

theorem below_cons_self (c p : List Char) (names : List (List Char)) : l.below c (p :: names) p = c := by
  simp [below]

theorem below_cons {names : List (List Char)} (h : q ≠ p) :
    l.below c (q :: names) p = l.below (if l.has q then q else c) names p := by
  rw [below, below, List.takeWhile_cons_of_pos (by simpa using h)]
  cases hq : l.has q with
  | true => rw [List.filter_cons_of_pos hq, List.getLastD_cons, if_pos rfl]
  | false => rw [List.filter_cons_of_neg (by simp [hq])]; rfl

/-- A logger inherits the nearest level that is set above it, if the name that has it takes in the last logger on the
way up to it. -/
theorem inherited_eq (h : WellFormed name) (c : List Char) :
    (((namesAbove name).find? (l.takesIn · c)).map l.effectiveNamed).getD l.rootLevel =
      match (namesAbove name).find? l.isSet with
      | some p => if l.takesIn p (l.below c (namesAbove name) p) then l.own (.named p) else l.rootLevel
      | none => l.rootLevel := by
  induction name, h using WellFormed.induct generalizing c with
  | single name _ _ habove => rw [habove]; rfl
  | more p q hname hq habove ih =>
    rw [habove]
    have hne : ∀ r, (namesAbove p).find? l.isSet = some r → p ≠ r := by
      rintro r hr rfl
      exact Nat.lt_irrefl _ (length_of_mem_namesAbove (List.mem_of_find?_eq_some hr))
    cases htakes : l.takesIn p c with
    | true =>
      have hhas : l.has p = true := by
        rw [takesIn, Bool.and_eq_true] at htakes
        exact htakes.1
      simp only [List.find?_cons, htakes, Option.map_some, Option.getD_some]
      cases hset : l.isSet p with
      | true =>
        have hown : l.own (.named p) ≠ unsetLevel := by simpa [isSet] using hset
        dsimp only
        rw [below_cons_self, if_pos htakes, effectiveNamed_of_set hown]
      | false =>
        have hown : l.own (.named p) = unsetLevel := by simpa [isSet] using hset
        rw [effectiveNamed_of_unset hown, parent?, ih]
        cases hfind : (namesAbove p).find? l.isSet with
        | none => rfl
        | some r =>
          dsimp only
          rw [below_cons (hne r hfind), if_pos hhas]
    | false =>
      simp only [List.find?_cons, htakes]
      cases hhas : l.has p with
      | false =>
        have hset : l.isSet p = false := by simpa [isSet] using own_of_not_has hhas
        rw [ih, hset]
        cases hfind : (namesAbove p).find? l.isSet with
        | none => rfl
        | some r =>
          dsimp only
          rw [below_cons (hne r hfind), hhas]
          rfl
      | true =>
        -- the name begins the root's, so that none is above it
        have hroot : p.isPrefixOf LoggerName.rootName = true := by
          by_contra hroot
          simp [takesIn, hhas, hroot] at htakes
        rw [namesAbove_of_isPrefixOf hroot]
        cases l.isSet p with
        | true =>
          dsimp only
          rw [below_cons_self, htakes]
          rfl
        | false => rfl

/-- Of names that get shorter, the last that passes a test is the shortest of those that do. -/
theorem getLastD_filter_spec {names : List (List Char)} {test : List Char → Bool}
    (h : (name :: names).Pairwise fun a b => b.length < a.length) :
    let b := (names.filter test).getLastD name
    b ∈ name :: names ∧ (b = name ∨ test b = true) ∧ ∀ q ∈ name :: names, test q = true → b.length ≤ q.length := by
  intro b
  obtain ⟨hlonger, hsorted⟩ := List.pairwise_cons.1 h
  have hfiltered : ∀ q ∈ name :: names, test q = true → q = name ∨ q ∈ names.filter test := fun q hq htest =>
    (List.mem_cons.1 hq).imp_right fun hmem => List.mem_filter.2 ⟨hmem, htest⟩
  rcases List.eq_nil_or_concat' (names.filter test) with hnil | ⟨passed, top, hpassed⟩
  · have hb : b = name := by simp only [b, hnil, List.getLastD_nil]
    rw [hb]
    refine ⟨List.mem_cons_self, .inl rfl, fun q hq htest => ?_⟩
    rcases hfiltered q hq htest with rfl | hmem
    · exact le_rfl
    · rw [hnil] at hmem
      cases hmem
  · have hb : b = top := by simp only [b, hpassed, List.getLastD_concat]
    rw [hb]
    obtain ⟨htop, htested⟩ : top ∈ names ∧ test top = true := List.mem_filter.1 (by rw [hpassed]; simp)
    refine ⟨List.mem_cons_of_mem _ htop, .inr htested, fun q hq htest => ?_⟩
    have hordered := hsorted.sublist (List.filter_sublist (p := test))
    rw [hpassed, List.pairwise_append] at hordered
    rcases hfiltered q hq htest with rfl | hmem
    · exact (hlonger top htop).le
    · rw [hpassed, List.mem_append, List.mem_singleton] at hmem
      rcases hmem with hmem | rfl
      · exact (hordered.2.2 q hmem top List.mem_cons_self).le
      · exact le_rfl

/-- The last logger in use on the way up to a name that begins the root's is the topmost of them. -/
theorem below_spec (hname : WellFormed name) (hroot : p <+: LoggerName.rootName) (hp : p ∈ namesAbove name) :
    let b := l.below name (namesAbove name) p
    (Heads b name ∧ b ≠ p) ∧ (b = name ∨ l.has b = true) ∧
      ∀ q, l.has q = true → Heads q name → q ≠ p → b.length ≤ q.length := by
  intro b
  obtain ⟨nearer, rest, hsplit, hnearer⟩ := List.eq_append_cons_of_mem hp
  have hlast : p.getLast? ≠ some '.' := fun hdot =>
    absurd (hroot.subset (List.mem_of_getLast? hdot)) (by decide)
  obtain rfl : rest = [] := by
    rw [eq_namesAbove hsplit hlast, namesAbove_of_isPrefixOf (List.isPrefixOf_iff_prefix.2 hroot)]
  have hb : b = (nearer.filter l.has).getLastD name := by
    have htake : ∀ a ∈ nearer, decide (a ≠ p) = true := fun a ha =>
      decide_eq_true (ne_of_mem_of_not_mem ha hnearer)
    simp only [b, below, hsplit, List.takeWhile_append_of_pos htake]
    simp
  have hheads : ∀ q, Heads q name ↔ q ∈ name :: nearer ∨ q = p := fun q => by
    rw [heads_iff hname, hsplit, List.mem_cons, List.mem_append, List.mem_singleton, List.mem_cons, or_assoc]
  have hsorted := pairwise_length_namesAbove hname
  rw [hsplit, ← List.cons_append, List.pairwise_append] at hsorted
  obtain ⟨hmem, hused, hshortest⟩ := getLastD_filter_spec hsorted.1
  rw [← hb] at hmem hused hshortest
  refine ⟨⟨(hheads b).2 (.inl hmem), ?_⟩, hused, fun q hq hhead hne => ?_⟩
  · exact ne_of_apply_ne List.length (hsorted.2.2 b hmem p List.mem_cons_self).ne'
  · exact hshortest q (((hheads q).1 hhead).resolve_right hne) hq

/-! ## Loggers with the levels of a map -/

/-- The loggers in use are those of a map, with its levels and in its order, and others that came into use after them
without a level. -/
def Holds (l : Loggers) (levels : List (List Char × Nat)) : Prop :=
  ∃ later : List (List Char), l.named = levels ++ later.map fun n => (n, unsetLevel)

theorem Holds.visit (h : l.Holds levels) (n : LoggerName) : (l.visit n).Holds levels := by
  obtain ⟨later, hl⟩ := h
  cases n with
  | root => exact ⟨later, hl⟩
  | named q =>
    rw [Loggers.visit]
    split
    · exact ⟨later, hl⟩
    · exact ⟨later ++ [q], by simp [hl]⟩

theorem Holds.has (h : l.Holds levels) (hp : p ∈ levels.map Prod.fst) : l.has p = true := by
  obtain ⟨later, hl⟩ := h
  rw [has_iff, hl, List.map_append]
  exact List.mem_append_left _ hp

theorem Holds.own (h : l.Holds levels) (p : List Char) :
    l.own (.named p) = (levels.lookup p).getD unsetLevel := by
  obtain ⟨later, hl⟩ := h
  rw [Loggers.own, hl]
  clear hl
  induction later using List.reverseRecOn with
  | nil => rw [List.map_nil, List.append_nil]
  | append_singleton later q ih =>
    rw [List.map_append, ← List.append_assoc, List.map_singleton, lookup_append_unset, ih]

theorem Holds.own_of_mem (h : l.Holds levels) (hnodup : (levels.map Prod.fst).Nodup) {e : List Char × Nat}
    (he : e ∈ levels) : l.own (.named e.1) = e.2 := by
  rw [h.own, (lookup_eq_some_iff_mem hnodup).2 he, Option.getD_some]

theorem Holds.isSet_iff (h : l.Holds levels) (hnodup : (levels.map Prod.fst).Nodup) :
    l.isSet p = true ↔ ∃ e ∈ levels, e.1 = p ∧ e.2 ≠ unsetLevel := by
  rw [isSet, decide_eq_true_eq]
  constructor
  · intro hown
    rw [h.own] at hown
    cases hlookup : levels.lookup p with
    | none => exact absurd (by rw [hlookup, Option.getD_none]) hown
    | some v =>
      rw [hlookup, Option.getD_some] at hown
      exact ⟨(p, v), (lookup_eq_some_iff_mem hnodup).1 hlookup, rfl, hown⟩
  · rintro ⟨e, he, rfl, hset⟩
    rwa [h.own_of_mem hnodup he]

/-- A logger of the map is older than those after it in the map, and than all that came into use later. -/
theorem Holds.older_iff (h : l.Holds levels) (hp : p ∈ levels.map Prod.fst) :
    l.older p c = true ↔ (levels.map Prod.fst).idxOf p < (levels.map Prod.fst).idxOf c := by
  obtain ⟨later, hl⟩ := h
  rw [older, hl]
  clear hl
  induction levels with
  | nil => cases hp
  | cons e levels ih =>
    rw [List.map_cons, List.cons_append, List.takeWhile_cons]
    by_cases hc : e.1 = c
    · rw [List.idxOf_cons_eq _ hc]
      simp [hc]
    · rw [List.idxOf_cons_ne _ hc, if_pos (by simpa using hc), List.any_cons]
      by_cases he : e.1 = p
      · rw [List.idxOf_cons_eq _ he]
        simp [he]
      · rw [List.idxOf_cons_ne _ he, Nat.succ_lt_succ_iff, ← ih (List.mem_of_ne_of_mem (Ne.symm he) hp)]
        simp [he]

/-! ## The level that decides -/

section Decide

variable (h : l.Holds levels) (hnodup : (levels.map Prod.fst).Nodup) (hname : WellFormed name)
include h hnodup hname

/-- Of the name and those above it, the first with a level is that of the nearest entry. -/
theorem Holds.find?_isSet : (name :: namesAbove name).find? l.isSet = (nearest? levels name).map Prod.fst := by
  cases hfind : (name :: namesAbove name).find? l.isSet with
  | none =>
    have hnone : nearest? levels name = none := by
      refine nearest?_eq_none_iff.2 fun e he hhead => ?_
      by_contra hset
      exact List.find?_eq_none.1 hfind e.1 ((heads_iff hname).1 hhead) ((h.isSet_iff hnodup).2 ⟨e, he, rfl, hset⟩)
    rw [hnone, Option.map_none]
  | some p =>
    obtain ⟨hset, nearer, rest, hsplit, hnearer⟩ := List.find?_eq_some_iff_append.1 hfind
    obtain ⟨e, he, rfl, hne⟩ := (h.isSet_iff hnodup).1 hset
    have hhead : Heads e.1 name := (heads_iff hname).2 (List.mem_of_find?_eq_some hfind)
    have hsorted := pairwise_length_namesAbove hname
    rw [hsplit, List.pairwise_append, List.pairwise_cons] at hsorted
    have hsome : nearest? levels name = some e := by
      refine (nearest?_eq_some_iff hnodup).2 ⟨⟨he, hhead, hne⟩, fun d hd hdhead hdset => ?_⟩
      have hmem := (heads_iff hname).1 hdhead
      rw [hsplit, List.mem_append, List.mem_cons] at hmem
      rcases hmem with hmem | hmem | hmem
      · have hno := hnearer d.1 hmem
        rw [(h.isSet_iff hnodup).2 ⟨d, hd, rfl, hdset⟩] at hno
        cases hno
      · exact (congrArg List.length hmem).le
      · exact (hsorted.2.1.1 d.1 hmem).le
    rw [hsome, Option.map_some]

/-- The level of the nearest entry decides, if its name is the logger's or reaches down to it. -/
theorem Holds.effectiveNamed_eq : l.effectiveNamed name =
    match nearest? levels name with
    | some e => if e.1 = name ∨ l.takesIn e.1 (l.below name (namesAbove name) e.1) = true then e.2 else l.rootLevel
    | none => l.rootLevel := by
  have hfind := h.find?_isSet hnodup hname
  rw [List.find?_cons] at hfind
  cases hset : l.isSet name with
  | true =>
    have hown : l.own (.named name) ≠ unsetLevel := by simpa [isSet] using hset
    rw [hset] at hfind
    obtain ⟨e, he, heq⟩ := Option.map_eq_some_iff.1 hfind.symm
    rw [he, effectiveNamed_of_set hown, ← heq]
    dsimp only
    rw [if_pos (.inl rfl), h.own_of_mem hnodup ((nearest?_eq_some_iff hnodup).1 he).1.1]
  | false =>
    have hown : l.own (.named name) = unsetLevel := by simpa [isSet] using hset
    rw [hset] at hfind
    dsimp only at hfind
    rw [effectiveNamed_of_unset hown, parent?, inherited_eq hname, hfind]
    cases hnearest : nearest? levels name with
    | none => rfl
    | some e =>
      have hmem : e.1 ∈ namesAbove name := List.mem_of_find?_eq_some (by rw [hfind, hnearest]; rfl)
      have hne : e.1 ≠ name := ne_of_apply_ne List.length (length_of_mem_namesAbove hmem).ne
      dsimp only [Option.map_some]
      rw [h.own_of_mem hnodup ((nearest?_eq_some_iff hnodup).1 hnearest).1.1]
      simp only [hne, false_or]

/-- Without a cut, the nearest name reaches down to the logger. -/
theorem Holds.takesIn_below {top : List Char × Nat} (htop : nearest? levels name = some top) (hne : top.1 ≠ name)
    (hcut : ¬CutOff levels name) :
    l.takesIn top.1 (l.below name (namesAbove name) top.1) = true := by
  obtain ⟨⟨hmem, hhead, -⟩, -⟩ := (nearest?_eq_some_iff hnodup).1 htop
  have hkey : top.1 ∈ levels.map Prod.fst := List.mem_map_of_mem hmem
  have habove : top.1 ∈ namesAbove name := List.mem_of_ne_of_mem hne ((heads_iff hname).1 hhead)
  rw [takesIn, h.has hkey, Bool.true_and, Bool.or_eq_true, Bool.not_eq_true', or_iff_not_imp_left,
    Bool.not_eq_false, List.isPrefixOf_iff_prefix]
  intro hroot
  obtain ⟨⟨hbhead, hbne⟩, -, hbtop⟩ := below_spec (l := l) hname hroot habove
  rw [h.older_iff hkey]
  by_contra holder
  have hlt : (levels.map Prod.fst).idxOf (l.below name (namesAbove name) top.1) <
      (levels.map Prod.fst).idxOf top.1 := by
    exact lt_of_le_of_ne (not_lt.1 holder) fun heq => hbne ((List.idxOf_inj hkey).1 heq.symm).symm
  exact hcut ⟨top, htop, hroot, _, List.idxOf_lt_length_iff.1 (hlt.trans (List.idxOf_lt_length_iff.2 hkey)),
    ⟨hbhead, hbne⟩, fun q hq => hbtop q (h.has hq), hlt⟩

/-- Without other loggers in use than those of the map, a cut is one. -/
theorem Holds.not_takesIn_below {top : List Char × Nat} (htop : nearest? levels name = some top) (hne : top.1 ≠ name)
    (hcut : CutOff levels name)
    (hused : ∀ q, l.has q = true → q = name ∨ q ∈ levels.map Prod.fst) :
    l.takesIn top.1 (l.below name (namesAbove name) top.1) = false := by
  obtain ⟨top', htop', hroot, child, hchild, ⟨hchead, hcne⟩, hlowest, hlt⟩ := hcut
  obtain rfl : top' = top := Option.some.inj (htop'.symm.trans htop)
  obtain ⟨⟨hmem, hhead, -⟩, -⟩ := (nearest?_eq_some_iff hnodup).1 htop
  have hkey : top'.1 ∈ levels.map Prod.fst := List.mem_map_of_mem hmem
  have habove : top'.1 ∈ namesAbove name := List.mem_of_ne_of_mem hne ((heads_iff hname).1 hhead)
  obtain ⟨⟨hbhead, hbne⟩, hb, hbtop⟩ := below_spec (l := l) hname hroot habove
  have heq : l.below name (namesAbove name) top'.1 = child := by
    refine hbhead.eq_of_length hchead (Nat.le_antisymm (hbtop child (h.has hchild) hchead hcne) ?_)
    rcases hb.elim .inl (hused _) with hb | hb
    · rw [hb]
      exact hchead.isPrefix.length_le
    · exact hlowest _ hb hbhead hbne
  rw [heq, takesIn, List.isPrefixOf_iff_prefix.2 hroot, Bool.not_true, Bool.false_or, Bool.and_eq_false_iff]
  exact .inr (Bool.eq_false_iff.2 fun holder => Nat.lt_asymm hlt ((h.older_iff hkey).1 holder))

/-- Without a cut, the nearest level decides, whatever loggers came into use later. -/
theorem Holds.effectiveNamed_of_not_cutOff (hcut : ¬CutOff levels name) :
    l.effectiveNamed name = ((nearest? levels name).map Prod.snd).getD l.rootLevel := by
  rw [h.effectiveNamed_eq hnodup hname]
  cases htop : nearest? levels name with
  | none => rfl
  | some top =>
    dsimp only [Option.map_some, Option.getD_some]
    refine if_pos ?_
    by_cases hne : top.1 = name
    · exact .inl hne
    · exact .inr (h.takesIn_below hnodup hname htop hne hcut)

/-- Behind a cut, the level of the root decides, if no loggers came into use later. -/
theorem Holds.effectiveNamed_of_cutOff (hcut : CutOff levels name)
    (hused : ∀ q, l.has q = true → q = name ∨ q ∈ levels.map Prod.fst) : l.effectiveNamed name = l.rootLevel := by
  have hcut' := hcut
  obtain ⟨top, htop, hroot, child, -, ⟨hchead, hcne⟩, -, -⟩ := hcut'
  have hne : top.1 ≠ name := by
    rintro rfl
    -- no other name is above one that begins the root's
    have hmem := (heads_iff hname).1 hchead
    rw [namesAbove_of_isPrefixOf (List.isPrefixOf_iff_prefix.2 hroot), List.mem_singleton] at hmem
    exact hcne hmem
  rw [h.effectiveNamed_eq hnodup hname, htop]
  dsimp only
  rw [if_neg]
  simp [hne, h.not_takesIn_below hnodup hname htop hne hcut hused]

end Decide

end Loggers

end JmsNaming.Log
