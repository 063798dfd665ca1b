import JmsNaming.Proofs.Json.Text
import JmsNaming.Proofs.Number.Decimal
import JmsNaming.Proofs.Value.Table

/-
A value that is written as JSON is read back as the value, in every layout and whatever follows it, if its maps have
texts for keys and it has no floating-point numbers and no moments in it.
-/
namespace JmsNaming

namespace Json

open Text

variable {rest blanks s : List Char} {fuel : Nat} {layout : Layout}

/-! ## Blanks -/

/-- The characters that may stand between values. -/
def AllBlank (s : List Char) : Prop :=
  ∀ c ∈ s, (c == ' ' || c == '\n' || c == '\r' || c == '\t') = true

theorem skipBlanks_append (h : AllBlank blanks) : skipBlanks (blanks ++ s) = skipBlanks s :=
  List.dropWhile_append_of_pos h

theorem allBlank_newLine (depth : Nat) : AllBlank (newLine depth) := by
  intro c hc
  rcases List.mem_cons.1 hc with rfl | hc
  · rfl
  · rw [List.eq_of_mem_replicate hc]
    rfl

theorem allBlank_start (layout : Layout) : AllBlank layout.start := by
  cases layout with
  | line => exact nofun
  | indented depth => exact allBlank_newLine _

theorem allBlank_stop (layout : Layout) : AllBlank layout.stop := by
  cases layout with
  | line => exact nofun
  | indented depth => exact allBlank_newLine _

/-- Between two parts stand a comma and blanks. -/
theorem exists_between (layout : Layout) : ∃ blanks, layout.between = ',' :: blanks ∧ AllBlank blanks := by
  cases layout with
  | line => exact ⟨[' '], rfl, by simp [AllBlank]⟩
  | indented depth => exact ⟨_, rfl, allBlank_newLine _⟩

theorem readValue?_append (h : AllBlank blanks) : readValue? fuel (blanks ++ s) = readValue? fuel s := by
  cases fuel with
  | zero => rfl
  | succ fuel => rw [readValue?, readValue?, skipBlanks_append h]

theorem readEntries?_append {seen : List (Scalar × Value)} (h : AllBlank blanks) :
    readEntries? fuel seen (blanks ++ s) = readEntries? fuel seen s := by
  cases fuel with
  | zero => rfl
  | succ fuel => rw [readEntries?, readEntries?, skipBlanks_append h]

/-! ## Values that are read back -/

/-- A value that its JSON text tells apart from every other: a map in it has texts for keys, and there is neither a
floating-point number nor a moment. -/
inductive Faithful : Value → Prop
  | null : Faithful .null
  | bool (b : Bool) : Faithful (.bool b)
  | int (i : Int) : Faithful (.int i)
  | text (s : String) : Faithful (.text s)
  | list {items : List Value} (h : ∀ v ∈ items, Faithful v) : Faithful (.list items)
  | map {t : Table} (names : ∀ e ∈ t, ∃ name, e.1 = .text name) (keys : t.Distinct) (values : ∀ e ∈ t, Faithful e.2) :
    Faithful (.map t)

/-! ## Whole numbers -/

/-- A number may end here. -/
def EndsNumber (s : List Char) : Prop :=
  ∀ c ∈ s.head?, isNumberChar c = false

/-- The digits of a whole number, with a minus if it is negative. -/
theorem exists_digits (i : Int) : ∃ digits : List Char, digits ≠ [] ∧ (∀ c ∈ digits, c.isDigit = true) ∧
    ((toString i).toList = digits ∧ i = natOfDigits 0 digits ∨
      (toString i).toList = '-' :: digits ∧ i = -(natOfDigits 0 digits : Int)) := by
  have hdigits : ∀ n : Nat, Nat.toDigits 10 n ≠ [] ∧ ∀ c ∈ Nat.toDigits 10 n, c.isDigit = true := fun n =>
    ⟨by simp, fun c hc => Nat.isDigit_of_mem_toDigits (by decide) (by decide) hc⟩
  rcases Int.eq_nat_or_neg i with ⟨n, rfl | rfl⟩
  · refine ⟨Nat.toDigits 10 n, (hdigits n).1, (hdigits n).2, .inl ⟨toList_toString_natCast n, ?_⟩⟩
    rw [natOfDigits_toDigits]
  · by_cases hn : n = 0
    · subst hn
      exact ⟨['0'], by simp, by simp, .inl ⟨by decide, by decide⟩⟩
    · refine ⟨Nat.toDigits 10 n, (hdigits n).1, (hdigits n).2, .inr ⟨?_, by rw [natOfDigits_toDigits]⟩⟩
      rw [Int.toString_eq_repr, Int.repr_eq_if, if_neg (by omega)]
      simp

theorem isNumberChar_of_isDigit {c : Char} (h : c.isDigit = true) : isNumberChar c = true := by
  simp [isNumberChar, h]

theorem wholeOf?_digits {digits : List Char} (hne : digits ≠ []) (hd : ∀ c ∈ digits, c.isDigit = true) :
    wholeOf? digits = some (natOfDigits 0 digits : Int) ∧
      wholeOf? ('-' :: digits) = some (-(natOfDigits 0 digits : Int)) := by
  have hall : digits.all Char.isDigit = true := List.all_eq_true.2 hd
  have hempty : digits.isEmpty = false := by simpa using hne
  constructor
  · rw [wholeOf?.eq_def]
    split
    · exact absurd (hd '-' List.mem_cons_self) (by decide)
    · simp [hall, hempty]
  · simp [wholeOf?, hall, hempty]

theorem readNumber?_int (i : Int) : readNumber? (toString i).toList = some (.int i) := by
  obtain ⟨digits, hne, hd, hcases⟩ := exists_digits i
  have hplain : ∀ c ∈ digits, (c == '.' || c == 'e' || c == 'E') = false := by
    intro c hc
    by_contra hno
    simp only [Bool.not_eq_false, Bool.or_eq_true, beq_iff_eq] at hno
    rcases hno with (rfl | rfl) | rfl <;> exact absurd (hd _ hc) (by decide)
  have hany : (digits.any fun c => c == '.' || c == 'e' || c == 'E') = false := List.any_eq_false.2 fun c hc => by
    simp [hplain c hc]
  rcases hcases with ⟨htext, hi⟩ | ⟨htext, hi⟩
  · rw [htext, readNumber?, if_neg (by simp [hany]), (wholeOf?_digits hne hd).1, hi]
    rfl
  · rw [htext, readNumber?, if_neg (by simp [hany]), (wholeOf?_digits hne hd).2, hi]
    rfl

/-- The text of a whole number has only characters of numbers, and begins with a digit or a minus. -/
theorem toString_int_chars (i : Int) : (∀ c ∈ (toString i).toList, isNumberChar c = true) ∧
    ∃ c tail, (toString i).toList = c :: tail ∧ (c.isDigit = true ∨ c = '-') := by
  obtain ⟨digits, hne, hd, hcases⟩ := exists_digits i
  have hchars : ∀ c ∈ digits, isNumberChar c = true := fun c hc => isNumberChar_of_isDigit (hd c hc)
  rcases hcases with ⟨htext, -⟩ | ⟨htext, -⟩
  · obtain ⟨c, tail, rfl⟩ := List.exists_cons_of_ne_nil hne
    exact ⟨by rwa [htext], c, tail, htext, .inl (hd c List.mem_cons_self)⟩
  · rw [htext]
    exact ⟨List.forall_mem_cons.2 ⟨rfl, hchars⟩, '-', digits, rfl, .inr rfl⟩

theorem skipBlanks_number {c : Char} (hc : c.isDigit = true ∨ c = '-') (s : List Char) :
    skipBlanks (c :: s) = c :: s := by
  rcases hc with hc | rfl
  · refine List.dropWhile_cons_of_neg fun hb => ?_
    simp only [Bool.or_eq_true, beq_iff_eq] at hb
    rcases hb with ((rfl | rfl) | rfl) | rfl <;> exact absurd hc (by decide)
  · rfl

theorem readValue?_number {c : Char} (hc : c.isDigit = true ∨ c = '-') : readValue? (fuel + 1) (c :: s) =
    (readNumber? ((c :: s).takeWhile isNumberChar)).map fun n => (.scalar n, (c :: s).dropWhile isNumberChar) := by
  rw [readValue?, skipBlanks_number hc]
  split
  all_goals
    rename_i heq
    try
      obtain ⟨rfl, -⟩ := List.cons.inj heq
      rcases hc with hc | hc <;> cases hc
  rfl

theorem readValue?_int (i : Int) (h : EndsNumber rest) :
    readValue? (fuel + 1) ((toString i).toList ++ rest) = some (.int i, rest) := by
  obtain ⟨hchars, c, tail, htext, hc⟩ := toString_int_chars i
  have hspan : ((toString i).toList ++ rest).takeWhile isNumberChar = (toString i).toList ∧
      ((toString i).toList ++ rest).dropWhile isNumberChar = rest := by
    rw [List.takeWhile_append_of_pos hchars, List.dropWhile_append_of_pos hchars]
    cases rest with
    | nil => simp
    | cons d rest => simp [h d rfl]
  rw [htext, List.cons_append, readValue?_number hc, ← List.cons_append, ← htext, hspan.1, hspan.2, readNumber?_int]
  rfl

/-! ## Values -/

theorem length_le_length_flatMap (s : List Char) : s.length ≤ (s.flatMap writeChar).length := by
  have hpos : ∀ c, 1 ≤ (writeChar c).length := by
    intro c
    refine List.length_pos_iff.2 fun hempty => ?_
    -- reading the character back takes a step, and without one nothing is read
    have hread : readText? [] 1 (writeChar c ++ ['"']) = readText? [c] 0 ['"'] := readText?_writeChar
    rw [hempty] at hread
    cases hread
  induction s with
  | nil => simp
  | cons c s ih =>
    have := hpos c
    simp only [List.flatMap_cons, List.length_append, List.length_cons]
    omega

/-- A written text is a quote and what is read back as the text. -/
theorem exists_writeText (s : String) (rest : List Char) : ∃ tail, writeText s.toList ++ rest = '"' :: tail ∧
    readText? [] (tail.length + 1) tail = some (s, rest) := by
  refine ⟨s.toList.flatMap writeChar ++ '"' :: rest, by simp [writeText], ?_⟩
  have hlen : s.toList.length < (s.toList.flatMap writeChar ++ '"' :: rest).length + 1 := by
    have := length_le_length_flatMap s.toList
    simp only [List.length_append, List.length_cons]
    omega
  rw [readText?_flatMap [] rest hlen, List.reverse_nil, List.nil_append, String.ofList_toList]

theorem readValue?_text (s : String) :
    readValue? (fuel + 1) (writeText s.toList ++ rest) = some (.text s, rest) := by
  obtain ⟨tail, heq, hread⟩ := exists_writeText s rest
  have hquote : readValue? (fuel + 1) ('"' :: tail) =
      (readText? [] (tail.length + 1) tail).map fun p => (.text p.1, p.2) := rfl
  rw [heq, hquote, hread]
  rfl

/-! ## Lists and objects step by step -/

section Steps

variable {c : Char} {t : List Char} {v : Value}

theorem readValue?_list (h : skipBlanks s = c :: t) (hc : c ≠ ']') :
    readValue? (fuel + 1) ('[' :: s) = readItems? fuel [] (c :: t) := by
  have hskip : skipBlanks ('[' :: s) = '[' :: s := rfl
  rw [readValue?, hskip]
  simp only [h]
  split
  · rename_i heq
    exact absurd (List.cons.inj heq).1 hc
  · rfl

theorem readValue?_map (h : skipBlanks s = '"' :: t) :
    readValue? (fuel + 1) ('\x7b' :: s) = readEntries? fuel [] ('"' :: t) := by
  have hskip : skipBlanks ('\x7b' :: s) = '\x7b' :: s := rfl
  rw [readValue?, hskip]
  simp only [h]
  rfl

variable {items : List Value} {entries : List (Scalar × Value)}

/-- An item, up to what follows it. -/
theorem readItems?_item (hv : readValue? fuel s = some (v, rest)) :
    readItems? (fuel + 1) items s =
      match skipBlanks rest with
      | ',' :: t => readItems? fuel (v :: items) t
      | ']' :: t => some (.list (items.reverse ++ [v]), t)
      | _ => none := by
  have hstep : readItems? (fuel + 1) items s = (readValue? fuel s).bind fun p =>
      match skipBlanks p.2 with
      | ',' :: t => readItems? fuel (p.1 :: items) t
      | ']' :: t => some (.list (p.1 :: items).reverse, t)
      | _ => none := rfl
  rw [hstep, hv, Option.bind_some, List.reverse_cons]

theorem readItems?_more (hv : readValue? fuel s = some (v, rest)) (h : skipBlanks rest = ',' :: t) :
    readItems? (fuel + 1) items s = readItems? fuel (v :: items) t := by
  rw [readItems?_item hv, h]
  rfl

theorem readItems?_last (hv : readValue? fuel s = some (v, rest)) (h : skipBlanks rest = ']' :: t) :
    readItems? (fuel + 1) items s = some (.list (items.reverse ++ [v]), t) := by
  rw [readItems?_item hv, h]
  rfl

/-- A key with its value, up to what follows the value. -/
theorem readEntries?_entry (name : String) (hv : readValue? fuel s = some (v, rest)) :
    readEntries? (fuel + 1) entries (writeText name.toList ++ ':' :: ' ' :: s) =
      match skipBlanks rest with
      | ',' :: t => readEntries? fuel ((.text name, v) :: entries) t
      | '\x7d' :: t => some (.map (Table.ofEntries (entries.reverse ++ [(.text name, v)])), t)
      | _ => none := by
  obtain ⟨tail, heq, hread⟩ := exists_writeText name (':' :: ' ' :: s)
  have hblank : AllBlank [' '] := by simp [AllBlank]
  have hv' : readValue? fuel (' ' :: s) = some (v, rest) := by
    rw [← hv]
    exact readValue?_append hblank
  have hskip : skipBlanks ('"' :: tail) = '"' :: tail := rfl
  have hcolon : skipBlanks (':' :: ' ' :: s) = ':' :: ' ' :: s := rfl
  rw [heq, readEntries?, hskip]
  simp only [hread, hcolon, hv', Option.bind_eq_bind, Option.bind_some, List.reverse_cons]
  all_goals rfl

theorem readEntries?_more (name : String) (hv : readValue? fuel s = some (v, rest)) (h : skipBlanks rest = ',' :: t) :
    readEntries? (fuel + 1) entries (writeText name.toList ++ ':' :: ' ' :: s) =
      readEntries? fuel ((.text name, v) :: entries) t := by
  rw [readEntries?_entry name hv, h]
  rfl

theorem readEntries?_last (name : String) (hv : readValue? fuel s = some (v, rest))
    (h : skipBlanks rest = '\x7d' :: t) :
    readEntries? (fuel + 1) entries (writeText name.toList ++ ':' :: ' ' :: s) =
      some (.map (Table.ofEntries (entries.reverse ++ [(.text name, v)])), t) := by
  rw [readEntries?_entry name hv, h]
  rfl

end Steps

/-! ## Values -/

namespace Faithful

variable {vs : List Value} {t : Table}

theorem items (h : Faithful (.list vs)) : ∀ v ∈ vs, Faithful v := by
  cases h with
  | list h => exact h

theorem names (h : Faithful (.map t)) : ∀ e ∈ t, ∃ name, e.1 = .text name := by
  cases h with
  | map names _ _ => exact names

theorem keys (h : Faithful (.map t)) : t.Distinct := by
  cases h with
  | map _ keys _ => exact keys

theorem values (h : Faithful (.map t)) : ∀ e ∈ t, Faithful e.2 := by
  cases h with
  | map _ _ values => exact values

end Faithful

/-- A written value begins with a character that is no blank and closes no list. -/
theorem exists_head {v : Value} (layout : Layout) (h : Faithful v) : ∃ c tail, write layout v = c :: tail ∧
    (∀ s, skipBlanks (c :: s) = c :: s) ∧ c ≠ ']' := by
  cases h with
  | null => exact ⟨'n', _, rfl, fun _ => rfl, by decide⟩
  | bool b => cases b <;> exact ⟨_, _, rfl, fun _ => rfl, by decide⟩
  | int i =>
    obtain ⟨-, c, tail, htext, hc⟩ := toString_int_chars i
    refine ⟨c, tail, htext, skipBlanks_number hc, ?_⟩
    rintro rfl
    rcases hc with hc | hc <;> cases hc
  | text s => exact ⟨'"', _, rfl, fun _ => rfl, by decide⟩
  | @list items h => cases items <;> exact ⟨'[', _, rfl, fun _ => rfl, by decide⟩
  | @map t _ _ _ => cases t <;> exact ⟨'\x7b', _, rfl, fun _ => rfl, by decide⟩

theorem readValue?_scalar {s : Scalar} (h : Faithful (.scalar s)) (hrest : EndsNumber rest) :
    readValue? (fuel + 1) (writeScalar s ++ rest) = some (.scalar s, rest) := by
  cases h with
  | null => rfl
  | bool b => cases b <;> rfl
  | int i => exact readValue?_int i hrest
  | text s => exact readValue?_text s

theorem isNumberChar_stop (layout : Layout) (rest : List Char) {c : Char} (hc : isNumberChar c = false) :
    EndsNumber (layout.stop ++ c :: rest) := by
  cases layout with
  | line => simpa [Layout.stop, EndsNumber] using hc
  | indented depth => simp [Layout.stop, newLine, EndsNumber, isNumberChar]

/-- What goes on with a list or an object ends a number. -/
theorem endsNumber_between (layout : Layout) (rest : List Char) : EndsNumber (layout.between ++ rest) := by
  obtain ⟨blanks, hbetween, -⟩ := exists_between layout
  simp [hbetween, EndsNumber, isNumberChar]

mutual

theorem readValue?_write : ∀ (v : Value) (layout : Layout) (fuel : Nat) (rest : List Char), Faithful v →
    (write layout v).length < fuel → EndsNumber rest → readValue? fuel (write layout v ++ rest) = some (v, rest)
  | _, _, 0, _, _, hlen, _ => by cases hlen
  | .scalar s, layout, fuel + 1, rest, h, _, hrest => readValue?_scalar h hrest
  | .list [], layout, fuel + 1, rest, _, _, _ => rfl
  | .list (v :: vs), layout, fuel + 1, rest, h, hlen, _ => by
    obtain ⟨hv, hvs⟩ := List.forall_mem_cons.1 h.items
    obtain ⟨c, tail, hhead, hskip, hc⟩ := exists_head layout.deeper hv
    have hshape : write layout (.list (v :: vs)) ++ rest = '[' :: (layout.start ++
        (write layout.deeper v ++ (writeItems layout vs ++ (layout.stop ++ ']' :: rest)))) := by
      simp [write]
    have hstart : skipBlanks (layout.start ++
        (write layout.deeper v ++ (writeItems layout vs ++ (layout.stop ++ ']' :: rest)))) =
          c :: (tail ++ (writeItems layout vs ++ (layout.stop ++ ']' :: rest))) := by
      rw [skipBlanks_append (allBlank_start layout), hhead, List.cons_append, hskip]
    rw [hshape, readValue?_list hstart hc, ← List.cons_append, ← hhead]
    refine readItems?_writeItems vs layout fuel [] v _ rest hvs (fun f r => readValue?_write v _ f r hv) ?_
    simp only [write, List.length_append, List.length_cons] at hlen
    omega
  | .map [], layout, fuel + 1, rest, _, _, _ => rfl
  | .map ((k, v) :: es), layout, fuel + 1, rest, h, hlen, _ => by
    obtain ⟨⟨name, hname⟩, hnames⟩ := List.forall_mem_cons.1 h.names
    obtain ⟨hv, hvs⟩ := List.forall_mem_cons.1 h.values
    have hk : k = .text name := hname
    have hshape : write layout (.map ((k, v) :: es)) ++ rest = '\x7b' :: (layout.start ++ (writeText name.toList ++
        ':' :: ' ' :: (write layout.deeper v ++ (writeEntries layout es ++ (layout.stop ++ '\x7d' :: rest))))) := by
      simp [write, hk, keyText]
    obtain ⟨tail, htail, -⟩ := exists_writeText name (':' :: ' ' :: (write layout.deeper v ++
      (writeEntries layout es ++ (layout.stop ++ '\x7d' :: rest))))
    have hstart : skipBlanks (layout.start ++ (writeText name.toList ++
        ':' :: ' ' :: (write layout.deeper v ++ (writeEntries layout es ++ (layout.stop ++ '\x7d' :: rest))))) =
          '"' :: tail := by
      rw [skipBlanks_append (allBlank_start layout), htail]
      rfl
    have htable : Table.ofEntries ([].reverse ++ (.text name, v) :: es) = (k, v) :: es := by
      rw [hk] at h ⊢
      exact Table.ofEntries_of_distinct h.keys
    rw [hshape, readValue?_map hstart, ← htail, ← htable]
    refine readEntries?_writeEntries es layout fuel [] name v _ rest hnames hvs
      (fun f r => readValue?_write v _ f r hv) ?_
    simp only [write, List.length_append, List.length_cons] at hlen
    omega

theorem readItems?_writeItems : ∀ (vs : List Value) (layout : Layout) (fuel : Nat) (seen : List Value) (first : Value)
    (text rest : List Char), (∀ v ∈ vs, Faithful v) →
    (∀ fuel rest, text.length < fuel → EndsNumber rest → readValue? fuel (text ++ rest) = some (first, rest)) →
    text.length + (writeItems layout vs).length + 1 < fuel →
    readItems? fuel seen (text ++ (writeItems layout vs ++ (layout.stop ++ ']' :: rest))) =
      some (.list (seen.reverse ++ first :: vs), rest)
  | _, _, 0, _, _, _, _, _, _, hlen => by cases hlen
  | [], layout, fuel + 1, seen, first, text, rest, _, hfirst, hlen => by
    have hstop : skipBlanks (layout.stop ++ ']' :: rest) = ']' :: rest := skipBlanks_append (allBlank_stop layout)
    refine readItems?_last (hfirst fuel _ (by omega) ?_) hstop
    exact isNumberChar_stop layout rest (by decide)
  | v :: vs, layout, fuel + 1, seen, first, text, rest, h, hfirst, hlen => by
    obtain ⟨hv, hvs⟩ := List.forall_mem_cons.1 h
    obtain ⟨blanks, hbetween, hblanks⟩ := exists_between layout
    have hshape : writeItems layout (v :: vs) ++ (layout.stop ++ ']' :: rest) = ',' ::
        ((blanks ++ write layout.deeper v) ++ (writeItems layout vs ++ (layout.stop ++ ']' :: rest))) := by
      simp [writeItems, hbetween]
    have hends : EndsNumber (writeItems layout (v :: vs) ++ (layout.stop ++ ']' :: rest)) := by
      rw [writeItems, List.append_assoc, List.append_assoc]
      exact endsNumber_between layout _
    have hmore : skipBlanks (writeItems layout (v :: vs) ++ (layout.stop ++ ']' :: rest)) = ',' ::
        ((blanks ++ write layout.deeper v) ++ (writeItems layout vs ++ (layout.stop ++ ']' :: rest))) := by
      rw [hshape]
      rfl
    simp only [writeItems, hbetween, List.length_append, List.length_cons] at hlen
    rw [readItems?_more (hfirst fuel _ (by omega) hends) hmore, readItems?_writeItems vs layout fuel (first :: seen) v
      (blanks ++ write layout.deeper v) rest hvs ?_ ?_]
    · simp
    · intro f r hf hr
      rw [List.append_assoc, readValue?_append hblanks]
      rw [List.length_append] at hf
      exact readValue?_write v _ f r hv (by omega) hr
    · rw [List.length_append]
      omega

theorem readEntries?_writeEntries : ∀ (es : List (Scalar × Value)) (layout : Layout) (fuel : Nat)
    (seen : List (Scalar × Value)) (name : String) (first : Value) (text rest : List Char),
    (∀ e ∈ es, ∃ name, e.1 = .text name) → (∀ e ∈ es, Faithful e.2) →
    (∀ fuel rest, text.length < fuel → EndsNumber rest → readValue? fuel (text ++ rest) = some (first, rest)) →
    text.length + (writeEntries layout es).length + 1 < fuel →
    readEntries? fuel seen (writeText name.toList ++ ':' :: ' ' ::
        (text ++ (writeEntries layout es ++ (layout.stop ++ '\x7d' :: rest)))) =
      some (.map (Table.ofEntries (seen.reverse ++ (.text name, first) :: es)), rest)
  | _, _, 0, _, _, _, _, _, _, _, _, hlen => by cases hlen
  | [], layout, fuel + 1, seen, name, first, text, rest, _, _, hfirst, hlen => by
    have hstop : skipBlanks (layout.stop ++ '\x7d' :: rest) = '\x7d' :: rest := skipBlanks_append (allBlank_stop layout)
    refine readEntries?_last name (hfirst fuel _ (by omega) ?_) hstop
    exact isNumberChar_stop layout rest (by decide)
  | (k, v) :: es, layout, fuel + 1, seen, name, first, text, rest, hnames, hvs, hfirst, hlen => by
    obtain ⟨⟨next, hnext⟩, hnames⟩ := List.forall_mem_cons.1 hnames
    obtain ⟨hv, hvs⟩ := List.forall_mem_cons.1 hvs
    have hk : k = .text next := hnext
    obtain ⟨blanks, hbetween, hblanks⟩ := exists_between layout
    have hshape : writeEntries layout ((k, v) :: es) ++ (layout.stop ++ '\x7d' :: rest) = ',' :: (blanks ++
        (writeText next.toList ++ ':' :: ' ' :: (write layout.deeper v ++
          (writeEntries layout es ++ (layout.stop ++ '\x7d' :: rest))))) := by
      simp [writeEntries, hbetween, hk, keyText]
    have hends : EndsNumber (writeEntries layout ((k, v) :: es) ++ (layout.stop ++ '\x7d' :: rest)) := by
      rw [writeEntries, List.append_assoc, List.append_assoc, List.append_assoc]
      exact endsNumber_between layout _
    have hmore : skipBlanks (writeEntries layout ((k, v) :: es) ++ (layout.stop ++ '\x7d' :: rest)) = ',' :: (blanks ++
        (writeText next.toList ++ ':' :: ' ' :: (write layout.deeper v ++
          (writeEntries layout es ++ (layout.stop ++ '\x7d' :: rest))))) := by
      rw [hshape]
      rfl
    simp only [writeEntries, hbetween, List.length_append, List.length_cons] at hlen
    rw [readEntries?_more name (hfirst fuel _ (by omega) hends) hmore, readEntries?_append hblanks,
      readEntries?_writeEntries es layout fuel _ next v _ rest hnames hvs (fun f r => readValue?_write v _ f r hv)
        (by omega), hk]
    simp

end

/-- A written value is read back, with blanks behind it or without. -/
theorem read?_write {v : Value} (layout : Layout) (h : Faithful v) (hblanks : AllBlank blanks) :
    read? (String.ofList (write layout v ++ blanks)) = some v := by
  have hends : EndsNumber blanks := by
    intro c hc
    have hblank := hblanks c (List.mem_of_mem_head? hc)
    simp only [Bool.or_eq_true, beq_iff_eq] at hblank
    rcases hblank with ((rfl | rfl) | rfl) | rfl <;> rfl
  have hread := readValue?_write v layout ((write layout v ++ blanks).length + 1) blanks h
    (by rw [List.length_append]; omega) hends
  have hskip : skipBlanks blanks = [] := by
    have := skipBlanks_append (s := []) hblanks
    simpa [skipBlanks] using this
  rw [read?, String.toList_ofList, hread]
  simp [hskip]

end Json

end JmsNaming
