import JmsNaming.Text.CaseTable
import JmsNaming.Text.Character

/-
Capital and small forms of a text, as Unicode's full case mappings give them: a character may map
to several, and a capital sigma at the end of a word becomes a final sigma.
-/
namespace JmsNaming.Text

/-- What a code point maps to under a table of runs and a table of expansions. -/
def mapCase (runs : List (Nat × Nat × Nat × Nat)) (expansions : List (Nat × List Nat)) (c : Char) : List Char :=
  let n := c.toNat
  match runs.find? fun r => r.1 ≤ n && n ≤ r.2.1 && (n - r.1) % r.2.2.1 == 0 with
  | some r => [Char.ofNat (r.2.2.2 + (n - r.1))]
  | none =>
    match expansions.find? (·.1 == n) with
    | some e => e.2.map Char.ofNat
    | none => [c]

/-- The capital form of one character. -/
def upperChar (c : Char) : List Char :=
  if c.toNat < 128 then [c.toUpper] else mapCase upperRuns upperExpansions c

/-- The small form of one character, wherever it stands. -/
def lowerChar (c : Char) : List Char :=
  if c.toNat < 128 then [c.toLower] else mapCase lowerRuns lowerExpansions c

/-- Going outwards from a sigma and past what it looks through, a cased letter comes first. -/
def meetsCased : List Char → Bool
  | [] => false
  | c :: cs =>
    if inRanges caseIgnorableRanges c.toNat then meetsCased cs else inRanges casedRanges c.toNat

/-- The small form of a text whose preceding characters, nearest first, are `seen`. -/
def lowerFrom (seen : List Char) : List Char → List Char
  | [] => []
  | c :: cs =>
    let form := if c = 'Σ' then (if meetsCased seen && !meetsCased cs then ['ς'] else ['σ']) else lowerChar c
    form ++ lowerFrom (c :: seen) cs

/-- The capital form of a text. -/
def upper (s : List Char) : List Char :=
  s.flatMap upperChar

/-- The small form of a text. -/
def lower (s : List Char) : List Char :=
  lowerFrom [] s

end JmsNaming.Text
