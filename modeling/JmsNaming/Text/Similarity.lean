/-
How alike two texts are: the characters that they share in common runs, of all their characters. The
longest common run is taken first, and what stands before and after it is compared in the same way.
-/
namespace JmsNaming.Text

/-- The length of the common start of two texts. -/
def commonLead : List Char → List Char → Nat
  | a :: as, b :: bs => if a = b then commonLead as bs + 1 else 0
  | _, _ => 0

/-- A common run: its length and its places in the two texts. -/
structure Run where
  length : Nat := 0
  first : Nat := 0
  second : Nat := 0

/-- The longest common run, of several the one that begins first in `a` and then in `b`. -/
def longestRun (a b : List Char) : Run :=
  (List.range a.length).foldl (fun best i =>
    (List.range b.length).foldl (fun best j =>
      let n := commonLead (a.drop i) (b.drop j)
      if best.length < n then ⟨n, i, j⟩ else best) best) {}

/-- The number of characters in common runs, found in at most `fuel` steps one inside the other. -/
def commonRuns : (fuel : Nat) → List Char → List Char → Nat
  | 0, _, _ => 0
  | fuel + 1, a, b =>
    let r := longestRun a b
    if r.length = 0 then 0
    else commonRuns fuel (a.take r.first) (b.take r.second) + r.length +
      commonRuns fuel (a.drop (r.first + r.length)) (b.drop (r.second + r.length))

/-- At least three characters of five are in common runs. -/
def isSimilar (a b : List Char) : Bool :=
  3 * (a.length + b.length) ≤ 10 * commonRuns a.length a b

end JmsNaming.Text
