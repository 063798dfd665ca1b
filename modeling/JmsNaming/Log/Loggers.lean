import JmsNaming.Log.Level
import JmsNaming.Text.Cut
import JmsNaming.Value.Basic

/-
Loggers: the dotted names under which events are written, with a level each. A logger without a
level of its own has the one of the nearest logger above it, and in the end that of the root.
-/
namespace JmsNaming.Log

/-! ## Names -/

/-- The name of a logger. -/
inductive LoggerName where
  | root
  | named (name : List Char)
  deriving DecidableEq

namespace LoggerName

/-- The name of the root. -/
def rootName : List Char := "root".toList

/-- The empty name and that of the root mean the root. -/
def ofText (s : String) : LoggerName :=
  if s.isEmpty || s.toList = rootName then root else named s.toList

/-- The name that a scalar stands for: a text, or a scalar that counts as nothing. -/
def ofScalar? : Scalar → Option LoggerName
  | .text s => some (ofText s)
  | s => if (Value.scalar s).isEmpty then some root else none

def text : LoggerName → String
  | root => String.ofList rootName
  | named s => String.ofList s

end LoggerName

theorem length_of_cutLast? {c : Char} {s p q : List Char} (h : Text.cutLast? c s = some (p, q)) :
    p.length < s.length := by
  induction s generalizing p q with
  | nil => simp [Text.cutLast?] at h
  | cons x xs ih =>
    cases hx : Text.cutLast? c xs with
    | some r =>
      simp only [Text.cutLast?, hx, Option.some.injEq, Prod.mk.injEq] at h
      obtain ⟨rfl, rfl⟩ := h
      simpa using ih (p := r.1) (q := r.2) (by simp [hx])
    | none =>
      simp only [Text.cutLast?, hx] at h
      split at h
      · simp only [Option.some.injEq, Prod.mk.injEq] at h
        simp [h.1.symm]
      · simp at h

/-- The names above a name, nearest first: what stands before each dot. Of dots side by side, every
other one counts. -/
def namesAbove (s : List Char) : List (List Char) :=
  match _h : Text.cutLast? '.' s with
  | some (p, _) => if p.isEmpty then [] else p :: namesAbove p.dropLast
  | none => []
termination_by s.length
decreasing_by
  have := length_of_cutLast? _h
  simp only [List.length_dropLast]
  omega

theorem length_of_mem_namesAbove {s p : List Char} (h : p ∈ namesAbove s) : p.length < s.length := by
  fun_induction namesAbove s with
  | case1 s p' q hc he => simp at h
  | case2 s p' q hc he ih =>
    have := length_of_cutLast? hc
    rcases List.mem_cons.1 h with rfl | h
    · exact this
    · have := ih h
      simp only [List.length_dropLast] at this
      omega
  | case3 => simp at h

/-! ## The loggers in use -/

/-- The level of the root, and the other loggers with their own levels in the order in which they
came into use. -/
structure Loggers where
  rootLevel : Nat := 30
  named : List (List Char × Nat) := []

namespace Loggers

/-- A logger is in use. -/
def has (l : Loggers) (name : List Char) : Bool :=
  l.named.any (·.1 = name)

/-- Brings a logger into use. -/
def visit (l : Loggers) : LoggerName → Loggers
  | .root => l
  | .named name => if l.has name then l else { l with named := l.named ++ [(name, unsetLevel)] }

/-- Gives a logger a level of its own. -/
def set (l : Loggers) (level : Nat) : LoggerName → Loggers
  | .root => { l with rootLevel := level }
  | .named name =>
    let l := l.visit (.named name)
    { l with named := l.named.map fun e => if e.1 = name then (name, level) else e }

/-- The level that a logger has of its own. -/
def own (l : Loggers) : LoggerName → Nat
  | .root => l.rootLevel
  | .named name => (l.named.lookup name).getD unsetLevel

/-- A logger came into use before another. -/
def older (l : Loggers) (a b : List Char) : Bool :=
  (l.named.takeWhile fun e => e.1 ≠ b).any (·.1 = a)

/-- A logger in use takes in the ones under its name. One whose name begins the root's takes in only
those that come into use after it. -/
def takesIn (l : Loggers) (a name : List Char) : Bool :=
  l.has a && (!a.isPrefixOf LoggerName.rootName || l.older a name)

/-- The logger that a logger inherits from, if it is not the root. -/
def parent? (l : Loggers) (name : List Char) : Option (List Char) :=
  (namesAbove name).find? (l.takesIn · name)

/-- The level that decides for a logger: its own, or the first one set above it. -/
def effectiveNamed (l : Loggers) (name : List Char) : Nat :=
  if l.own (.named name) ≠ unsetLevel then l.own (.named name)
  else match _h : l.parent? name with
    | some p => effectiveNamed l p
    | none => l.rootLevel
termination_by name.length
decreasing_by exact length_of_mem_namesAbove (List.mem_of_find?_eq_some _h)

/-- The level that decides for a logger. -/
def effective (l : Loggers) : LoggerName → Nat
  | .root => l.rootLevel
  | .named name => l.effectiveNamed name

/-- The level that a logger has of its own and the one that decides for it. -/
def levels (l : Loggers) (name : LoggerName) : (Nat × Nat) × Loggers :=
  let l := l.visit name
  ((l.own name, l.effective name), l)

end Loggers

end JmsNaming.Log
