import JmsNaming.Terminal.Handler
import JmsNaming.Terminal.Style

/-
Markup: text with tags in brackets that set its style or a handler for it. Written without colours, the
tags leave no trace, but a closing tag must close an open one, and what tags say must make sense. Escaped
text is shown as it is.
-/
namespace JmsNaming.Terminal

/-! ## Tags in a text -/

/-- The characters that a tag begins with. -/
def beginsTag (c : Char) : Bool :=
  ('a' ≤ c && c ≤ 'z') || c = '#' || c = '/' || c = '@'

/-- The body of the tag whose bracket stands before `s`, and the rest. -/
def tag? (s : List Char) : Option (List Char × List Char) :=
  let body := s.takeWhile fun c => c != '[' && c != ']'
  match s.drop body.length with
  | ']' :: rest => if body.head?.any beginsTag then some (body, rest) else none
  | _ => none

theorem length_of_tag? {s p q : List Char} (h : tag? s = some (p, q)) : q.length < s.length := by
  unfold tag? at h
  simp only at h
  split at h
  · rename_i rest hd
    split at h
    · simp only [Option.some.injEq, Prod.mk.injEq] at h
      have := congrArg List.length hd
      simp only [List.length_drop, List.length_cons] at this
      rw [← h.2]
      omega
    · simp at h
  · simp at h

/-- A part of a text: plain characters, or a tag after some backslashes. -/
inductive Chunk where
  | plain (s : List Char)
  | tag (backslashes : Nat) (body : List Char)
  deriving DecidableEq

/-- The part that begins a text of at least one character, and the rest. -/
def firstChunk (c : Char) (s : List Char) : Chunk × List Char :=
  let run := (c :: s).takeWhile (· = '\\')
  match (c :: s).drop run.length with
  | '[' :: rest =>
    match tag? rest with
    | some (body, rest) => (.tag run.length body, rest)
    | none => (.plain (run ++ ['[']), rest)
  | d :: rest => (.plain (run ++ [d]), rest)
  | [] => (.plain run, [])

theorem length_of_firstChunk (c : Char) (s : List Char) : (firstChunk c s).2.length ≤ s.length := by
  have hd : ∀ n x rest, (c :: s).drop n = x :: rest → rest.length ≤ s.length := fun n x rest h => by
    have := congrArg List.length h
    simp only [List.length_drop, List.length_cons] at this
    omega
  unfold firstChunk
  simp only
  split
  · rename_i rest h
    split
    · rename_i ht
      exact Nat.le_trans (Nat.le_of_lt (length_of_tag? ht)) (hd _ _ _ h)
    · exact hd _ _ _ h
  · rename_i h
    exact hd _ _ _ h
  · exact Nat.zero_le _

/-- Puts a part before others; plain parts side by side are one. -/
def Chunk.before (c : Chunk) (rest : List Chunk) : List Chunk :=
  match c, rest with
  | plain s, plain t :: more => plain (s ++ t) :: more
  | c, rest => c :: rest

/-- The parts of a text. -/
def chunks : List Char → List Chunk
  | [] => []
  | c :: s => (firstChunk c s).1.before (chunks (firstChunk c s).2)
termination_by s => s.length
decreasing_by
  have := length_of_firstChunk c s
  simp only [List.length_cons]
  omega

/-! ## Escaping -/

/-- A part with its tag, if it is one, taken out of force. -/
def Chunk.escaped : Chunk → List Char
  | plain s => s
  | tag n body => List.replicate (2 * n + 1) '\\' ++ '[' :: body ++ [']']

/-- The text as markup that shows it. A single backslash at the end is doubled. -/
def escape (s : List Char) : List Char :=
  let e := (chunks s).flatMap Chunk.escaped
  match e.reverse with
  | '\\' :: '\\' :: _ => e
  | '\\' :: _ => e ++ ['\\']
  | _ => e

/-! ## Showing -/

/-- Why markup cannot be shown. -/
inductive MarkupFault where
  /-- A closing tag names a style that no open tag has. -/
  | unmatched (body : List Char) (position : Nat)
  /-- A tag closes the last open one where none is. -/
  | nothingOpen (position : Nat)
  /-- A part of a colour is no number. -/
  | color (fault : Number.Fault)
  | handler (fault : HandlerFault)
  deriving DecidableEq

/-- The name of a tag and what it is set to. -/
def tagParts (body : List Char) : List Char × Option (List Char) :=
  match Text.cut? '=' body with
  | some (name, parameters) => (name, some parameters)
  | none => (body, none)

def MarkupFault.message : MarkupFault → String
  | unmatched body position =>
    "closing tag '[" ++ String.ofList body ++ "]' at position " ++ toString position ++ " doesn't match any open tag"
  | nothingOpen position =>
    "closing tag '[/]' at position " ++ toString position ++ " has nothing to close"
  | color fault => fault.message
  | handler fault => fault.message

/-- A tag that is open. -/
structure OpenTag where
  /-- The normal form of its name. -/
  name : String
  parameters : Option (List Char)
  deriving DecidableEq

namespace OpenTag

/-- The definition of the style that a tag sets. -/
def definition (t : OpenTag) : List Char :=
  t.name.toList ++ t.parameters.elim [] (' ' :: ·)

/-- The tag sets a handler. -/
def isHandler (t : OpenTag) : Bool :=
  t.name.toList.head? = some '@'

/-- The style of a tag can be read. -/
def checkStyle (t : OpenTag) : Except MarkupFault Unit :=
  ((Style.ofText? t.definition).mapError .color).map fun _ => ()

end OpenTag

/-- Takes a tag of a name out of the open ones, last opened first. -/
def closeNamed? (name : String) : List OpenTag → Option (OpenTag × List OpenTag)
  | [] => none
  | t :: ts => if t.name = name then some (t, ts) else (closeNamed? name ts).map fun r => (r.1, t :: r.2)

/-- The tag that a tag closes, if it is a closing one, and the open tags after it, last opened first. -/
def afterTag (opened : List OpenTag) (body : List Char) (position : Nat) :
    Except MarkupFault (Option OpenTag × List OpenTag) := do
  match tagParts body with
  | ('/' :: name, _) =>
    let name := Text.trim name
    if name.isEmpty then
      match opened with
      | t :: rest => return (some t, rest)
      | [] => throw (.nothingOpen position)
    else
      match closeNamed? (← (Style.normal name).mapError .color) opened with
      | some (t, rest) => return (some t, rest)
      | none => throw (.unmatched body position)
  | (name, parameters) =>
    return (none, { name := ← (Style.normal name).mapError .color, parameters } :: opened)

/-- Plain text as it is shown: a bracket may have a backslash before it, which is left out. -/
def unslash : List Char → List Char
  | '\\' :: '[' :: s => '[' :: unslash s
  | c :: s => c :: unslash s
  | [] => []

/-- The characters that are never shown. -/
def isDropped (c : Char) : Bool :=
  [7, 8, 11, 12, 13].contains c.toNat

/-- Plain text as it is shown, with its emoji. -/
def shown (s : List Char) : List Char :=
  (withEmoji (unslash s)).filter fun c => !isDropped c

/-- What parts of a text show, and the tags whose styles they set. -/
structure Marked where
  text : List Char := []
  tags : List OpenTag := []
  deriving DecidableEq

/-- What the parts of a text show, from a position and with some tags open. -/
def showChunks (position : Nat) (opened : List OpenTag) : List Chunk → Except MarkupFault Marked
  | [] => .ok { tags := opened }
  | .plain s :: rest => do
    let m ← showChunks (position + s.length) opened rest
    return { m with text := shown s ++ m.text }
  | .tag n body :: rest => do
    let slashes := List.replicate (n / 2) '\\'
    let next := position + n + body.length + 2
    if n % 2 = 1 then
      let m ← showChunks next opened rest
      return { m with text := slashes ++ shown ('[' :: body ++ [']']) ++ m.text }
    else
      let (closed, opened) ← afterTag opened body (position + n)
      match closed.filter OpenTag.isHandler with
      | some t =>
        (checkHandler (t.parameters.getD [])).mapError .handler
        let m ← showChunks next opened rest
        return { m with text := slashes ++ m.text }
      | none =>
        let m ← showChunks next opened rest
        return { m with text := slashes ++ m.text, tags := closed.toList ++ m.tags }

/-- What markup shows. -/
def showMarkup (s : List Char) : Except MarkupFault (List Char) := do
  let m ← showChunks 0 [] (chunks s)
  m.tags.forM OpenTag.checkStyle
  return m.text

end JmsNaming.Terminal
