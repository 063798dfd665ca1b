import JmsNaming.Expression.Formatted
import JmsNaming.Expression.Rule

/-
The grammar of expressions, with the rules that tell what is wrong with a text that is none.
-/
namespace JmsNaming.Expression

/-- The rules. -/
inductive Phrase where
  | whole
  | expressions
  | expression
  | yielding
  | starExpressions
  | starExpression
  | items
  | item
  | assignment
  | value
  | disjunction
  | conjunction
  | inversion
  | comparison
  | comparing
  | bitOr
  | bitXor
  | bitAnd
  | shift
  | sum
  | product
  | factor
  | power
  | awaited
  | primary
  | field
  | call
  | atom
  | texts
  | group
  | tuple
  | set
  | dict
  | entries
  | entry
  | pair
  | clauses
  | clause
  | setComprehension
  | dictComprehension
  | generator
  | arguments
  | argumentList
  | positional
  | namedArguments
  | starredOrNamed
  | doubleStarredOrNamed
  | starred
  | targets
  | target
  | plainTarget
  | targetAtom
  | targetPrimary
  | lambda
  | parameters
  | parameterList
  | slashPlain
  | slashDefault
  | starParameters
  | doubleStarParameters
  | plainParameter
  | defaultParameter
  | anyParameter
  | default
  | expressionPlainly
  | badExpression
  | badStatement
  | badNamed
  | badGroup
  | badComprehension
  | badDictComprehension
  | badEntries
  | badPair
  | badArguments
  | badNamedArgument
  | badTarget
  | badParameters
  | badStarParameters
  | badDoubleStarParameters
  | badDefault
  deriving DecidableEq, Hashable

abbrev Part := Tree Phrase

/-! ## Kinds of expressions -/

namespace Part

/-- The last token of a part. -/
def last? : Part → Option Token
  | .leaf t => some t
  | .node _ parts => lastIn? parts
where
  lastIn? : List Part → Option Token
    | [] => none
    | p :: ps => (lastIn? ps).or (last? p)

/-- The expression itself, without the rules that only pass it on and without the brackets around it. -/
def inner : Part → Part
  | .leaf t => .leaf t
  | .node _ [p] => inner p
  | .node .group [_, p, _] => inner p
  | .node phrase ps => .node phrase ps

/-- The parts that a rule found. -/
def parts : Part → List Part
  | .leaf _ => []
  | .node _ ps => ps

/-- The part is what a rule found. -/
def isFound (phrase : Phrase) : Part → Bool
  | .leaf _ => false
  | .node p _ => p = phrase

/-- The part is a token. -/
def isToken (kind : Token.Kind) : Part → Bool
  | .leaf t => t.kind = kind
  | .node _ _ => false

/-- The name that an expression consists of. -/
def name? (p : Part) : Option String :=
  match p.inner with
  | .leaf t =>
    match t.kind with
    | .word s => some s
    | _ => none
  | .node _ _ => none

/-- The part is a text with expressions in it. -/
def isFormatted : Part → Bool
  | .leaf t =>
    match t.kind with
    | .text letters _ => Expression.isFormatted letters
    | _ => false
  | .node _ _ => false

/-- What a token is as an expression. -/
def tokenKind : Token.Kind → String
  | .word "True" => "True"
  | .word "False" => "False"
  | .word "None" => "None"
  | .word "yield" => "yield expression"
  | .word _ => "name"
  | .text letters _ => if Expression.isFormatted letters then "f-string expression" else "literal"
  | .mark _ => "ellipsis"
  | _ => "literal"

/-- What an expression is called. -/
def kindText (p : Part) : String :=
  match p.inner with
  | .leaf t => tokenKind t.kind
  | .node phrase ps =>
    match phrase with
    | .texts => if ps.any isFormatted then "f-string expression" else "literal"
    | .tuple => "tuple"
    | .expressions => "tuple"
    | .starExpressions => "tuple"
    | .set => "set display"
    | .dict => "dict literal"
    | .setComprehension => "set comprehension"
    | .dictComprehension => "dict comprehension"
    | .generator => "generator expression"
    | .primary => if ps.getLast?.any (isFound .field) then "attribute" else "function call"
    | .awaited => "await expression"
    | .comparison => "comparison"
    | .expression => "conditional expression"
    | .lambda => "lambda"
    | .yielding => "yield expression"
    | .assignment => "named expression"
    | .starExpression => "starred"
    | .item => "starred"
    | .starred => "starred"
    | _ => "expression"

mutual

/-- The first part of what is to be assigned to that nothing can be assigned to. What stands before
the word `in` counts alone. -/
def noTarget? : Part → Option Part
  | .leaf t =>
    match t.kind with
    | .word s => if keywords.contains s then some (.leaf t) else none
    | _ => some (.leaf t)
  | .node .tuple ps => noTargetIn? ps
  | .node .items ps => noTargetIn? ps
  | .node .starExpressions ps => noTargetIn? ps
  | .node _ [p] => noTarget? p
  | .node .group [_, p, _] => noTarget? p
  | .node .starExpression [_, p] => noTarget? p
  | .node .item [_, p] => noTarget? p
  | .node .comparison (p :: .node .comparing (q :: _) :: _) =>
    if isToken (.word "in") q then noTarget? p else none
  | .node .primary ps => if ps.getLast?.any (isFound .field) then none else some (.node .primary ps)
  | .node phrase ps => some (.node phrase ps)

def noTargetIn? : List Part → Option Part
  | [] => none
  | .leaf _ :: ps => noTargetIn? ps
  | p :: ps => (noTarget? p).or (noTargetIn? ps)

end

end Part

/-! ## Arguments -/

/-- The parts of the arguments of a call. -/
def argumentParts (p : Part) : List Part :=
  p.parts.flatMap fun q => if q.isFound .namedArguments then q.parts else [q]

/-- How many arguments of a call have no name. -/
def unnamedArguments (p : Part) : Nat :=
  (argumentParts p).countP fun q => q.isFound .positional || q.parts.any (Part.isFound .starred)

/-- Arguments of a call are taken from a dictionary. -/
def unpacksArguments (p : Part) : Bool :=
  (argumentParts p).any fun q => q.isFound .doubleStarredOrNamed && q.parts.head?.any (Part.isToken (.mark "**"))

/-! ## Rules -/

namespace Phrase

open Rule

abbrev Clause := Rule Phrase

def mark (s : String) : Clause := token (.mark s)
def keyword (s : String) : Clause := token (.keyword s)
def name : Clause := token .name
def comma : Clause := mark ","
def openBrace : Clause := mark "\x7b"
def closeBrace : Clause := mark "\x7d"

/-- What fits has a fault of its own. -/
def at' (fault : SyntaxFault) (r : List Clause) : Clause :=
  refuse (seq r) fun _ => .some fault

/-- One or more operands with one of some operators between each two. -/
def chain (operand : Clause) (operators : List String) : Clause :=
  seq [operand, many (first (operators.map fun o => seq [mark o, operand]))]

/-- Operands with a word between each two. -/
def wordChain (operand : Clause) (word : String) : Clause :=
  seq [operand, many (seq [keyword word, operand])]

/-- A condition between two values, and what is no condition. -/
def choices (otherwise : Phrase) : List Clause :=
  [seq [named .disjunction, keyword "if", named .disjunction, keyword "else", named otherwise], named .disjunction,
    named .lambda]

/-- The word for a loop, its targets, and the word before what it runs through. -/
def loop : List Clause :=
  [keyword "for", named .targets, keyword "in"]

/-- What a loop runs through, and its conditions. -/
def looped : Clause :=
  seq [named .disjunction, many (seq [keyword "if", named .disjunction])]

/-- A value that is no part of a naming. -/
def unnamedValue : Clause :=
  first [named .assignment, seq [named .expression, notAhead (mark ":=")]]

/-- What goes on as a target. -/
def goesOn : Clause :=
  first [mark "(", mark "[", mark "."]

/-- What closes a dictionary or one of its entries. -/
def endsEntry : Clause :=
  ahead (first [closeBrace, comma])

def noAssignment : Clause :=
  notAhead (first [mark "=", mark ":="])

/-- The parameters before a slash. -/
def beforeSlash : Clause :=
  first [named .slashPlain, named .slashDefault]

def parameterOrComma : Clause :=
  first [named .plainParameter, comma]

/-- A parameter, which ends with a comma or before the colon. -/
def parameter (rest : List Clause) : Clause :=
  first [seq (name :: rest ++ [comma]), seq (name :: rest ++ [ahead (mark ":")])]

/-- A parameter list up to a slash. -/
def upToSlash (parameters : List Clause) : Clause :=
  first [seq (parameters ++ [mark "/", comma]), seq (parameters ++ [mark "/", ahead (mark ":")])]

/-- Two expressions side by side lack a comma, where they are in brackets. -/
def sideBySide : List Part → Option SyntaxFault
  | [a, b] =>
    if a.name?.any fun s => s = "print" || s = "exec" then none
    else if b.last?.any fun t => t.depth = 0 then none
    else .some .missingComma
  | _ => none

/-- A word that is applied to something without brackets. -/
def wordApplied : List Part → Option SyntaxFault
  | a :: _ => (a.name?.filter fun s => s = "print" || s = "exec").map .missingParentheses
  | [] => none

/-- A number has too many digits. -/
def longNumber : List Part → Option SyntaxFault
  | [.leaf { kind := .whole digits, .. }] => if Number.maxDigits < digits then .some (.longNumber digits) else none
  | _ => none

/-- The tokens among parts. -/
def tokensOf (ps : List Part) : List Token :=
  ps.filterMap fun p => match p with
    | .leaf t => .some t
    | .node _ _ => none

/-- What a phrase is. What is wrong with an expression in a text is told by `fault?`. -/
def rule (fault? : Nat → List Char → Option SyntaxFault) : Phrase → Clause
  | whole => seq [named .expressions, many (token .lineEnd), token .finish]
  | expressions => seq [separated comma (named .expression), optional comma]
  | expression => first ([diagnosis (named .badExpression), diagnosis (named .badStatement)] ++ choices .expression)
  | yielding => first [
      seq [keyword "yield", keyword "from", named .expression],
      seq [keyword "yield", optional (named .starExpressions)]]
  | starExpressions => seq [separated comma (named .starExpression), optional comma]
  | starExpression => first [seq [mark "*", named .bitOr], named .expression]
  | items => seq [separated comma (named .item), optional comma]
  | item => first [seq [mark "*", named .bitOr], named .value]
  | assignment => seq [name, mark ":=", named .expression]
  | value => first [
      named .assignment,
      diagnosis (named .badNamed),
      seq [named .expression, notAhead (mark ":=")]]
  | disjunction => wordChain (named .conjunction) "or"
  | conjunction => wordChain (named .inversion) "and"
  | inversion => first [seq [keyword "not", named .inversion], named .comparison]
  | comparison => seq [named .bitOr, many (named .comparing)]
  | comparing => first [
      seq [mark "==", named .bitOr],
      seq [mark "!=", named .bitOr],
      seq [mark "<=", named .bitOr],
      seq [mark "<", named .bitOr],
      seq [mark ">=", named .bitOr],
      seq [mark ">", named .bitOr],
      seq [keyword "not", keyword "in", named .bitOr],
      seq [keyword "in", named .bitOr],
      seq [keyword "is", keyword "not", named .bitOr],
      seq [keyword "is", named .bitOr]]
  | bitOr => chain (named .bitXor) ["|"]
  | bitXor => chain (named .bitAnd) ["^"]
  | bitAnd => chain (named .shift) ["&"]
  | shift => chain (named .sum) ["<<", ">>"]
  | sum => chain (named .product) ["+", "-"]
  | product => chain (named .factor) ["*", "/", "//", "%", "@"]
  | factor => first [
      seq [mark "+", named .factor],
      seq [mark "-", named .factor],
      seq [mark "~", named .factor],
      named .power]
  | power => first [seq [named .awaited, mark "**", named .factor], named .awaited]
  | awaited => first [seq [keyword "await", named .primary], named .primary]
  | primary => seq [named .atom, many (first [named .field, named .generator, named .call])]
  | field => seq [mark ".", name]
  | call => seq [mark "(", optional (named .arguments), mark ")"]
  | atom => first [
      name,
      keyword "True",
      keyword "False",
      keyword "None",
      seq [ahead (token .text), named .texts],
      check (token .number) longNumber,
      seq [ahead (mark "("), first [named .tuple, named .group, named .generator]],
      seq [ahead openBrace, first [named .dict, named .set, named .dictComprehension, named .setComprehension]],
      mark "..."]
  | texts => check (Rule.some (token .text)) fun ps => textsFault? fault? none (tokensOf ps)
  | group => first [
      seq [mark "(", first [named .yielding, named .value], mark ")"],
      diagnosis (named .badGroup)]
  | tuple => seq [mark "(", optional (seq [named .item, comma, optional (named .items)]), mark ")"]
  | set => seq [openBrace, named .items, closeBrace]
  | dict => first [
      seq [openBrace, optional (named .entries), closeBrace],
      seq [openBrace, named .badEntries, closeBrace]]
  | entries => seq [separated comma (named .entry), optional comma]
  | entry => first [seq [mark "**", named .bitOr], named .pair]
  | pair => seq [named .expression, mark ":", named .expression]
  | clauses => Rule.some (named .clause)
  | clause =>
      committed (seq (keyword "async" :: loop)) looped
        (committed (seq loop) looped (diagnosis (named .badTarget)))
  | setComprehension => first [
      seq [openBrace, named .value, named .clauses, closeBrace],
      diagnosis (named .badComprehension)]
  | dictComprehension => first [
      seq [openBrace, named .pair, named .clauses, closeBrace],
      diagnosis (named .badDictComprehension)]
  | generator => first [
      seq [mark "(", unnamedValue, named .clauses, mark ")"],
      diagnosis (named .badComprehension)]
  | arguments => first [
      seq [named .argumentList, optional comma, ahead (mark ")")],
      diagnosis (named .badArguments)]
  | argumentList => first [
      seq [separated comma (named .positional), optional (seq [comma, named .namedArguments])],
      named .namedArguments]
  | positional => first [named .starred, seq [unnamedValue, notAhead (mark "=")]]
  | namedArguments => first [
      seq [separated comma (named .starredOrNamed), comma, separated comma (named .doubleStarredOrNamed)],
      separated comma (named .starredOrNamed),
      separated comma (named .doubleStarredOrNamed)]
  | starredOrNamed => first [
      diagnosis (named .badNamedArgument),
      seq [name, mark "=", named .expression],
      named .starred]
  | doubleStarredOrNamed => first [
      diagnosis (named .badNamedArgument),
      seq [name, mark "=", named .expression],
      seq [mark "**", named .expression]]
  | starred => seq [mark "*", named .expression]
  | targets => first [
      seq [named .target, notAhead comma],
      seq [separated comma (named .target), optional comma]]
  | target => first [seq [mark "*", notAhead (mark "*"), named .target], named .plainTarget]
  | plainTarget => first [
      seq [named .targetPrimary, mark ".", name, notAhead goesOn],
      named .targetAtom]
  | targetAtom => first [
      name,
      seq [mark "(", named .plainTarget, mark ")"],
      seq [
        mark "(",
        optional (first [
          seq [named .target, Rule.some (seq [comma, named .target]), optional comma],
          seq [named .target, comma]]),
        mark ")"]]
  | targetPrimary => seq [
      named .atom,
      ahead goesOn,
      many (seq [first [named .field, named .generator, named .call], ahead goesOn])]
  | lambda => seq [keyword "lambda", optional (named .parameters), mark ":", named .expression]
  | parameters => first [diagnosis (named .badParameters), named .parameterList]
  | parameterList => first [
      seq [named .slashPlain, many (named .plainParameter), many (named .defaultParameter),
        optional (named .starParameters)],
      seq [named .slashDefault, many (named .defaultParameter), optional (named .starParameters)],
      seq [Rule.some (named .plainParameter), many (named .defaultParameter), optional (named .starParameters)],
      seq [Rule.some (named .defaultParameter), optional (named .starParameters)],
      named .starParameters]
  | slashPlain => upToSlash [Rule.some (named .plainParameter)]
  | slashDefault => upToSlash [many (named .plainParameter), Rule.some (named .defaultParameter)]
  | starParameters => first [
      diagnosis (named .badStarParameters),
      seq [mark "*", named .plainParameter, many (named .anyParameter), optional (named .doubleStarParameters)],
      seq [mark "*", comma, Rule.some (named .anyParameter), optional (named .doubleStarParameters)],
      named .doubleStarParameters]
  | doubleStarParameters => first [
      diagnosis (named .badDoubleStarParameters),
      seq [mark "**", named .plainParameter]]
  | plainParameter => parameter []
  | defaultParameter => parameter [named .default]
  | anyParameter => parameter [optional (named .default)]
  | default => first [seq [mark "=", named .expression], diagnosis (named .badDefault)]
  | expressionPlainly => plainly (first (choices .expression))
  | badExpression => first [
      refuse (seq [notAhead (first [seq [name, token .text], token .softKeyword]), named .disjunction,
        named .expressionPlainly]) sideBySide,
      at' .missingElse [named .disjunction, keyword "if", named .disjunction,
        notAhead (first [keyword "else", mark ":"])]]
  | badStatement => refuse (seq [name, notAhead (mark "("), named .starExpressions]) wordApplied
  | badNamed => first [
      refuse (seq [named .expression, mark ":=", named .expression]) fun ps =>
        ps.head?.map fun p => .assignmentWith (Part.kindText p),
      at' .equalsInPlace [name, mark "=", named .bitOr, noAssignment],
      refuse (seq [
        notAhead (first [named .tuple, named .generator, keyword "True", keyword "None", keyword "False"]),
        named .bitOr, mark "=", named .bitOr, noAssignment]) fun ps =>
        ps.head?.map fun p => .assignmentHere (Part.kindText p)]
  | badGroup => first [
      at' .starredHere [mark "(", named .starred, mark ")"],
      at' .doubleStarredHere [mark "(", mark "**", named .expression, mark ")"]]
  | badComprehension => first [
      at' .starredInComprehension [first [mark "(", openBrace], named .starred, named .clauses],
      at' .unparenthesizedTarget [openBrace, named .item, comma, named .items, named .clauses],
      at' .unparenthesizedTarget [openBrace, named .item, comma, named .clauses]]
  | badDictComprehension =>
      at' .doubleStarredInComprehension [openBrace, mark "**", named .bitOr, named .clauses, closeBrace]
  | badEntries => first [
      seq [separated comma (named .entry), comma, named .badPair],
      at' .starredValue [named .expression, mark ":", mark "*", named .bitOr],
      at' .missingValue [named .expression, mark ":", endsEntry]]
  | badPair => first [
      at' .missingColon [named .expression, notAhead (mark ":")],
      at' .starredValue [named .expression, mark ":", mark "*", named .bitOr],
      at' .missingValue [named .expression, mark ":", endsEntry]]
  | badArguments => first [
      at' .unpackingAfterKeywords [named .argumentList, comma, mark "*"],
      at' .bareGenerator [named .expression, named .clauses, comma,
        optional (first [named .argumentList, seq [named .expression, named .clauses]])],
      at' .equalsInPlace [name, mark "=", named .expression, named .clauses],
      refuse (seq [named .argumentList, named .clauses]) fun ps =>
        (ps.head?.filter fun p => 1 < unnamedArguments p).map fun _ => .bareGenerator,
      at' .bareGenerator [named .argumentList, comma, named .expression, named .clauses],
      refuse (seq [named .argumentList, comma, named .argumentList]) fun ps =>
        ps.head?.map fun p => .positionalAfterKeyword (unpacksArguments p)]
  | badNamedArgument => first [
      refuse (seq [first [keyword "True", keyword "False", keyword "None"], mark "="]) fun ps =>
        ps.head?.map fun p => .assignmentTo (Part.kindText p),
      at' .equalsInPlace [name, mark "=", named .expression, named .clauses],
      at' .assignmentInArgument [notAhead (seq [name, mark "="]), named .expression, mark "="]]
  | badTarget => refuse (seq [optional (keyword "async"), keyword "for", named .starExpressions]) fun ps =>
      (ps.getLast?.bind Part.noTarget?).map fun p => .assignmentTo (Part.kindText p)
  | badParameters => first [
      at' .defaultOrder [many (named .plainParameter),
        first [named .slashDefault, Rule.some (named .defaultParameter)], named .plainParameter],
      at' .parenthesizedParameters [many (named .plainParameter), mark "(", separated comma name, optional comma,
        mark ")"],
      at' .nothingBeforeSlash [mark "/", comma],
      at' .secondSlash [beforeSlash, many (named .anyParameter), mark "/"],
      at' .slashAfterStar [optional beforeSlash, many (named .anyParameter), mark "*", parameterOrComma,
        many (named .anyParameter), mark "/"],
      at' .starAfterSlash [Rule.some (named .anyParameter), mark "/", mark "*"]]
  | badStarParameters => first [
      at' .nothingAfterStar [mark "*", first [mark ":", seq [comma, first [mark ":", mark "**"]]]],
      at' .starDefault [mark "*", name, mark "="],
      at' .secondStar [mark "*", parameterOrComma, many (named .anyParameter), mark "*", parameterOrComma]]
  | badDoubleStarParameters => first [
      at' .doubleStarDefault [mark "**", name, mark "="],
      at' .afterDoubleStar [mark "**", name, comma, name],
      at' .afterDoubleStar [mark "**", name, comma, first [mark "*", mark "**", mark "/"]]]
  | badDefault => at' .missingDefault [mark "=", ahead (first [mark ")", comma])]

/-- The rules whose outcome does not hang on whether faults are looked for. -/
def isShared : Phrase → Bool
  | expression | starExpression | disjunction | conjunction | inversion | bitOr | bitXor | bitAnd | shift | sum
  | product | factor | awaited | primary | texts | arguments | target | plainTarget | targetPrimary | badNamed => true
  | _ => false

end Phrase

/-- The grammar of expressions. -/
def grammar (fault? : Nat → List Char → Option SyntaxFault) : Grammar Phrase where
  rule := Phrase.rule fault?
  isShared := Phrase.isShared

/-- What is wrong with an expression in a text, which begins on a line. It is read as if it stood in
round brackets. Texts in it have expressions at most `depth` deep. -/
def embeddedFault? : (depth line : Nat) → List Char → Option SyntaxFault
  | 0, _, _ => none
  | depth + 1, line, s =>
    match Source.readAt line ('(' :: s ++ [')']) with
    | .error fault => some (fault.embed true)
    | .ok source =>
      match (grammar (embeddedFault? depth)).tree .starExpressions source with
      | .error fault => some (fault.embed false)
      | .ok _ => none

/-- The expression that a text is. -/
def parse (s : List Char) : Except SyntaxFault Part := do
  (grammar (embeddedFault? s.length)).tree .whole (← Source.readAt 1 s)

end JmsNaming.Expression
