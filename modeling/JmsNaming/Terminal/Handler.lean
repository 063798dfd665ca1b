import JmsNaming.Expression.Literal
import JmsNaming.Text.Quoted

/-
The parameters of a handler tag: a handler's name, its arguments in round brackets, or both; or else
an expression. The arguments, and an expression, must be literals.
-/
namespace JmsNaming.Terminal

/-- Parameters that are not what a handler takes. -/
structure HandlerFault where
  parameters : List Char
  /-- What of the parameters was read as a literal. -/
  expression : List Char
  fault : Expression.Fault
  deriving DecidableEq

def HandlerFault.message (f : HandlerFault) : String :=
  let whole := String.ofList (Text.quoted f.parameters)
  match f.fault with
  | .form fault => "error parsing " ++ String.ofList (Text.quoted f.expression) ++ " in " ++ whole ++ "; " ++ fault.message
  | .value fault => "error parsing " ++ whole ++ "; " ++ fault.message

/-- The character stands in the name of a handler. -/
def isHandlerChar (c : Char) : Bool :=
  Text.isWordChar c || c = '.'

/-- The arguments of a handler after its name; without brackets it has none. The brackets stand on one
line. -/
def handlerArguments? (s : List Char) : Option (List Char) :=
  match s.dropWhile isHandlerChar with
  | [] => some ['(', ')']
  | '(' :: rest =>
    if rest.getLast? = some ')' && !rest.contains '\n' then some ('(' :: rest) else none
  | _ => none

/-- The part of the parameters that must be a literal. -/
def handlerExpression (parameters : List Char) : List Char :=
  let s := Text.trim parameters
  (handlerArguments? s).getD s

/-- The parameters are what a handler takes; empty parameters are. -/
def checkHandler (parameters : List Char) : Except HandlerFault Unit :=
  if parameters.isEmpty then .ok ()
  else
    let expression := handlerExpression parameters
    match Expression.readLiteral expression with
    | .ok _ => .ok ()
    | .error fault => .error { parameters, expression, fault }

end JmsNaming.Terminal
