import JmsNaming.Destination
import JmsNaming.Error

/-
What a call may end in besides a result: most often a failure of naming, and otherwise what the
objects that are built refuse or what has no text.
-/
namespace JmsNaming

/-- What a call may end in besides a result. -/
inductive Failure where
  | naming (error : NamingError)
  | client (error : ClientError)
  | destination (fault : Destination.Fault)
  /-- The content of a property has no text. -/
  | unwritable (fault : Number.Unwritable)
  deriving DecidableEq

instance : MonadLift (Except NamingError) (Except Failure) :=
  ⟨fun x => x.mapError .naming⟩

instance : MonadLift (Except Number.Unwritable) (Except Failure) :=
  ⟨fun x => x.mapError .unwritable⟩

end JmsNaming
