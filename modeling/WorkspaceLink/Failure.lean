import WorkspaceLink.Value

/-!
# Failures of the service

What a call to the remote service can end with instead of an answer.
-/

namespace WorkspaceLink

/-- The kinds of failure, by what went wrong. -/
inductive Failure.Kind where
  /-- Anything the service library reports. -/
  | general
  /-- The request did not get out. -/
  | request
  | requestTimeout
  /-- The response did not come in. -/
  | response
  /-- The service answered with an error status. -/
  | http
  | notFound
  | exists
  | unauthenticated
  | undecodable
  /-- The client itself gave up on a value. -/
  | invalidValue
  /-- The user interrupted the call. -/
  | interrupted
  /-- The client was given an address that is not made of texts. -/
  | unsupportedAddress
  deriving DecidableEq

/-- A failure, with the message and the status that came with it. -/
structure Failure where
  kind : Failure.Kind
  message : Option String
  status : Value

namespace Failure

/-- Whether the failure comes from the service library and is handled. -/
def isService (f : Failure) : Bool :=
  match f.kind with
  | .invalidValue | .interrupted | .unsupportedAddress => false
  | _ => true

/-- Whether the service answered with an error status. -/
def isHttp (f : Failure) : Bool :=
  match f.kind with
  | .http | .notFound | .exists | .unauthenticated | .undecodable => true
  | _ => false

/-- Whether the failure says that the resource does not exist. -/
def isNotFound (f : Failure) : Bool :=
  f.kind == .notFound || (f.isHttp && f.status.same (.int 404))

/-- The text of a failure. An error status without a message is told by its missing reason. -/
def text (f : Failure) : String :=
  let message := f.message.getD "None"
  if f.isHttp && (f.message.getD "").isEmpty then "Operation returned an invalid status 'None'"
  else message

end Failure

end WorkspaceLink
