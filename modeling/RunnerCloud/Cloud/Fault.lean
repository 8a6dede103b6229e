import RunnerCloud.Text.Basic

/-!
Contract: what can go wrong when the cloud is called.

Owns:
- `ServiceErrorKind`, the kinds of error that the cloud services report;
- `Fault`, an error of a service, an error beside the services, or an interrupt;
- `Fault.reported`, the error of a service with the text that it is shown with.

Does not own: what the provider makes of a fault.
-/

namespace RunnerCloud

/-- The kinds of error that cloud services report; the first one is the general kind. -/
inductive ServiceErrorKind where
  | general
  | response
  | notFound
  | alreadyExists
  | authentication
  | request
  | requestTimeout
  | brokenResponse
  | undecodable
  | modified
deriving DecidableEq, Repr

/-- Whether errors of the kind answer a request, and so have a status to show. -/
def ServiceErrorKind.isAnswer : ServiceErrorKind → Bool
  | .response => true
  | .notFound => true
  | .alreadyExists => true
  | .authentication => true
  | .undecodable => true
  | .modified => true
  | .general => false
  | .request => false
  | .requestTimeout => false
  | .brokenResponse => false

inductive Fault where
  | service (kind : ServiceErrorKind) (message : Text)
  | runtime (message : Text)
  | badValue (message : Text)
  | interrupt (message : Text)
deriving DecidableEq, Repr

namespace Fault

/-- The text of an answer that says neither what is wrong nor its status. -/
def unexplainedAnswer : Text := "Operation returned an invalid status 'None'"

/-- The error of a service; an answer without a text shows its missing status. -/
def reported (kind : ServiceErrorKind) (message : Text) : Fault :=
  if kind.isAnswer && message.isEmpty then .service kind unexplainedAnswer
  else .service kind message

def message : Fault → Text
  | .service _ message => message
  | .runtime message => message
  | .badValue message => message
  | .interrupt message => message

end Fault

end RunnerCloud
