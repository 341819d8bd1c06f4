/-!
# Faults

A request that cannot be answered as asked ends in a *fault*. There are five causes. Two of
them are refusals: the credentials do not fit, or the request carries no session that counts.
One blames the request's own form. Two blame the machinery, and their causes are written for
the operator's log; the public wording of a fault never shows a cause.
-/

set_option autoImplicit false

namespace SessionAuth

/-- Why a request was not carried out. -/
inductive Fault where
  /-- Unknown email, wrong password and inactive account are one and the same refusal. -/
  | invalidCredentials
  /-- Missing, malformed, expired or revoked session, or an owner who may not act. -/
  | unauthorized
  | invalidRequest (detail : String)
  | database (cause : String)
  /-- Anything else that went wrong inside. -/
  | internal (cause : String)
  deriving DecidableEq, Repr

namespace Fault

/-- The operator's wording, which shows the cause. -/
def display : Fault → String
  | invalidCredentials => "Invalid credentials"
  | unauthorized => "Unauthorized"
  | invalidRequest detail => "Invalid request: " ++ detail
  | database cause => "Database error: " ++ cause
  | internal cause => "Internal error: " ++ cause

/-- The stable code that a client may act on. -/
def code : Fault → String
  | invalidCredentials => "auth.invalid_credentials"
  | unauthorized => "auth.unauthorized"
  | invalidRequest _ => "validation.invalid_request"
  | database _ | internal _ => "internal"

/-- The client's wording, which shows no cause. -/
def publicMessage : Fault → String
  | invalidCredentials => "Invalid credentials"
  | unauthorized => "Unauthorized"
  | invalidRequest _ => "Invalid request"
  | database _ | internal _ => "Internal server error"

def status : Fault → Nat
  | invalidCredentials | unauthorized => 401
  | invalidRequest _ => 400
  | database _ | internal _ => 500

/-- Faults of the machinery stand as they are; any other fault, met where only the machinery can
be to blame, is reported as an internal one that quotes it. -/
def toInternal : Fault → Fault
  | database cause => database cause
  | internal cause => internal cause
  | f => internal f.display

end Fault

/-- The two ways in which date arithmetic can leave the calendar. -/
inductive Overflow where
  | add
  | sub
  deriving DecidableEq, Repr

def Overflow.message : Overflow → String
  | add => "`DateTime + TimeDelta` overflowed"
  | sub => "`DateTime - TimeDelta` overflowed"

/-- How a piece of work ends without a result: with a fault, which becomes an answer, or with an
overflow of the calendar, which abandons the work where it stands. -/
inductive Failure where
  | fault (f : Fault)
  | overflow (o : Overflow)
  deriving DecidableEq, Repr

end SessionAuth
