import SessionAuth.Fault
import SessionAuth.Http.Address
import SessionAuth.Http.Header
import SessionAuth.Json.Value

/-!
# Requests and responses

A request names a method and a target; what decides is the path of the target, which ends at the
first question mark or number sign. A target may also be given in absolute form, with a scheme and
an authority before the path. A response is a status, some headers and a body of text.
-/

set_option autoImplicit false

namespace SessionAuth

structure Request where
  method : String := "GET"
  target : String := "/"
  headers : Headers := []
  body : List UInt8 := []
  /-- The address at the other end of the connection, if it is known. -/
  peer : Option Address := none

namespace Request

def endsPath (c : Char) : Bool := c == '?' || c == '#'

/-- What follows the scheme of an absolute target. -/
def afterScheme? : List Char → Option (List Char)
  | ':' :: '/' :: '/' :: cs => some cs
  | c :: cs => if endsPath c || c == '/' then none else afterScheme? cs
  | [] => none

/-- The path of a target, as characters. A target that is an authority alone has none. -/
def pathOf (target : List Char) : List Char :=
  match target with
  | '/' :: _ | '*' :: _ => target.takeWhile fun c => !endsPath c
  | _ =>
    match afterScheme? target with
    | none => []
    | some cs =>
      let path := (cs.dropWhile fun c => !endsPath c && c != '/').takeWhile fun c => !endsPath c
      if path.isEmpty then ['/'] else path

def path (r : Request) : String := String.ofList (pathOf r.target.toList)

end Request

/-- A response of the service; the names of its headers are in lower case. -/
structure Response where
  status : Nat
  headers : List (String × String) := []
  body : String := ""
  deriving DecidableEq, Repr

namespace Response

def getAll (r : Response) (name : String) : List String :=
  (r.headers.filter fun h => h.1 == name).map Prod.snd

def withHeader (r : Response) (name value : String) : Response :=
  { r with headers := (name, value) :: r.headers }

def withoutBody (r : Response) : Response := { r with body := "" }

def json (status : Nat) (j : Json) : Response :=
  ⟨status, [("content-type", "application/json")], j.text⟩

/-- The response to a fault, which shows no cause. -/
def ofFault (f : Fault) : Response :=
  json f.status (.object [("code", .string f.code), ("error", .string f.publicMessage)])

end Response

end SessionAuth
