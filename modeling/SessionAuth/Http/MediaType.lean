import SessionAuth.Text.Split
import SessionAuth.Text.Word

/-!
# Media types

The value of a content-type header is a type and a subtype with a slash between them, and then
parameters, each after a semicolon. The subtype may carry a suffix after its last plus sign, as in
`application/problem+json`. A parameter is a name and a value with an equals sign between them; a
value may stand in quotes, and blanks may stand before a name and after a quoted value. Names are
compared without regard to the case of ASCII letters.
-/

set_option autoImplicit false

namespace SessionAuth

/-- A media type, without its parameters. -/
structure MediaType where
  type : List Char
  subtype : List Char
  suffix : Option (List Char)
  deriving DecidableEq, Repr

namespace MediaType

/-- The marks that may stand in a name besides letters and digits. -/
def tokenMarks : List Char := "!#$%&'*+-.^_\x60|~".toList

def isToken (c : Char) : Bool := c.isAlphanum || tokenMarks.contains c

/-- How far the parameters have been read. -/
inductive ParameterState where
  | beforeName
  | name
  | beforeValue
  | value
  | openQuote
  | quoted
  | closedQuote
  deriving DecidableEq, Repr

namespace ParameterState

/-- Reads one more character. The character after an opening quote is part of the value, even if
it is a quote. -/
def next? (s : ParameterState) (c : Char) : Option ParameterState :=
  match s with
  | beforeName => if c = ' ' then some beforeName else if isToken c then some name else none
  | name => if c = '=' then some beforeValue else if isToken c then some name else none
  | beforeValue => if c = '"' then some openQuote else if isToken c then some value else none
  | value => if c = ';' then some beforeName else if isToken c then some value else none
  | openQuote => if isQuotable c then some quoted else none
  | quoted => if c = '"' then some closedQuote else if isQuotable c then some quoted else none
  | closedQuote => if c = ' ' then some closedQuote else if c = ';' then some beforeName else none
where
  /-- The character may stand between quotes. -/
  isQuotable (c : Char) : Bool := 0x20 ≤ c.toNat && c.toNat != 0x7F

def mayEnd : ParameterState → Bool
  | beforeName | beforeValue | value | closedQuote => true
  | name | openQuote | quoted => false

end ParameterState

/-- The text after the first semicolon is a list of parameters. -/
def areParameters (cs : List Char) : Bool :=
  (cs.foldlM ParameterState.next? .beforeName).any ParameterState.mayEnd

/-- What stands before and after the last plus sign, unless that is the first character. -/
def cutSuffix (cs : List Char) : List Char × Option (List Char) :=
  match Text.cutAt? '+' cs.reverse with
  | some (suffix, before) => if before.isEmpty then (cs, none) else (before.reverse, suffix.reverse)
  | none => (cs, none)

def read? (cs : List Char) : Option MediaType := do
  let (type, rest) ← Text.cutAt? '/' cs
  let name := rest.takeWhile (· != ';')
  let parametersFit := match rest.dropWhile (· != ';') with
    | [] => true
    | _ :: ps => !name.isEmpty && areParameters ps
  if !type.isEmpty && type.all isToken && name.all isToken && parametersFit then
    let (subtype, suffix) := cutSuffix name
    some ⟨type, subtype, suffix⟩
  else none

/-- The name is the given word, which is in lower case, in any case. -/
def isWord (word : String) (cs : List Char) : Bool := Text.lower cs == word.toList

/-- The type announces JSON, by its subtype or by its suffix. -/
def isJson (m : MediaType) : Bool :=
  isWord "application" m.type && (isWord "json" m.subtype || m.suffix.any (isWord "json"))

end MediaType

end SessionAuth
