import SessionAuth.Text.Decimal

/-!
# Spans of time

A span is a signed number of nanoseconds. Where a span is counted in coarser units the count
goes toward zero.
-/

set_option autoImplicit false

namespace SessionAuth

/-- A signed length of time. -/
structure Span where
  nanos : Int
  deriving DecidableEq, Repr

namespace Span

def ofMillis (n : Int) : Span := ⟨n * 1000000⟩

def ofSeconds (n : Int) : Span := ⟨n * 1000000000⟩

def ofHours (n : Int) : Span := ofSeconds (n * 3600)

def ofDays (n : Int) : Span := ofSeconds (n * 86400)

def seconds (s : Span) : Int := s.nanos.tdiv 1000000000

def millis (s : Span) : Int := s.nanos.tdiv 1000000

def neg (s : Span) : Span := ⟨-s.nanos⟩

instance : Neg Span := ⟨neg⟩

/-- The digits of a fraction of nine places, less the zeros at its end. -/
def fractionDigits (nanos : Nat) : List Char :=
  ((Text.padded 9 nanos).reverse.dropWhile (· == '0')).reverse

/-- The span in the duration form `PT…S`, with a sign in front of a negative one; `P0D` is the
empty span. -/
def text (s : Span) : String :=
  let n := s.nanos.natAbs
  let sign := if s.nanos < 0 then "-" else ""
  if n = 0 then "P0D"
  else
    let fraction := if n % 1000000000 = 0 then [] else '.' :: fractionDigits (n % 1000000000)
    sign ++ "PT" ++ String.ofList (Text.digits (n / 1000000000)) ++ String.ofList fraction ++ "S"

end Span

end SessionAuth
