/-!
# Spans of code points

A character property is written down as a list of spans.  A span runs from its first
code point to its last in equal steps: step one for a solid block, step two for the
alphabets in which capital and small letters alternate.
-/

namespace AccountSessions.Text

structure Span where
  first : Nat
  last : Nat
  step : Nat
  deriving Repr

namespace Span

def contains (span : Span) (code : Nat) : Bool :=
  span.first ≤ code && code ≤ span.last && (code - span.first) % span.step == 0

def covers (spans : List Span) (code : Nat) : Bool :=
  spans.any (·.contains code)

theorem contains_iff {span : Span} {code : Nat} :
    span.contains code = true ↔
      span.first ≤ code ∧ code ≤ span.last ∧ (code - span.first) % span.step = 0 := by
  simp [contains, and_assoc]

theorem covers_iff {spans : List Span} {code : Nat} :
    covers spans code = true ↔ ∃ span ∈ spans, span.contains code = true := by
  simp [covers]

end Span

end AccountSessions.Text
