/-
Sets of characters as tables of ranges of code points: how every Unicode property here is held.
-/

namespace CssSurvey.Unicode

/-- A set of code points: its ranges, first and last member each, in ascending order. -/
abbrev Ranges := List (Nat × Nat)

/-- Whether a code point lies in one of the ranges. Ascending order lets the search end at the first
range that starts after it. -/
def Ranges.contains : Ranges → Nat → Bool
  | [], _ => false
  | (first, last) :: others, n => first ≤ n && (n ≤ last || contains others n)

end CssSurvey.Unicode
