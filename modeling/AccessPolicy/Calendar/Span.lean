import AccessPolicy.Number.Whole

/-!
# Spans of time in words

A span of milliseconds in its largest whole unit, such as `in 3 days` or `2 hours ago`.
-/

namespace AccessPolicy

/-- The units of spans with their milliseconds, the largest first. -/
def spanUnits : List (Nat × String) :=
  [(31536000000, "year"), (2592000000, "month"), (86400000, "day"), (3600000, "hour"),
    (60000, "minute"), (1000, "second")]

/-- The number of whole units in a span, and the unit: the largest one of which there is one. -/
def largestUnit (span : Nat) : Nat × String :=
  match spanUnits.find? fun unit => 0 < span / unit.1 with
  | some unit => (span / unit.1, unit.2)
  | none => (0, "second")

/-- A span in words, where `bare` leaves out whether it lies ahead or behind. -/
def humanize (span : Int) (bare : Bool) : String :=
  let (count, unit) := largestUnit span.natAbs
  let words := integerText count ++ " " ++ unit ++ if count = 1 then "" else "s"
  if bare then words
  else if 0 ≤ span then "in " ++ words
  else words ++ " ago"

end AccessPolicy
