import AccessPolicy.Number.Whole
import AccessPolicy.Text.Blank
import AccessPolicy.Text.Case

/-!
# Offsets from UTC

A zone is a fixed offset from UTC in seconds to the east, less than a day in size. It is written
as one of the names of UTC or as a sign with hours and maybe minutes.
-/

namespace AccessPolicy

/-- The names of the offset zero. -/
def utcNames : List String := ["UTC", "Z", "GMT"]

/-- The number of seconds of hours and minutes, which take two digits each; the hours alone may
take one. -/
def readHoursAndMinutes? (digits : List Char) : Option Nat :=
  let hours := digits.take 2
  let minutes := digitsValue (digits.drop 2)
  if digits.all Char.isDigit && digits.length ∈ [1, 2, 4] && minutes < 60 then
    some (digitsValue hours * 3600 + minutes * 60)
  else none

/-- The offset of a zone. Colons after the sign are ignored. -/
def readOffset? (text : String) : Option Int :=
  let text := Text.trimmed text
  if utcNames.any (Text.equalIgnoringAsciiCase text) then some 0
  else
    let seconds := match text.toList with
      | '+' :: rest => (readHoursAndMinutes? (rest.filter (· ≠ ':'))).map Int.ofNat
      | '-' :: rest => (readHoursAndMinutes? (rest.filter (· ≠ ':'))).map fun n => -Int.ofNat n
      | _ => none
    seconds.filter fun offset => -86400 < offset && offset < 86400

end AccessPolicy
