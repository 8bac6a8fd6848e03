import ClusterWatch.Time.Stamp
/-!
# Instants with a zone

The text form of instants in cluster objects and search records, such as
`2024-03-09T07:05:01.5+02:00`.

- `Instant.ofRfc3339?`: reads a date, a time with any fraction and an offset from UTC.
- `Instant.zoned`: writes an instant to the second with the offset of UTC.
-/

namespace ClusterWatch.Time.Instant

/-- A number of exactly `width` digits at the start of a text. -/
def takeDigits? (width : Nat) (cs : List Char) : Option (Nat × List Char) :=
  let digits := cs.take width
  if digits.length = width then (Text.natural? 10 digits).map fun n => (n, cs.drop width)
  else none

/-- The nanoseconds of a fraction; digits beyond the ninth are dropped. -/
def takeFraction (cs : List Char) : Nat × List Char :=
  match cs with
  | '.' :: rest =>
    let digits := rest.takeWhile Text.isDigit
    let nine := (digits ++ List.replicate 9 '0').take 9
    ((Text.natural? 10 nine).getD 0, rest.drop digits.length)
  | cs => (0, cs)

/-- The seconds that a zone is ahead of UTC, at the end of a text. -/
def takeOffset? : List Char → Option Int
  | ['Z'] => some 0
  | ['z'] => some 0
  | sign :: rest => do
    let (hours, rest) ← takeDigits? 2 rest
    let (minutes, rest) ← takeDigits? 2 (← takeMark? ':' rest)
    let seconds : Int := hours * 3600 + minutes * 60
    if rest.isEmpty ∧ hours < 24 ∧ minutes < 60 then
      if sign = '+' then some seconds else if sign = '-' then some (-seconds) else none
    else none
  | [] => none

/-- The instant of a date, a time and an offset. -/
def ofRfc3339? (s : String) : Option Instant := do
  let (year, cs) ← takeDigits? 4 s.toList
  let (month, cs) ← takeDigits? 2 (← takeMark? '-' cs)
  let (day, cs) ← takeDigits? 2 (← takeMark? '-' cs)
  -- the mark between date and time may be a blank
  let cs ← match cs with
    | 'T' :: cs => some cs
    | 't' :: cs => some cs
    | ' ' :: cs => some cs
    | _ => none
  let (hour, cs) ← takeDigits? 2 cs
  let (minute, cs) ← takeDigits? 2 (← takeMark? ':' cs)
  let (second, cs) ← takeDigits? 2 (← takeMark? ':' cs)
  let (nanos, cs) := takeFraction cs
  let offset ← takeOffset? cs
  let civil ← ofCivil? ⟨year, month, day⟩ hour minute second nanos
  return civil.addSeconds (-offset)

/-- The characters of the text of an instant with the offset of UTC. -/
def zonedChars (t : Instant) : List Char :=
  yearChars t.date.year ++ '-' :: Text.padded 2 t.date.month ++ '-' :: Text.padded 2 t.date.day ++
    'T' :: Text.padded 2 t.hour ++ ':' :: Text.padded 2 t.minute ++
    ':' :: Text.padded 2 t.secondOfMinute ++ ['+', '0', '0', ':', '0', '0']

/-- The text of an instant with the offset of UTC. -/
def zoned (t : Instant) : String :=
  String.ofList t.zonedChars

end ClusterWatch.Time.Instant
