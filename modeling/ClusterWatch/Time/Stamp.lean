import ClusterWatch.Text.Blank
import ClusterWatch.Time.Instant
/-!
# Time stamps

The text form of instants in event records, such as `2024-03-09 07:05:01`: to the second, without
a zone, always in UTC.

- `Instant.stampChars`, `Instant.stamp`: the text of an instant. Years outside 0 to 9999 have a
  sign.
- `Instant.ofStampChars?`, `Instant.ofStamp?`: the instant of a text. The reader is lenient: every
  number may have blanks in front and fewer digits, and any blanks, or none, separate date and
  time.
-/

namespace ClusterWatch.Time.Instant

/-! ### Writing -/

/-- A year in four digits at least, with a sign outside 0 to 9999. -/
def yearChars (year : Int) : List Char :=
  if year < 0 then '-' :: Text.padded 4 year.natAbs
  else if 9999 < year then '+' :: Text.padded 4 year.natAbs
  else Text.padded 4 year.natAbs

/-- The characters of the text of an instant. -/
def stampChars (t : Instant) : List Char :=
  yearChars t.date.year ++ '-' :: Text.padded 2 t.date.month ++ '-' :: Text.padded 2 t.date.day ++
    ' ' :: Text.padded 2 t.hour ++ ':' :: Text.padded 2 t.minute ++
    ':' :: Text.padded 2 t.secondOfMinute

/-- The text of an instant. -/
def stamp (t : Instant) : String :=
  String.ofList t.stampChars

/-! ### Reading -/

/-- A number of at most `width` digits at the start of a text, and the text after it. -/
def takeNumber? (width : Nat) (cs : List Char) : Option (Nat × List Char) :=
  let digits := (cs.take width).takeWhile Text.isDigit
  (Text.natural? 10 digits).map fun n => (n, cs.drop digits.length)

/-- A number after blanks. -/
def takeField? (width : Nat) (cs : List Char) : Option (Nat × List Char) :=
  takeNumber? width (Text.trimStart cs)

/-- A year: up to four digits, or a sign and any number of digits. -/
def takeYear? (cs : List Char) : Option (Int × List Char) :=
  match Text.trimStart cs with
  | '-' :: rest => (takeNumber? rest.length rest).map fun (n, rest) => (-(n : Int), rest)
  | '+' :: rest => (takeNumber? rest.length rest).map fun (n, rest) => ((n : Int), rest)
  | rest => (takeNumber? 4 rest).map fun (n, rest) => ((n : Int), rest)

/-- The text after a character that has to stand at its start. -/
def takeMark? (mark : Char) : List Char → Option (List Char)
  | c :: rest => if c = mark then some rest else none
  | [] => none

/-- The instant that a text stands for. -/
def ofStampChars? (cs : List Char) : Option Instant := do
  let (year, cs) ← takeYear? (Text.trim cs)
  let (month, cs) ← takeField? 2 (← takeMark? '-' cs)
  let (day, cs) ← takeField? 2 (← takeMark? '-' cs)
  let (hour, cs) ← takeField? 2 cs
  let (minute, cs) ← takeField? 2 (← takeMark? ':' cs)
  let (second, cs) ← takeField? 2 (← takeMark? ':' cs)
  if cs.isEmpty then ofCivil? ⟨year, month, day⟩ hour minute second 0 else none

/-- The instant that a text stands for. -/
def ofStamp? (s : String) : Option Instant :=
  ofStampChars? s.toList

end ClusterWatch.Time.Instant
