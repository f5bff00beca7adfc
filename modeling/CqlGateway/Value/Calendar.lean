/-!
# Dates, times and durations

Calendar values with their two texts: the ISO form (`isoText`) and the constructor form
(`quotedText`) in which they appear inside collections.  Times are kept to the microsecond; a date
with a time may carry an offset from universal time in minutes.
-/

namespace CqlGateway

/-- `n` in decimal digits, with zeros in front up to `width`. -/
def padded (width n : Nat) : String :=
  let digits := Nat.toDigits 10 n
  String.ofList (List.replicate (width - digits.length) '0' ++ digits)

/-! ### Days -/

/-- A day of the calendar. -/
structure Date where
  year : Nat
  month : Nat
  day : Nat
  deriving DecidableEq, Repr

namespace Date

/-- The number of days from the first day of the year 0, counted with years that begin in March. -/
def dayNumber (d : Date) : Nat :=
  let year := if d.month ≤ 2 then d.year - 1 else d.year
  let month := if d.month ≤ 2 then d.month + 9 else d.month - 3
  365 * year + year / 4 - year / 100 + year / 400 + (153 * month + 2) / 5 + d.day

/-- Year, month and day with dashes between them. -/
def isoText (d : Date) : String :=
  padded 4 d.year ++ "-" ++ padded 2 d.month ++ "-" ++ padded 2 d.day

/-- The form inside a collection. -/
def quotedText (d : Date) : String :=
  "datetime.date(" ++ ", ".intercalate [toString d.year, toString d.month, toString d.day] ++ ")"

end Date

/-! ### Times -/

/-- A time of day. -/
structure TimeOfDay where
  hour : Nat
  minute : Nat
  second : Nat
  micro : Nat
  deriving DecidableEq, Repr

namespace TimeOfDay

/-- The microseconds since midnight. -/
def micros (t : TimeOfDay) : Nat :=
  ((t.hour * 60 + t.minute) * 60 + t.second) * 1000000 + t.micro

/-- The fraction of a second, nothing if there is none. -/
def fractionText (micro : Nat) : String :=
  if micro == 0 then "" else "." ++ padded 6 micro

/-- Hours, minutes and seconds with colons between them, and the fraction of a second. -/
def isoText (t : TimeOfDay) : String :=
  padded 2 t.hour ++ ":" ++ padded 2 t.minute ++ ":" ++ padded 2 t.second ++ fractionText t.micro

/-- The numbers of the form inside a collection: trailing zeros after the minute are left out. -/
def fields (t : TimeOfDay) : List String :=
  [toString t.hour, toString t.minute] ++
    (if t.second == 0 && t.micro == 0 then [] else [toString t.second]) ++
    (if t.micro == 0 then [] else [toString t.micro])

/-- The form inside a collection. -/
def quotedText (t : TimeOfDay) : String :=
  "datetime.time(" ++ ", ".intercalate t.fields ++ ")"

end TimeOfDay

/-! ### Durations -/

/-- A length of time: whole days of either sign, and a rest below a day. -/
structure Duration where
  days : Int
  seconds : Nat
  micro : Nat
  deriving DecidableEq, Repr

namespace Duration

/-- The length in microseconds. -/
def micros (d : Duration) : Int :=
  (d.days * 86400 + d.seconds) * 1000000 + d.micro

/-- The days, if there are any, and the rest as hours, minutes and seconds. -/
def text (d : Duration) : String :=
  let days :=
    if d.days == 0 then ""
    else toString d.days ++ (if d.days.natAbs == 1 then " day, " else " days, ")
  days ++ toString (d.seconds / 3600) ++ ":" ++ padded 2 (d.seconds / 60 % 60) ++ ":" ++
    padded 2 (d.seconds % 60) ++ TimeOfDay.fractionText d.micro

/-- The form inside a collection: the parts that are not zero. -/
def quotedText (d : Duration) : String :=
  let parts :=
    (if d.days == 0 then [] else ["days=" ++ toString d.days]) ++
    (if d.seconds == 0 then [] else ["seconds=" ++ toString d.seconds]) ++
    (if d.micro == 0 then [] else ["microseconds=" ++ toString d.micro])
  "datetime.timedelta(" ++ (if parts.isEmpty then "0" else ", ".intercalate parts) ++ ")"

/-- The duration of a number of microseconds, which may be negative. -/
def ofMicros (n : Int) : Duration :=
  let rest := (Int.fmod n 86400000000).toNat
  ⟨Int.fdiv n 86400000000, rest / 1000000, rest % 1000000⟩

/-- The duration of the sum of a number of days, of seconds and of microseconds. -/
def ofParts (days seconds micros : Int) : Duration :=
  ofMicros ((days * 86400 + seconds) * 1000000 + micros)

/-- The greatest number of days of a duration, of either sign. -/
def maxDays : Nat := 999999999

/-- A number of minutes as a duration. -/
def ofMinutes (minutes : Int) : Duration :=
  ofParts 0 (minutes * 60) 0

theorem micros_ofMicros (n : Int) : (ofMicros n).micros = n := by
  have h := Int.mul_fdiv_add_fmod n 86400000000
  have hnonneg := Int.fmod_nonneg_of_pos n (b := 86400000000) (by decide)
  simp only [ofMicros, micros]
  omega

end Duration

/-! ### Dates with times -/

/-- A date with a time of day and, if known, the offset from universal time in minutes. -/
structure DateTime where
  date : Date
  time : TimeOfDay
  offset? : Option Int
  deriving DecidableEq, Repr

namespace DateTime

/-- The microseconds since the first day of the year 0, in universal time if the offset is known. -/
def micros (m : DateTime) : Int :=
  (m.date.dayNumber : Int) * 86400000000 + m.time.micros - m.offset?.getD 0 * 60000000

/-- The offset as a sign with hours and minutes, nothing if it is not known. -/
def offsetText (m : DateTime) : String :=
  match m.offset? with
  | none => ""
  | some minutes =>
    (if minutes < 0 then "-" else "+") ++ padded 2 (minutes.natAbs / 60) ++ ":" ++
      padded 2 (minutes.natAbs % 60)

/-- The date and the time with `separator` between them, and the offset. -/
def textWith (separator : String) (m : DateTime) : String :=
  m.date.isoText ++ separator ++ m.time.isoText ++ m.offsetText

/-- The ISO form. -/
def isoText (m : DateTime) : String :=
  m.textWith "T"

/-- The form inside a collection. -/
def quotedText (m : DateTime) : String :=
  let offset := match m.offset? with
    | none => []
    | some 0 => ["tzinfo=datetime.timezone.utc"]
    | some minutes =>
      ["tzinfo=datetime.timezone(" ++ (Duration.ofMinutes minutes).quotedText ++ ")"]
  let day := [toString m.date.year, toString m.date.month, toString m.date.day]
  "datetime.datetime(" ++ ", ".intercalate (day ++ m.time.fields ++ offset) ++ ")"

end DateTime

end CqlGateway
