import MeshAgent.DateTime.Calendar
import MeshAgent.Text.Decimal

/-!
# Dates with a time of day

A date and time as a clock shows it, to the microsecond, with the clock's offset from universal time
if that is known.
-/
namespace MeshAgent

/-- How far a clock is ahead of universal time. -/
structure Offset where
  /-- Microseconds east of universal time. -/
  micros : Int
  /-- Whether the zone of the clock has another offset for the same clock time: the hour comes twice, or
  it is left out. -/
  twofold : Bool := false
deriving DecidableEq, Repr

namespace Offset

def ofMinutes (minutes : Int) : Offset := { micros := minutes * 60000000 }

/-- Hours and minutes, and the smaller parts that there are. -/
def text (o : Offset) : List Char :=
  let m := o.micros.natAbs
  (if o.micros < 0 then '-' else '+') :: Decimal.pad2 (m / 3600000000)
    ++ ':' :: Decimal.pad2 (m / 60000000 % 60)
    ++ (if m % 60000000 = 0 then [] else ':' :: Decimal.pad2 (m / 1000000 % 60))
    ++ (if m % 1000000 = 0 then [] else '.' :: Decimal.padTo 6 (m % 1000000))

/-- The form that is sent: universal time is marked by a letter, and other offsets are rounded to
seconds, of which only the whole minutes are sent. -/
def sent (o : Offset) : List Char :=
  let seconds := (o.micros.natAbs + 500000) / 1000000
  if seconds = 0 then ['Z']
  else
    (if o.micros < 0 then '-' else '+') :: Decimal.pad2 (seconds / 3600)
      ++ ':' :: Decimal.pad2 (seconds / 60 % 60)

end Offset

structure DateTime where
  year : Nat
  month : Nat
  day : Nat
  hour : Nat
  minute : Nat
  second : Nat
  micro : Nat
  offset : Option Offset
deriving DecidableEq, Repr

namespace DateTime

/-- The time in UTC, `seconds` and `micro` after the start of 1970, if its year is after the year 0. -/
def ofUnix (seconds : Int) (micro : Nat) : DateTime :=
  let date := Calendar.dateOf (seconds.fdiv 86400)
  let time := (seconds.fmod 86400).toNat
  { year := date.year.toNat, month := date.month, day := date.day
    hour := time / 3600, minute := time / 60 % 60, second := time % 60, micro
    offset := some (.ofMinutes 0) }

/-- A date of the calendar in the years 1 to 9999 with a time of day, and an offset of less than a
day. -/
structure Valid (d : DateTime) : Prop where
  year_pos : 1 ≤ d.year
  year_le : d.year ≤ 9999
  month_pos : 1 ≤ d.month
  month_le : d.month ≤ 12
  day_pos : 1 ≤ d.day
  day_le : d.day ≤ Calendar.daysInMonth d.year d.month
  hour_le : d.hour ≤ 23
  minute_le : d.minute ≤ 59
  second_le : d.second ≤ 59
  micro_lt : d.micro < 1000000
  offset_lt : ∀ o ∈ d.offset, o.micros.natAbs < 86400000000

instance : DecidablePred Valid := fun d =>
  decidable_of_decidable_of_iff
    (p := (1 ≤ d.year ∧ d.year ≤ 9999) ∧ (1 ≤ d.month ∧ d.month ≤ 12) ∧
      (1 ≤ d.day ∧ d.day ≤ Calendar.daysInMonth d.year d.month) ∧
      (d.hour ≤ 23 ∧ d.minute ≤ 59 ∧ d.second ≤ 59 ∧ d.micro < 1000000) ∧
      ∀ o ∈ d.offset, o.micros.natAbs < 86400000000)
    ⟨fun ⟨⟨a, b⟩, ⟨c, d⟩, ⟨e, f⟩, ⟨g, h, i, j⟩, k⟩ => ⟨a, b, c, d, e, f, g, h, i, j, k⟩,
     fun ⟨a, b, c, d, e, f, g, h, i, j, k⟩ => ⟨⟨a, b⟩, ⟨c, d⟩, ⟨e, f⟩, ⟨g, h, i, j⟩, k⟩⟩

def writeClock (d : DateTime) : List Char :=
  Decimal.padTo 4 d.year ++ '-' :: Decimal.pad2 d.month ++ '-' :: Decimal.pad2 d.day
    ++ 'T' :: Decimal.pad2 d.hour ++ ':' :: Decimal.pad2 d.minute ++ ':' :: Decimal.pad2 d.second
    ++ (if d.micro = 0 then [] else '.' :: Decimal.padTo 6 d.micro)

/-- The usual text of a date and time. -/
def text (d : DateTime) : String :=
  String.ofList (d.writeClock ++ (d.offset.map Offset.text).getD [])

def writeZone (zone : Option Offset) : List Char := (zone.map Offset.sent).getD []

/-- The text that is sent. -/
def write (d : DateTime) : List Char := d.writeClock ++ writeZone d.offset

end DateTime

end MeshAgent
