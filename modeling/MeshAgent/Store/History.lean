import MeshAgent.Store.Transaction

/-!
# History

Entries are only ever added. The newest entry of an interface is its current status, and both adding
and asking happen inside a transaction, so that an entry becomes durable together with the change it
describes.
-/
namespace MeshAgent.History

/-- First and last second that a date can have. -/
def firstSecond : Int := -62135596800
def lastSecond : Int := 253402300799

/-- A year as it is told. The years are counted from 1900 in a word of 32 bits, and the last ones of
them have wrapped round when 1900 has been added. -/
def toldYear (year : Int) : Int := if 2147483647 < year then year - 4294967296 else year

/-- A time that has no date in the years 1 to 9999 is refused by its year; far away there is not
even a year. -/
def checkTime (seconds : Int) : Except Failure Unit :=
  if firstSecond ≤ seconds ∧ seconds ≤ lastSecond then .ok ()
  else
    let year := (Calendar.dateOf (seconds.fdiv 86400)).year
    if -2147481748 ≤ year ∧ year ≤ 2147485547 then .error (.yearRange (toldYear year))
    else .error .timeOverflow

/-- Reads a stored entry. Its operation is looked at before its state. -/
def entryOfRow (r : LogRow) : Except Failure Entry := do
  let refuse (text set : String) : Except Failure Entry :=
    .error (.agent { kind := .parse, reason := .logEntry r.id text set, activity := some .queryLog })
  match Operation.ofName? r.operation with
  | none => refuse r.operation "Operation"
  | some operation =>
    match State.ofName? r.state with
    | none => refuse r.state "State"
    | some state =>
      let seconds := r.seconds.getD 0
      checkTime seconds
      return { id := r.id, seconds, operation, state, dirty := r.dirty ≠ 0, message := r.message }

/-- The newest entry of an interface, if it has any. -/
def last (h : Handle) (iface : Interface) : StoreM (Option Entry) := do
  let row ← Transaction.query h (.queryLastLog iface.label) (some iface.label) [iface.id]
    fun t => t.lastLog? iface.id
  match row with
  | none => return none
  | some r => return some (← StoreM.lift (entryOfRow r))

/-- The newest entry of the interface with the given names. -/
def lastNamed (h : Handle) (device network : String) : StoreM (Option Entry) := do
  let row ← Transaction.query h .queryDeviceLog (some (Interface.labelOf device network)) []
    fun t => t.lastLogNamed? device network
  match row with
  | none => return none
  | some r => return some (← StoreM.lift (entryOfRow r))

/-- The second that the clock shows; a clock beyond the calendar shows none. -/
def currentSecond : StoreM Int := do
  let seconds := (← get).now.fdiv 1000000
  StoreM.lift (checkTime seconds)
  return seconds

/-- Adds an entry and returns it as it was written. -/
def append (h : Handle) (iface : Interface) (operation : Operation) (state : State) (dirty : Bool)
    (message : String) : StoreM Entry := do
  let seconds ← currentSecond
  let id ← Transaction.execute h (.appendLog iface.label) (some iface.label) [iface.id] fun t =>
    t.appendLog
      { seconds := some seconds, interfaceId := iface.id, operation := operation.name,
        state := state.name, dirty := if dirty then 1 else 0, message }
  StoreM.record .info .history
    ("Interface " ++ iface.label ++ ": " ++ operation.name ++ " -> " ++ state.name
      ++ " (dirty=" ++ flagText dirty ++ ")")
  return { id, seconds, operation, state, dirty, message }

/-- Adds an entry whose operation and state are given as text. The clock is looked at before them. -/
def appendNamed (h : Handle) (iface : Interface) (operation state : String) (dirty : Bool)
    (message : String) : StoreM Entry := do
  let _ ← currentSecond
  match Operation.ofName? operation with
  | none => throw (.notMember operation "Operation")
  | some operation =>
    match State.ofName? state with
    | none => throw (.notMember state "State")
    | some state => append h iface operation state dirty message

end MeshAgent.History
