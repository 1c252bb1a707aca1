import MeshAgent.Store.Basic

/-!
# Transactions

A transaction that ends without a commit is rolled back, however it ends. A handle that has finished
runs no more statements; a commit or a rollback asked of it still reaches the connection. A handle is
not told when the database itself ends its transaction: its next statements are durable at once.
-/
namespace MeshAgent.Transaction

def closedError (store : Store) : AgentError :=
  { kind := .storage, reason := .storeClosed, activity := some .openDatabase
    entity := some store.path }

/-- Begins a transaction. -/
def begin_ (write : Bool) : StoreM Handle := do
  let s ← get
  if s.connection.closed then StoreM.fail (closedError s.store)
  StoreM.onConnection .beginTransaction none fun c => c.begin_.map (·, ())
  StoreM.record .debug .database ("Transaction begun (write=" ++ flagText write ++ ")")
  modifyGet fun s => (s.begun, { s with begun := s.begun + 1 })

def isFinished (h : Handle) : StoreM Bool := return (← get).finished.contains h

def finish (h : Handle) : StoreM Unit := modify fun s => { s with finished := h :: s.finished }

/-- Runs one statement of an unfinished transaction. Numbers that no column holds are refused before
the statement runs. -/
def execute {α : Type} (h : Handle) (activity : Activity) (entity : Option String)
    (numbers : List Int) (statement : Tables → Except DatabaseProblem (Tables × α)) : StoreM α := do
  if ← isFinished h then
    StoreM.fail { kind := .storage, reason := .transactionFinished,
                  activity := some .executeStatement }
  if (← get).connection.closed then
    StoreM.fail (Connection.closedProblem.toAgentError activity entity)
  if numbers.any fun n => !fitsColumn n then throw .integerRange
  let s ← get
  let (outcome, c) := s.connection.run statement
  set { s with connection := c }
  match outcome with
  | .ok a => return a
  | .error p => StoreM.fail (p.toAgentError activity entity)

/-- Runs a statement that only reads. -/
def query {α : Type} (h : Handle) (activity : Activity) (entity : Option String)
    (numbers : List Int) (read : Tables → α) : StoreM α :=
  execute h activity entity numbers fun t => .ok (t, read t)

def commit (h : Handle) : StoreM Unit := do
  StoreM.onConnection .commitTransaction none fun c => c.commit.map (·, ())
  finish h
  StoreM.record .debug .database "Transaction committed"

/-- Rolls back. A transaction that is over already is left alone. -/
def rollback (h : Handle) : StoreM Unit := do
  finish h
  let s ← get
  match s.connection.rollback with
  | .ok c =>
    set { s with connection := c }
    StoreM.record .debug .database "Transaction rolled back"
  | .error p =>
    let text := match p with
      | .other t => t
      | _ => ""
    StoreM.record .debug .database ("Rollback skipped: " ++ text)

/-- Ends a block: what has not been committed is rolled back. -/
def leave (h : Handle) : StoreM Unit := do
  unless ← isFinished h do rollback h

section

variable {m : Type → Type} [Monad m] [MonadExceptOf Failure m] {α : Type}

/-- Runs `body` in a transaction of its own. Its computations may do more than work on the store;
`onStore` says how the store takes part in them. -/
def scope (onStore : {β : Type} → StoreM β → m β) (write : Bool) (body : Handle → m α) : m α := do
  let h ← onStore (begin_ write)
  let outcome : Except Failure α ← tryCatch (Except.ok <$> body h) (fun e => pure (.error e))
  onStore (leave h)
  match outcome with
  | .ok a => pure a
  | .error e => throw e

end

end MeshAgent.Transaction
