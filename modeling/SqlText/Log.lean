import SqlText.Placeholder.Binding

/-!
# Log

What happens while a statement is built is recorded as a list of events.  A
computation with a log records events whether it succeeds or fails.  What is said once,
for every place where steps can fail and events can be recorded (`Recording`), runs with
a log and without one.
-/

namespace SqlText

/-- Something worth recording. -/
inductive Event
  /-- A statement was built: its kind, the dialect, the bytes of its text and the
  number of its unnamed parameters. -/
  | built (kind : StatementKind) (dialect : String) (bytes placeholders : Nat)
  /-- A statement had refused steps. -/
  | rejected (kind : StatementKind) (problems : Nat)
  /-- A statement had both unnamed and named parameters. -/
  | mixed (kind : StatementKind) (placeholders : Nat)
  /-- Unnamed parameters became markers without numbers. -/
  | replaced (count : Nat)
  /-- Unnamed parameters became markers with numbers. -/
  | numbered (count : Nat)
  /-- Places of named parameters became placeholders. -/
  | resolved (count names : Nat)
deriving DecidableEq, Repr

/-- The wording of an event. -/
def Event.message : Event → String
  | built _ _ _ _ => "statement built"
  | rejected _ _ => "statement rejected"
  | mixed _ _ => "statement rejected: mixed unnamed and named parameters"
  | replaced _ => "replaced positional sentinels"
  | numbered _ => "numbered positional sentinels"
  | resolved _ _ => "resolved named sentinels"

/-- Whether an event is about statements as a whole, and not about the details of
their placeholders. -/
def Event.isSummary : Event → Bool
  | built _ _ _ _ => true
  | rejected _ _ => true
  | mixed _ _ => true
  | _ => false

/-- The outcome of a computation with the events that it recorded. -/
structure Logged (α : Type) where
  events : List Event
  result : Except Fault α

namespace Logged

variable {α β : Type}

/-- Records events and succeeds or fails as given. -/
def of (events : List Event) (result : Except Fault α) : Logged α :=
  ⟨events, result⟩

/-- The outcome of writing something.  What is recorded is the refused steps of the
statement, or of the query in it, that writing came upon. -/
def ofWriting (result : Except Fault α) : Logged α :=
  match result with
  | .error (.rejected kind problems) => ⟨[.rejected kind problems.length], result⟩
  | _ => ⟨[], result⟩

/-- Records an event. -/
def record (event : Event) : Logged Unit :=
  ⟨[event], .ok ()⟩

/-- Goes on with a result, after the events recorded so far. -/
def andThen (first : Logged α) (next : α → Logged β) : Logged β :=
  match first.result with
  | .error fault => ⟨first.events, .error fault⟩
  | .ok value => ⟨first.events ++ (next value).events, (next value).result⟩

instance : Monad Logged where
  pure value := ⟨[], .ok value⟩
  bind := andThen

/-! The result of a computation does not depend on what it records. -/

@[simp] theorem result_of (events : List Event) (result : Except Fault α) :
    (of events result).result = result := rfl

@[simp] theorem result_ofWriting (result : Except Fault α) :
    (ofWriting result).result = result := by
  unfold ofWriting
  split <;> rfl

@[simp] theorem result_pure (value : α) : (pure value : Logged α).result = .ok value := rfl

@[simp] theorem result_record (event : Event) : (record event).result = .ok () := rfl

@[simp] theorem result_bind (first : Logged α) (next : α → Logged β) :
    (first >>= next).result = first.result >>= fun value => (next value).result := by
  show (andThen first next).result = _
  unfold andThen
  cases first.result <;> rfl

end Logged

/-- Where computations run that can fail and have events to record.  They run with a log, or
without one if nobody asks for it. -/
class Recording (m : Type → Type) where
  /-- An outcome about which nothing is recorded. -/
  ofResult {α : Type} : Except Fault α → m α
  /-- Records an event. -/
  record : Event → m Unit

instance : Recording Logged where
  ofResult := .of []
  record := Logged.record

@[default_instance]
instance : Recording (Except Fault) where
  ofResult := id
  record _ := .ok ()

namespace Recording

/-- Fails, and records nothing about it. -/
def fail {m : Type → Type} [Recording m] {α : Type} (fault : Fault) : m α :=
  ofResult (.error fault)

/-! Without a log a computation is its outcome. -/

@[simp] theorem ofResult_eq {α : Type} (result : Except Fault α) :
    (ofResult result : Except Fault α) = result := rfl

end Recording

/-- Numbers the places of unnamed parameters and records how many there were, if
there were any. -/
def numberSlotsLogged (dialect : Dialect) (text : String) : Logged String :=
  let count := countSlots text
  .of
    (if count = 0 then []
      else if dialect.numbersParameters then [.numbered count]
      else [.replaced count])
    (.ok (numberSlots dialect text))

/-- Resolves the names in a text and records how many there were, if there were
any. -/
def resolveNamesLogged (dialect : Dialect) (text : String) : Logged NamedText :=
  match resolveNames dialect text with
  | .error fault => .of [] (.error fault)
  | .ok named =>
      .of (if named.count = 0 then [] else [.resolved named.count named.positions.size])
        (.ok named)

@[simp] theorem result_numberSlotsLogged (dialect : Dialect) (text : String) :
    (numberSlotsLogged dialect text).result = .ok (numberSlots dialect text) := rfl

@[simp] theorem result_resolveNamesLogged (dialect : Dialect) (text : String) :
    (resolveNamesLogged dialect text).result = resolveNames dialect text := by
  unfold resolveNamesLogged
  cases resolveNames dialect text <;> rfl

end SqlText
