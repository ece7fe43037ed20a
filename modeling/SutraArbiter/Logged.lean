import SutraArbiter.Failure
import SutraArbiter.Word.Group

namespace SutraArbiter

inductive Severity
  | debug
  | info
  | warning
  deriving DecidableEq

def Severity.label : Severity → String
  | debug => "DEBUG"
  | info => "INFO"
  | warning => "WARNING"

inductive Event
  | compiled (id : String) (strategy : Strategy)
  | loaded (id file : String)
  | disabled (id : String)
  | unknownDisabled (id : String)
  | registered (id : String) (tier : Tier) (tags : List String) (index : Nat)
  | rejectedInput (error : InputError)
  | rejectedContext (kind : Kind)
  | unreadFlags (names : List String)
  | unevaluated (words candidates : Nat) (scope : List String)
  | predicateFailed (id line : String)
  | badReply (id problem : String)
  | evaluated (ids : List String)
  | governs (id : String) (tier : Tier) (others : Nat)
  | resolved (id : Option String)
  | actionFailed (id line : String)
  | executed (id : String) (ok : Bool)
  | returnedNothing (reason : String)
  | returned (sutra : Option String) (reason : String)

namespace Event

def severity : Event → Severity
  | disabled _ => .info
  | unknownDisabled _ | predicateFailed .. | badReply .. | actionFailed .. => .warning
  | _ => .debug

/-- The part of the program that records the event. -/
def recorder : Event → String
  | compiled .. => "paribhasha.dsl.compiler"
  | loaded .. | disabled _ | unknownDisabled _ => "paribhasha.dsl.loader"
  | registered .. => "paribhasha.engine.registry"
  | predicateFailed .. | badReply .. => "paribhasha.engine.evaluator"
  | governs .. => "paribhasha.engine.resolver"
  | actionFailed .. => "paribhasha.engine.executor"
  | _ => "paribhasha.engine.runtime"

def list (names : List String) : String :=
  ",".intercalate names

def orNone (id : Option String) : String :=
  id.getD "None"

def yesNo (b : Bool) : String :=
  if b then "True" else "False"

def message : Event → String
  | compiled id strategy =>
      s!"Compiled rule {id} ({strategy.name} -> retain_selection)"
  | loaded id file => s!"Loaded rule {id} from {file}"
  | disabled id => s!"Rule {id} disabled by config"
  | unknownDisabled id => s!"Unknown rule id in disabled_rules ignored: {id}"
  | registered id tier tags index =>
      s!"Registered rule {id} ({tier.name}, tags={list tags}, index={index})"
  | rejectedInput error => s!"RETURNED invalid input ({error.code})"
  | rejectedContext kind => s!"RETURNED invalid context ({kind.label})"
  | unreadFlags names => s!"Context keys not read by any bundled rule: {list names}"
  | unevaluated words candidates scope =>
      s!"UNEVALUATED {words} word(s), {candidates} candidate(s) for scope {list scope}"
  | predicateFailed id line => s!"Predicate for rule {id} failed: {line}"
  | badReply id problem =>
      s!"Predicate for rule {id} returned an invalid outcome: {problem}"
  | evaluated ids =>
      let shown := if ids.isEmpty then "-" else list ids
      s!"EVALUATED {ids.length} match(es): {shown}"
  | governs id tier others =>
      s!"Rule {id} governs ({tier.name}) over {others} other match(es)"
  | resolved id => s!"RESOLVED winner={orNone id}"
  | actionFailed id line => s!"Action for rule {id} failed: {line}"
  | executed id ok => s!"EXECUTED rule {id} ok={yesNo ok}"
  | returnedNothing reason => s!"RETURNED applied=False reason={reason}"
  | returned sutra reason =>
      s!"RETURNED applied={yesNo sutra.isSome} sutra={orNone sutra} reason={reason}"

def line (event : Event) : String :=
  s!"{event.severity.label} {event.recorder} {event.message}"

end Event

/-- A result, or the failure in its place, with what was recorded on the way. -/
structure Logged (α : Type) where
  events : List Event
  result : Except Failure α

namespace Logged

variable {α β : Type}

def ofExcept (result : Except Failure α) : Logged α :=
  ⟨[], result⟩

def ofFault (result : Except Fault α) : Logged α :=
  ⟨[], result.mapError .fault⟩

def fail (failure : Failure) : Logged α :=
  ⟨[], .error failure⟩

def note (event : Event) : Logged Unit :=
  ⟨[event], .ok ()⟩

def notes (events : List Event) : Logged Unit :=
  ⟨events, .ok ()⟩

def andThen (first : Logged α) (next : α → Logged β) : Logged β :=
  match first.result with
  | .ok value => ⟨first.events ++ (next value).events, (next value).result⟩
  | .error failure => ⟨first.events, .error failure⟩

instance : Monad Logged where
  pure value := ⟨[], .ok value⟩
  bind := andThen

@[simp] theorem result_pure (value : α) : (pure value : Logged α).result = .ok value := rfl

@[simp] theorem result_note (event : Event) : (note event).result = .ok () := rfl

@[simp] theorem result_ofExcept (result : Except Failure α) :
    (ofExcept result).result = result := rfl

@[simp] theorem result_fail (failure : Failure) :
    (fail failure : Logged α).result = .error failure := rfl

/-- Records aside, steps follow each other as results do. -/
@[simp] theorem result_bind (first : Logged α) (next : α → Logged β) :
    (first >>= next).result = first.result >>= fun value => (next value).result := by
  cases h : first.result <;> simp [bind, andThen, h, Except.bind]

@[simp] theorem events_pure (value : α) : (pure value : Logged α).events = [] := rfl

@[simp] theorem events_note (event : Event) : (note event).events = [event] := rfl

theorem events_bind_of_ok {first : Logged α} {next : α → Logged β} {value : α}
    (h : first.result = .ok value) :
    (first >>= next).events = first.events ++ (next value).events := by
  simp [bind, andThen, h]

theorem events_bind_of_error {first : Logged α} {next : α → Logged β}
    {failure : Failure} (h : first.result = .error failure) :
    (first >>= next).events = first.events := by
  simp [bind, andThen, h]

end Logged

end SutraArbiter
