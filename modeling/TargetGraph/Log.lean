import TargetGraph.Target

/-!
What a load records about itself. Events are values: a computation returns the events of the part
that ran together with its outcome, and how much of them is written is decided afterwards.
-/
set_option autoImplicit false

namespace TargetGraph

namespace Log

inductive Level where
  | error | warn | info | debug | trace
deriving DecidableEq, Repr

namespace Level

def rank : Level → Nat
  | error => 1
  | warn => 2
  | info => 3
  | debug => 4
  | trace => 5

def label : Level → String
  | error => "ERROR"
  | warn => " WARN"
  | info => " INFO"
  | debug => "DEBUG"
  | trace => "TRACE"

end Level

inductive Verbosity where
  | off
  | upTo (level : Level)
deriving DecidableEq, Repr

namespace Verbosity

def admits : Verbosity → Level → Bool
  | off, _ => false
  | upTo limit, level => decide (level.rank ≤ limit.rank)

/-- One of the six names in lower case. The other directives of a filter, such as a level for one origin
alone, are left out here. -/
def ofName? : String → Option Verbosity
  | "off" => some off
  | "error" => some (upTo .error)
  | "warn" => some (upTo .warn)
  | "info" => some (upTo .info)
  | "debug" => some (upTo .debug)
  | "trace" => some (upTo .trace)
  | _ => none

end Verbosity

inductive Event where
  | reading (path : String)
  | parsed (entries : Nat)
  | registered (targets : Nat)
  | resolved (owner dependency : String) (id : TargetId)
  | connected (edges : Nat)
  | loaded (targets : Nat)
deriving DecidableEq, Repr

namespace Event

def level : Event → Level
  | resolved .. => .trace
  | _ => .debug

def origin : Event → String
  | reading _ | parsed _ => "buildgraph_lib::document::parse"
  | registered _ | resolved .. | connected _ => "buildgraph_lib::graph"
  | loaded _ => "bgraph::cmd"

def text : Event → String
  | reading path => s!"reading target document path={path}"
  | parsed entries => s!"parsed target document entries={entries}"
  | registered targets => s!"registered targets targets={targets}"
  | resolved owner dependency id =>
    s!"resolved dependency owner={owner} dependency={dependency} id={id.display}"
  | connected edges => s!"resolved dependencies edges={edges}"
  | loaded targets => s!"loaded target graph targets={targets}"

/-- The line in plain characters. The codes for colours and weights that the program may write around its
parts are left out here. -/
def line (event : Event) : String :=
  s!"{event.level.label} {event.origin}: {event.text}"

end Event

end Log

/-- An outcome together with the events of everything that ran before it was reached. -/
structure Traced (ε α : Type) where
  events : List Log.Event
  outcome : Except ε α

namespace Traced

variable {ε ζ α β : Type}

def ok (value : α) : Traced ε α := ⟨[], .ok value⟩

def fail (error : ε) : Traced ε α := ⟨[], .error error⟩

def ofExcept (outcome : Except ε α) : Traced ε α := ⟨[], outcome⟩

def emit (event : Log.Event) : Traced ε Unit := ⟨[event], .ok ()⟩

/-- A failure stops the run; the events before it stay. -/
def bind (first : Traced ε α) (next : α → Traced ε β) : Traced ε β :=
  match first.outcome with
  | .error error => ⟨first.events, .error error⟩
  | .ok value => ⟨first.events ++ (next value).events, (next value).outcome⟩

instance : Monad (Traced ε) where
  pure := ok
  bind := bind

def mapError (f : ε → ζ) (run : Traced ε α) : Traced ζ α := ⟨run.events, run.outcome.mapError f⟩

@[simp] theorem ok_bind (value : α) (next : α → Traced ε β) : (ok value >>= next) = next value := rfl

@[simp] theorem fail_bind (error : ε) (next : α → Traced ε β) : (fail error >>= next) = fail error := rfl

@[simp] theorem of_except_ok (value : α) : (ofExcept (.ok value) : Traced ε α) = ok value := rfl

@[simp] theorem of_except_error (error : ε) :
    (ofExcept (.error error) : Traced ε α) = fail error := rfl

theorem mk_ok_bind (events : List Log.Event) (value : α) (next : α → Traced ε β) :
    ((⟨events, .ok value⟩ : Traced ε α) >>= next) =
      ⟨events ++ (next value).events, (next value).outcome⟩ := rfl

theorem mk_error_bind (events : List Log.Event) (error : ε) (next : α → Traced ε β) :
    ((⟨events, .error error⟩ : Traced ε α) >>= next) = ⟨events, .error error⟩ := rfl

theorem emit_bind (event : Log.Event) (next : Unit → Traced ε β) :
    (emit event >>= next) = ⟨event :: (next ()).events, (next ()).outcome⟩ := rfl

theorem outcome_bind (first : Traced ε α) (next : α → Traced ε β) :
    (first >>= next).outcome = first.outcome >>= fun value => (next value).outcome := by
  cases first with
  | mk events outcome => cases outcome <;> rfl

def preceded (events : List Log.Event) (complete : α → β) (run : Traced ε α) : Traced ε β :=
  ⟨events ++ run.events, run.outcome.map complete⟩

end Traced

end TargetGraph
