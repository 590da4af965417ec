import JumpMacros.Proofs.Sites

/-!
# Runs

A run takes a state to an ending and shows events on its way. Runs are relations, so that one
state can have many runs, or none. Besides the endings with a result there are partial runs: at
certain points, the probes, a run may be stopped to look at the state there. That a probe is
reached says that control comes to it, whether or not the run would end.

`Host` is all that is left open about the language: what expressions and simple statements do,
how iterators, context managers and exceptions behave, what becomes of a definition. What a host
does depends on its store alone, which a run hands through.
-/

namespace JumpMacros

/-! ## Runs as relations -/

/-- The ending of a run: a result and a state, or a probe where it is stopped. -/
inductive Ending (State Probe α : Type) where
  | done (a : α) (s : State)
  | stopped (p : Probe)

/-- What can happen from a state: events and an ending. -/
def Run (State Event Probe α : Type) : Type := State → List Event → Ending State Probe α → Prop

namespace Run

variable {State Event Probe α β : Type}

/-- Nothing happens. -/
def ret (a : α) : Run State Event Probe α := fun s es r => es = [] ∧ r = .done a s

/-- One run after the other; a run that is stopped stays so. -/
def andThen (m : Run State Event Probe α) (f : α → Run State Event Probe β) :
    Run State Event Probe β := fun s es r =>
  (∃ p, m s es (.stopped p) ∧ r = .stopped p) ∨
    ∃ a t es₁ es₂, m s es₁ (.done a t) ∧ f a t es₂ r ∧ es = es₁ ++ es₂

instance : Monad (Run State Event Probe) where
  pure := ret
  bind := andThen

/-- A probe, where a run may be stopped. -/
def mayStop (p : Probe) : Run State Event Probe Unit := fun s es r =>
  es = [] ∧ (r = .done () s ∨ r = .stopped p)

/-- Looks at the state. -/
def look (f : State → α) : Run State Event Probe α := fun s es r => es = [] ∧ r = .done (f s) s

/-- Changes the state. -/
def update (f : State → State) : Run State Event Probe Unit := fun s es r =>
  es = [] ∧ r = .done () (f s)

/-- Runs a step again and again until it gives a result. -/
inductive Loops (step : Run State Event Probe (Option α)) : Run State Event Probe α
  | last {s t : State} {es : List Event} {a : α} (h : step s es (.done (some a) t)) :
    Loops step s es (.done a t)
  | halt {s : State} {es : List Event} {p : Probe} (h : step s es (.stopped p)) :
    Loops step s es (.stopped p)
  | again {s t : State} {es es' : List Event} {r : Ending State Probe α}
    (h : step s es (.done none t)) (rest : Loops step t es' r) : Loops step s (es ++ es') r

end Run

/-! ## Hosts -/

/-- Something that a host does: events, and a result or an error. -/
abbrev Action (Store Event Error α : Type) : Type :=
  Store → List Event → Except Error α → Store → Prop

/-- What is left open about the language. -/
structure Host where
  Store : Type
  Event : Type
  Value : Type
  Error : Type
  /-- Iterators that are being iterated over. -/
  Cursor : Type
  /-- Context managers that have been entered. -/
  Manager : Type
  /-- The value of a function that does not say what it returns. -/
  nothing : Value
  /-- The error of a name that is not bound. -/
  unbound : String → Error
  /-- Runs a simple statement that neither jumps nor returns. -/
  exec : Simple → Action Store Event Error Unit
  eval : Expr → Action Store Event Error Value
  /-- Evaluates an expression for its truth. -/
  test : Expr → Action Store Event Error Bool
  iterate : Bool → Expr → Action Store Event Error Cursor
  /-- Assigns the next item to a target, if there is one. -/
  advance : Bool → Cursor → Expr → Action Store Event Error Bool
  enter : Bool → Expr → Action Store Event Error Manager
  /-- Assigns what entering a context manager gave. -/
  assign : Manager → Expr → Action Store Event Error Unit
  /-- Leaves a context manager, with the error that leaves its block; `true` takes it back. -/
  leave : Bool → Manager → Option Error → Action Store Event Error Bool
  /-- Whether an error is of the type a handler is for. -/
  handles : Option Expr → Error → Action Store Event Error Bool
  /-- Splits a group of errors into those of a type and the others. -/
  split : Option Expr → Error → Action Store Event Error (Option Error × Option Error)
  /-- What is raised once all groups are handled: the group there was, the errors of the handlers,
  and what none of them was for. -/
  regroup : Error → List Error → Option Error → Action Store Event Error (Option Error)
  /-- Makes an error the current one, and binds it to a name. -/
  hold : Option String → Error → Action Store Event Error Unit
  release : Option String → Action Store Event Error Unit
  /-- Whether a value matches a pattern, whose names are bound then. -/
  accepts : Value → Pattern → Action Store Event Error Bool
  /-- Defines a function by what its body does when it is called. -/
  define : FunctionHead → Action Store Event Error Value → Action Store Event Error Unit
  openClass : ClassHead → Action Store Event Error Unit
  /-- Leaves the body of a class, with the error it ended with. -/
  closeClass : ClassHead → Option Error → Action Store Event Error Unit

namespace Host

/-- How a statement ends: it runs through, leaves or continues the innermost loop or one that is
named, returns, or raises. -/
inductive Signal (H : Host) where
  | normal
  | breaks
  | continues
  | returns (v : H.Value)
  | raises (e : H.Error)
  | jumps (j : NamedJump)

/-- Whether a signal is a jump. -/
def Signal.isJump {H : Host} (j : NamedJump) : H.Signal → Bool
  | .jumps j' => j' == j
  | _ => false

variable (H : Host) {X P α β : Type}

/-- Runs whose state is the store of the host and something that a semantics adds. -/
abbrev Exec (X P α : Type) : Type := Run (H.Store × X) H.Event P α

variable {H}

/-- Does something of the host, which does not see what is added to the store. -/
def act (a : Action H.Store H.Event H.Error α) : H.Exec X P (Except H.Error α) := fun s es r =>
  ∃ x t, a s.1 es x t ∧ r = .done x (t, s.2)

/-- Goes on with a result; an error is raised. -/
def orRaise (m : H.Exec X P (Except H.Error α)) (f : α → H.Exec X P H.Signal) :
    H.Exec X P H.Signal := do
  match ← m with
  | .error e => pure (.raises e)
  | .ok a => f a

/-- The second run follows the first if that runs through. -/
def andNext (m rest : H.Exec X P H.Signal) : H.Exec X P H.Signal := do
  match ← m with
  | .normal => rest
  | sig => pure sig

/-- Looks at what is added to the store. -/
def inspect (f : X → α) : H.Exec X P α := Run.look fun s => f s.2

/-- Changes what is added to the store. -/
def adjust (f : X → X) : H.Exec X P Unit := Run.update fun s => (s.1, f s.2)

/-- A simple statement. -/
def simple : Simple → H.Exec X P H.Signal
  | .pass => pure .normal
  | .breaks => pure .breaks
  | .continues => pure .continues
  | .returns none => pure (.returns H.nothing)
  | .returns (some e) => orRaise (act (H.eval e)) fun v => pure (.returns v)
  | s => orRaise (act (H.exec s)) fun _ => pure .normal

/-! ## Compound statements -/

/-- One of two runs, by a test. -/
def choose (test : H.Exec X P (Except H.Error Bool)) (yes no : H.Exec X P H.Signal) :
    H.Exec X P H.Signal :=
  orRaise test fun b => if b then yes else no

/-- Leaves a context manager. An error of the block is raised again unless the manager takes it
back; any other way to leave the block goes on, unless leaving the manager fails. -/
def closing (isAsync : Bool) (manager : H.Manager) : H.Signal → H.Exec X P H.Signal
  | .raises e => orRaise (act (H.leave isAsync manager (some e))) fun back =>
    pure (if back then .normal else .raises e)
  | sig => orRaise (act (H.leave isAsync manager none)) fun _ => pure sig

/-- A block under context managers, the first outermost. -/
def underManagers (isAsync : Bool) (body : H.Exec X P H.Signal) :
    List WithItem → H.Exec X P H.Signal
  | [] => body
  | ⟨e, target⟩ :: ws => orRaise (act (H.enter isAsync e)) fun manager => do
    let inner := underManagers isAsync body ws
    let sig ← match target with
      | none => inner
      | some t => orRaise (act (H.assign manager t)) fun _ => inner
    closing isAsync manager sig

/-- Runs with an error as the current one. -/
def holding (name : Option String) (e : H.Error) (m : H.Exec X P H.Signal) :
    H.Exec X P H.Signal :=
  orRaise (act (H.hold name e)) fun _ => do
    let sig ← m
    orRaise (act (H.release name)) fun _ => pure sig

/-- A handler: the type of errors, the name they are bound to, and what is done. -/
structure Catch (H : Host) (X P : Type) where
  type : Option Expr
  name : Option String
  run : H.Exec X P H.Signal

/-- The first handler for an error is run. -/
def dispatch (e : H.Error) : List (Catch H X P) → H.Exec X P H.Signal
  | [] => pure (.raises e)
  | c :: cs => orRaise (act (H.handles c.type e)) fun yes =>
    if yes then holding c.name e c.run else dispatch e cs

/-- Every handler is run on the errors of a group that it is for; what the handlers raise and what
is left is raised together. -/
def dispatchGroup (e : H.Error) :
    List (Catch H X P) → List H.Error → Option H.Error → H.Exec X P H.Signal
  | [], raised, rest => orRaise (act (H.regroup e raised rest)) fun
    | none => pure .normal
    | some e' => pure (.raises e')
  | _ :: cs, raised, none => dispatchGroup e cs raised none
  | c :: cs, raised, some rest => orRaise (act (H.split c.type rest)) fun
    | (none, rest) => dispatchGroup e cs raised rest
    | (some mine, rest) => do
      match ← holding c.name mine c.run with
      | .normal => dispatchGroup e cs raised rest
      | .raises e' => dispatchGroup e cs (raised ++ [e']) rest
      | sig => pure sig

/-- A block with handlers for its errors, and what follows if it runs through. -/
def withHandlers (star : Bool) (body : H.Exec X P H.Signal) (clauses : List (Catch H X P))
    (orelse : H.Exec X P H.Signal) : H.Exec X P H.Signal := do
  match ← body with
  | .normal => orelse
  | .raises e => if star then dispatchGroup e clauses [] (some e) else dispatch e clauses
  | sig => pure sig

/-- What comes out of a block and a last part: the signal of the block goes on if the last part
runs through, and is overridden by any other ending of the last part. -/
def Signal.overriddenBy (sig : H.Signal) : H.Signal → H.Signal
  | .normal => sig
  | ending => ending

/-- Runs a last part after a block that has ended with a signal. An error of the block is the
current one meanwhile. -/
def lastPart (last : H.Exec X P H.Signal) : H.Signal → H.Exec X P H.Signal
  | .raises e => holding none e last
  | _ => last

/-- The last part after a signal, and what comes out of both. -/
def finishing (sig : H.Signal) (last : H.Exec X P H.Signal) : H.Exec X P H.Signal := do
  let ending ← lastPart last sig
  pure (sig.overriddenBy ending)

/-- A block with a last part that is run however the block ends. -/
def withFinal (m : H.Exec X P H.Signal) (last : H.Signal → H.Exec X P H.Signal) :
    H.Exec X P H.Signal := do
  let sig ← m
  finishing sig (last sig)

/-- A case: its pattern, its guard, and what is done. -/
structure Choice (H : Host) (X P : Type) where
  pattern : Pattern
  guard : Option Expr
  run : H.Exec X P H.Signal

/-- What is done if a guard holds or is not there, and what otherwise. -/
def ifGuard (yes no : H.Exec X P H.Signal) : Option Expr → H.Exec X P H.Signal
  | none => yes
  | some g => choose (act (H.test g)) yes no

/-- The first case that a value fits is run. -/
def select (v : H.Value) : List (Choice H X P) → H.Exec X P H.Signal
  | [] => pure .normal
  | c :: cs => orRaise (act (H.accepts v c.pattern)) fun fits =>
    if fits then ifGuard c.run (select v cs) c.guard else select v cs

/-! ## Scopes -/

/-- Runs a scope with a fresh addition to the store; the addition outside is as it was. -/
def inScope (fresh : X) (m : H.Exec X P α) : H.Exec X P α := fun s es r =>
  (∃ p, m (s.1, fresh) es (.stopped p) ∧ r = .stopped p) ∨
    ∃ a t x, m (s.1, fresh) es (.done a (t, x)) ∧ r = .done a (t, s.2)

/-- What the end of a function's body gives to the caller. -/
def Signal.result? : H.Signal → Option (Except H.Error H.Value)
  | .normal => some (.ok H.nothing)
  | .returns v => some (.ok v)
  | .raises e => some (.error e)
  | .breaks | .continues | .jumps _ => none

/-- What a function does when it is called. -/
def called (fresh : X) (m : H.Exec X P H.Signal) :
    Action H.Store H.Event H.Error H.Value := fun s es x t =>
  ∃ sig y, m (s, fresh) es (.done sig (t, y)) ∧ sig.result? = some x

/-- Defines a function. It may be called in any store, so a run may be stopped wherever a call may
be. -/
def defining (fresh : X) (h : FunctionHead) (m : H.Exec X P H.Signal) :
    H.Exec X P H.Signal := fun s es r =>
  orRaise (act (H.define h (called fresh m))) (fun _ => pure .normal) s es r ∨
    ∃ p t es', m (t, fresh) es' (.stopped p) ∧ es = [] ∧ r = .stopped p

/-- The body of a class is run at once. -/
def inClass (fresh : X) (h : ClassHead) (m : H.Exec X P H.Signal) : H.Exec X P H.Signal :=
  orRaise (act (H.openClass h)) fun _ => do
    match ← inScope fresh m with
    | .raises e => orRaise (act (H.closeClass h (some e))) fun _ => pure (.raises e)
    | sig => orRaise (act (H.closeClass h none)) fun _ => pure sig

/-! ## Loops -/

/-- What a loop does first: a `for` loop asks for an iterator. -/
def begin : LoopHead → Action H.Store H.Event H.Error (Option H.Cursor)
  | .over isAsync _ e => fun s es x t => ∃ y, H.iterate isAsync e s es y t ∧ x = y.map some
  | .whilst _ => fun s es x t => es = [] ∧ x = .ok none ∧ t = s

/-- What a loop does before each round: whether there is one. -/
def proceed : LoopHead → Option H.Cursor → Action H.Store H.Event H.Error Bool
  | .over isAsync target _, some c => H.advance isAsync c target
  | .over _ _ _, none => fun _ _ _ _ => False
  | .whilst t, _ => H.test t

/-- What a loop does after a round, by the ending of its body: another round, or an ending of its
own. The loop catches the jumps to its label. -/
def afterRound (label : Option String) : H.Signal → Option H.Signal
  | .normal | .continues => none
  | .breaks => some .normal
  | .jumps (k, name) =>
    if label = some name then
      match k with
      | .breaks => some .normal
      | .continues => none
    else some (.jumps (k, name))
  | sig => some sig

/-- The rounds of a loop. The result is the ending of the loop if its body has left it, and `none`
if there were no more rounds. -/
def rounds (label : Option String) (next : Action H.Store H.Event H.Error Bool)
    (body : H.Exec X P H.Signal) : H.Exec X P (Option H.Signal) :=
  Run.Loops do
    match ← act next with
    | .error e => pure (some (some (.raises e)))
    | .ok false => pure (some none)
    | .ok true =>
      let sig ← body
      pure ((afterRound label sig).map some)

end Host

end JumpMacros
