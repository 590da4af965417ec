import JumpMacros.Expansion
import JumpMacros.Proofs.LoweredTree
import JumpMacros.Proofs.Runs

/-!
# Three readings of a tree

`Dialect` is the semantics of statements with what differs between the trees left open, and
`Dialect.block` runs statements in it. There are three dialects:

* `labelled` reads a source tree. A macro call is a guarded jump, and a loop catches the jumps to
  the label that stands before it.
* `plain` reads an expanded tree, without labels. The flags are variables of their own, apart from
  the store.
* `tracked` stands between the two. It reads the tree that waits to be lowered: jumps are
  labelled, and each loop keeps a mark for the jumps that were made to it across other loops. A
  loop that has ended looks at the marks of the jumps that leave it, and goes on with the first
  that it finds.

A mark is cleared only when its loop starts anew (and that of `continue` with each round). So a
jump that is overridden on its way leaves a mark behind, and whether the mark still belongs to a
jump that is on its way is what the probes of `tracked` show.
-/

namespace JumpMacros

/-- The parts in which the semantics of trees differ. -/
structure Dialect (H : Host) where
  Hole : Type
  Env : Type
  /-- What is added to the store. -/
  Extra : Type
  Probe : Type
  /-- The addition at the start of a scope. -/
  fresh : Extra
  simple : Env → Span → Simple → H.Exec Extra Probe H.Signal
  hole : Env → Hole → H.Exec Extra Probe H.Signal
  test : Span → Expr → H.Exec Extra Probe (Except H.Error Bool)
  /-- What a statement puts on the one directly after it. -/
  label : Env → Stmt Hole → Option String
  enterLoop : Option String → Extra → Extra
  exitLoop : Extra → Extra
  /-- What comes before each round of a loop's body. -/
  round : Span → Option String → H.Exec Extra Probe Unit
  /-- What comes after a loop that its body has left or that has run through. -/
  afterLoop : Env → Span → Option String → List (Stmt Hole) → H.Signal →
    H.Exec Extra Probe H.Signal
  inLoop : Option String → Env → Env
  inFunction : FunctionHead → List (Stmt Hole) → Env → Env
  inClass : List (Stmt Hole) → Env → Env
  /-- The last part of a `try` statement whose other parts have ended with a signal. -/
  inFinal : H.Signal → Env → Env

namespace Dialect

open Host Run

variable {H : Host} (D : Dialect H)

/-! ## Running statements -/

mutual

/-- Runs a statement; a loop has the label that was put on it. -/
def stmt (env : D.Env) (label : Option String) :
    Stmt D.Hole → H.Exec D.Extra D.Probe H.Signal
  | .simple sp s => D.simple env sp s
  | .hole _ h => D.hole env h
  | .branch sp t b o => choose (D.test sp t) (block env none b) (block env none o)
  | .loop sp h b o => orRaise (act (begin h)) fun c => do
    adjust (D.enterLoop label)
    let ending ← rounds label (proceed h c) do
      D.round sp label
      block (D.inLoop label env) none b
    adjust D.exitLoop
    match ending with
    | some sig => D.afterLoop env sp label b sig
    | none => andNext (block env none o) (D.afterLoop env sp label b .normal)
  | .function _ h b => defining D.fresh h (block (D.inFunction h b env) none b)
  | .klass _ h b => Host.inClass D.fresh h (block (D.inClass b env) none b)
  | .withItems _ a is b => underManagers a (block env none b) is
  | .attempt _ star b hs o f =>
    withFinal (withHandlers star (block env none b) (handlers env hs) (block env none o)) fun sig =>
      block (D.inFinal sig env) none f
  | .select _ e cs => orRaise (act (H.eval e)) fun v => select v (cases env cs)

/-- Runs statements one after the other, the first of which has a label. -/
def block (env : D.Env) (label : Option String) :
    List (Stmt D.Hole) → H.Exec D.Extra D.Probe H.Signal
  | [] => pure .normal
  | s :: rest => andNext (stmt env label s) (block env (D.label env s) rest)

def handlers (env : D.Env) : List (Handler D.Hole) → List (Catch H D.Extra D.Probe)
  | [] => []
  | .mk _ t n b :: hs => ⟨t, n, block env none b⟩ :: handlers env hs

def cases (env : D.Env) : List (Case D.Hole) → List (Choice H D.Extra D.Probe)
  | [] => []
  | .mk p g b :: cs => ⟨p, g, block env none b⟩ :: cases env cs

end

/-- A body can run from a store to its end. -/
def Runs (env : D.Env) (body : List (Stmt D.Hole)) (s : H.Store) (es : List H.Event)
    (sig : H.Signal) (t : H.Store) : Prop :=
  ∃ x, D.block env none body (s, D.fresh) es (.done sig (t, x))

/-- A body can run from a store to a probe. -/
def Reaches (env : D.Env) (body : List (Stmt D.Hole)) (s : H.Store) (es : List H.Event)
    (p : D.Probe) : Prop :=
  D.block env none body (s, D.fresh) es (.stopped p)

end Dialect

/-! ## Source trees -/

namespace Host

variable {H : Host} {X P : Type}

/-- No run at all: what has no meaning. -/
def impossible {α : Type} : H.Exec X P α := fun _ _ _ => False

/-- Evaluates a predicate, and leaves if it is true. -/
def guarded (p : Expr) (transfer : H.Exec X P H.Signal) : H.Exec X P H.Signal :=
  choose (act (H.test p)) transfer (pure .normal)

/-- A jump to the loop that a label names. -/
def jumpTo (k : JumpKind) (l : Expr) : H.Exec X P H.Signal :=
  match Lower.labelOf? l with
  | some name => pure (.jumps (k, name))
  | none => impossible

/-- What a call of a macro means. -/
def invoke (i : Invocation) : H.Exec X P H.Signal :=
  match Macro.ofName? i.name, i.args with
  | some .breakIf, [p] => guarded p (pure .breaks)
  | some .breakIf, [p, l] => guarded p (jumpTo .breaks l)
  | some .continueIf, [p] => guarded p (pure .continues)
  | some .continueIf, [p, l] => guarded p (jumpTo .continues l)
  | some .returnIf, [p] => guarded p (pure (.returns H.nothing))
  | some .returnIf, [p, v] => guarded p (orRaise (act (H.eval v)) fun x => pure (.returns x))
  | some .label, [_] => pure .normal
  | _, _ => impossible

end Host

/-- The label that a call of a macro puts on the statement after it. -/
def Invocation.label? (i : Invocation) : Option String :=
  match Macro.ofName? i.name, i.args with
  | some .label, [l] => Lower.labelOf? l
  | _, _ => none

/-- **The labelled reading of source trees.** -/
abbrev labelled (H : Host) (package : String) : Dialect H where
  Hole := Empty
  Env := Env
  Extra := Unit
  Probe := Empty
  fresh := ()
  simple env sp s :=
    match (Stmt.simple sp s).invocation? env with
    | some i => Host.invoke i
    | none => Host.simple s
  hole _ h := nomatch h
  test _ e := Host.act (H.test e)
  label env s := (s.invocation? env).bind Invocation.label?
  enterLoop _ x := x
  exitLoop x := x
  round _ _ := pure ()
  afterLoop _ _ _ _ sig := pure sig
  inLoop _ env := env
  inFunction h b env := env.enterFunction package h b
  inClass b env := env.enterClass package b
  inFinal _ env := env

/-! ## Trees with placeholders -/

/-- What a loop remembers: the kinds of jumps that were made to it across other loops. -/
structure Mark where
  label : Option String
  breaks : Bool
  continues : Bool
deriving DecidableEq, Repr

namespace Mark

def ofLabel (label : Option String) : Mark := ⟨label, false, false⟩

def raised (m : Mark) : JumpKind → Bool
  | .breaks => m.breaks
  | .continues => m.continues

def raise (m : Mark) : JumpKind → Mark
  | .breaks => { m with breaks := true }
  | .continues => { m with continues := true }

/-- Marks the loop that a jump goes to. -/
def raiseIn (j : NamedJump) : List Mark → List Mark
  | [] => []
  | m :: ms => if m.label = some j.2 then m.raise j.1 :: ms else m :: raiseIn j ms

/-- Makes a jump: one to the innermost loop of all leaves no mark. -/
def jump (j : NamedJump) : List Mark → List Mark
  | [] => []
  | m :: ms => if m.label = some j.2 then m :: ms else m :: raiseIn j ms

/-- Whether the loop that a jump goes to is marked. -/
def isRaised (ms : List Mark) (j : NamedJump) : Bool :=
  match ms with
  | [] => false
  | m :: ms => if m.label = some j.2 then m.raised j.1 else isRaised ms j

/-- Starts a round of the innermost loop. -/
def startRound : List Mark → List Mark
  | [] => []
  | m :: ms => { m with continues := false } :: ms

/-- Whether the innermost loop is marked to be left. -/
def leftMark : List Mark → Bool
  | [] => false
  | m :: _ => m.breaks

end Mark

/-- A place where a mark is found: before a round of its loop, or after a loop that its jump
leaves. `arriving` says that this loop has just been left by the jump, and `pending` that the jump
waits for the last part of a `try` statement around. -/
structure MarkProbe where
  span : Span
  jump : NamedJump
  beforeRound : Bool
  arriving : Bool
  pending : Bool
deriving DecidableEq, Repr

/-- Whether the jump is still on its way. -/
def MarkProbe.unwinding (p : MarkProbe) : Bool := p.arriving || p.pending

namespace Tracked

open Host Run

variable {H : Host}

/-- Goes on with the first jump that leaves a loop and whose mark is found. -/
def check (pending : List NamedJump) (sp : Span) (carried : List NamedJump) (sig : H.Signal) :
    H.Exec (List Mark) MarkProbe H.Signal := do
  match ← inspect (fun ms => carried.find? (Mark.isRaised ms)) with
  | none => pure sig
  | some j =>
    mayStop ⟨sp, j, false, sig.isJump j, pending.contains j⟩
    pure (.jumps j)

/-- A loop that has ended in another way than by a check is not looked at. -/
def afterLoop (pending : List NamedJump) (sp : Span) (carried : List NamedJump) :
    H.Signal → H.Exec (List Mark) MarkProbe H.Signal
  | .normal => check pending sp carried .normal
  | .jumps j => check pending sp carried (.jumps j)
  | sig => pure sig

/-- A placeholder as a statement. -/
def hole : Placeholder → H.Exec (List Mark) MarkProbe H.Signal
  | .jump k l =>
    match Lower.labelOf? l with
    | some name => do
      adjust (Mark.jump (k, name))
      pure (.jumps (k, name))
    | none => impossible
  | .loopLabel _ => pure .normal

/-- Before a round the mark for `continue` is cleared; one for `break` should not be there. -/
def round (sp : Span) : Option String → H.Exec (List Mark) MarkProbe Unit
  | none => pure ()
  | some name => do
    adjust Mark.startRound
    if ← inspect Mark.leftMark then mayStop ⟨sp, (.breaks, name), true, false, false⟩

end Tracked

/-- **The reading of trees with placeholders that keeps marks.** -/
abbrev tracked (H : Host) : Dialect H where
  Hole := Placeholder
  Env := List NamedJump
  Extra := List Mark
  Probe := MarkProbe
  fresh := []
  simple _ _ s := Host.simple s
  hole _ h := Tracked.hole h
  test _ e := Host.act (H.test e)
  label _ s := Layer.labelFrom (some s)
  enterLoop label ms := Mark.ofLabel label :: ms
  exitLoop := List.tail
  round := Tracked.round
  afterLoop pending sp label b :=
    Tracked.afterLoop pending sp (leaving label (Stmt.blockJumps none b))
  inLoop label pending := leaving label pending
  inFunction _ _ _ := []
  inClass _ _ := []
  inFinal sig pending :=
    match sig with
    | .jumps j => j :: pending
    | _ => pending

/-! ## Expanded trees -/

/-- A place where a flag is found to be true: a test of it, or the start of a round of the loop
before which it is reset. -/
structure FlagProbe where
  span : Span
  flag : String
deriving DecidableEq, Repr

/-- The values of the flags. -/
abbrev Flags := String → Option Bool

namespace Plain

open Host Run

variable {H : Host} (users : List String)

/-- The flag that a simple statement sets, and its value. Names of the user are no flags. -/
def flagWrite? : Simple → Option (String × Bool)
  | .assign [.name _ x _] (.const _ (.bool v)) => if users.contains x then none else some (x, v)
  | _ => none

/-- The flag that an expression is. -/
def flagRead? : Expr → Option String
  | .name _ x _ => if users.contains x then none else some x
  | _ => none

def simple (s : Simple) : H.Exec Flags FlagProbe H.Signal :=
  match flagWrite? users s with
  | some (x, v) => do
    adjust fun φ => Function.update φ x (some v)
    pure .normal
  | none => Host.simple s

/-- A probe at a flag that is true. -/
def probe (sp : Span) (x : String) (v : Option Bool) : H.Exec Flags FlagProbe Unit :=
  if v = some true then mayStop ⟨sp, x⟩ else pure ()

def test (sp : Span) (e : Expr) : H.Exec Flags FlagProbe (Except H.Error Bool) :=
  match flagRead? users e with
  | some x => do
    let v ← inspect (· x)
    probe sp x v
    match v with
    | some b => pure (.ok b)
    | none => pure (.error (H.unbound x))
  | none => act (H.test e)

/-- Whether a name is that of a flag for `break`. -/
def isBreakFlag (flagPrefix x : String) : Bool :=
  (flagPrefix ++ "break_").toList.isPrefixOf x.toList

/-- The flag for `break` that a statement resets. -/
def label (flagPrefix : String) : Stmt Empty → Option String
  | .simple _ s =>
    match flagWrite? users s with
    | some (x, false) => if isBreakFlag flagPrefix x then some x else none
    | _ => none
  | _ => none

def round (sp : Span) : Option String → H.Exec Flags FlagProbe Unit
  | none => pure ()
  | some x => do
    let v ← inspect (· x)
    probe sp x v

end Plain

/-- **The reading of expanded trees**, in which all names but those of the user are flags. -/
abbrev plain (H : Host) (users : List String) (flagPrefix : String) : Dialect H where
  Hole := Empty
  Env := Unit
  Extra := Flags
  Probe := FlagProbe
  fresh _ := none
  simple _ _ s := Plain.simple users s
  hole _ h := nomatch h
  test := Plain.test users
  label _ s := Plain.label users flagPrefix s
  enterLoop _ φ := φ
  exitLoop φ := φ
  round := Plain.round
  afterLoop _ _ _ _ sig := pure sig
  inLoop _ env := env
  inFunction _ _ env := env
  inClass _ env := env
  inFinal _ env := env

end JumpMacros
