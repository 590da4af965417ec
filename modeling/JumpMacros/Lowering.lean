import JumpMacros.Flag
import JumpMacros.Tree.Writable

/-!
# Lowering labels

A jump to the innermost loop becomes a plain `break` or `continue`. A jump across loops sets a
flag and breaks; each loop it leaves on its way is followed by a check of the flag that goes on
leaving, and the check next to the target loop's own body does what was asked for:

```
_flow_break_outer = False
for a in xs:
    for b in ys:
        if p:
            _flow_break_outer = True
            break
    if _flow_break_outer:
        break
```

A flag for `break` is reset before its target loop, one for `continue` first in its body.
-/

namespace JumpMacros

/-- A check after a loop: the flag, and what is done if it is set. -/
abbrev Exit := String × JumpKind

/-- A loop around the current statement: its label, the flags allocated for jumps to it, and the
checks to be put after it. -/
structure Frame where
  label : Option String
  breakFlag : Option String
  continueFlag : Option String
  exits : List Exit
deriving DecidableEq, Repr

namespace Frame

def ofLabel (l : Option String) : Frame := ⟨l, none, none, []⟩

def flag (f : Frame) : JumpKind → Option String
  | .breaks => f.breakFlag
  | .continues => f.continueFlag

def setFlag (f : Frame) (name : String) : JumpKind → Frame
  | .breaks => { f with breakFlag := some name }
  | .continues => { f with continueFlag := some name }

/-- Adds a check, unless it is there already. -/
def addExit (f : Frame) (e : Exit) : Frame :=
  if f.exits.contains e then f else { f with exits := f.exits ++ [e] }

end Frame

/-- What lowering carries along: the loops around the current statement, innermost first; the
names taken; the diagnostics so far; and why a label could not be shown in one. -/
structure LowerState where
  frames : List Frame
  taken : List String
  diagnostics : List Diagnostic
  unwritable : Option Unwritable

abbrev Lower := StateM LowerState

/-- What lowering is told: the file for diagnostics, and how the names of flags begin. -/
structure LowerContext where
  file : Option String
  flagPrefix : String

namespace Lower

def report (ctx : LowerContext) (span : Span) (c : Cause) : Lower Unit :=
  modify fun s => { s with
    diagnostics := s.diagnostics ++ [.located c ctx.file span.start] }

/-- The name that a label spells: a name, or a string that is an identifier. -/
def labelOf? : Expr → Option String
  | .name _ id _ => some id
  | .const _ (.str v _) => v.toString?.filter Text.isIdentifier
  | _ => none

/-- The name of a label; a label that spells none is reported. -/
def labelName (ctx : LowerContext) (span : Span) (label : Expr) : Lower (Option String) := do
  match labelOf? label with
  | some n => return some n
  | none =>
    match label.written with
    | .ok t => report ctx span (.invalidLabel t)
    | .error u => modify fun s => { s with unwritable := s.unwritable <|> some u }
    return none

/-! ## Made statements -/

/-- A statement that lowering makes. A node to which no location was copied has none; the names
and the constant below a statement never get one of their own. -/
inductive Made where
  | jump (place : Option Span) (kind : JumpKind)
  | assign (place : Option Span) (flag : String) (value : Bool)
  | test (place : Option Span) (flag : String) (transfer : Made)

namespace Made

/-- Copies a location to a statement, but not to what is inside of it. -/
def copyLocation (sp : Span) : Made → Made
  | .jump _ k => .jump (some sp) k
  | .assign _ x v => .assign (some sp) x v
  | .test _ x t => .test (some sp) x t

/-- Fills in the missing locations: a node without one takes that of the node around it. -/
def fill (around : Span) : Made → Stmt Empty
  | .jump place .breaks => .simple (place.getD around) .breaks
  | .jump place .continues => .simple (place.getD around) .continues
  | .assign place x v =>
    let sp := place.getD around
    .simple sp (.assign [.name sp.start x .store] (.const sp.start (.bool v)))
  | .test place x t =>
    let sp := place.getD around
    .branch sp (.name sp.start x .load) [t.fill sp] []

/-- A made statement in the finished tree. Locations are filled in from the module down, but what
is around does not matter to a statement with a location (`fill_copyLocation`). -/
def placed (sp : Span) (x : Made) : Stmt Empty := (x.copyLocation sp).fill Span.ofModule

/-- **A location is inherited from the statement that it was copied to.** -/
theorem fill_copyLocation (x : Made) (sp around : Span) :
    (x.copyLocation sp).fill around = x.placed sp := by
  cases x with
  | jump p k => cases k <;> rfl
  | assign p f v => rfl
  | test p f t => rfl

section

variable (place : Option Span) (sp : Span)

@[simp] theorem placed_breaks : (jump place .breaks).placed sp = .simple sp .breaks := rfl

@[simp] theorem placed_continues : (jump place .continues).placed sp = .simple sp .continues := rfl

@[simp] theorem placed_assign (x : String) (v : Bool) : (assign place x v).placed sp =
    .simple sp (.assign [.name sp.start x .store] (.const sp.start (.bool v))) := rfl

end

end Made

/-- A plain jump. -/
def plainJump (span : Span) (kind : JumpKind) : Stmt Empty := (Made.jump none kind).placed span

/-- An assignment to a flag. -/
def setFlag (span : Span) (flag : String) (value : Bool) : Stmt Empty :=
  (Made.assign none flag value).placed span

/-- A check of a flag, with the jump that is made if it is set. -/
def check (span : Span) (e : Exit) : Stmt Empty :=
  (Made.test none e.1 (.jump none e.2)).placed span

theorem setFlag_eq (sp : Span) (flag : String) (value : Bool) : setFlag sp flag value =
    .simple sp (.assign [.name sp.start flag .store] (.const sp.start (.bool value))) := rfl

/-- The name and the jump in a check inherit its location. -/
theorem check_eq (sp : Span) (e : Exit) :
    check sp e = .branch sp (.name sp.start e.1 .load) [plainJump sp e.2] [] := by
  obtain ⟨x, k⟩ := e
  cases k <;> rfl

/-! ## Jumps -/

/-- The checks that a jump with a flag needs on the loops inside its target, innermost first: the
outermost of them does what was asked for, the others leave. -/
def addExits (flag : String) (kind : JumpKind) : List Frame → List Frame
  | [] => []
  | [f] => [f.addExit (flag, kind)]
  | f :: fs => f.addExit (flag, .breaks) :: addExits flag kind fs

/-- The flag of a frame for a kind of jump, allocated if it has none yet. -/
def flagFor (ctx : LowerContext) (kind : JumpKind) (label : String) (f : Frame)
    (taken : List String) : String × Frame × List String :=
  match f.flag kind with
  | some name => (name, f, taken)
  | none =>
    let (name, taken) := allocate ctx.flagPrefix taken kind.name label
    (name, f.setFlag name kind, taken)

/-- Lowers a jump to a label. -/
def jump (ctx : LowerContext) (span : Span) (kind : JumpKind) (label : Expr) :
    Lower (List (Stmt Empty)) := do
  match ← labelName ctx span label with
  | none => return [plainJump span kind]
  | some name =>
    let s ← get
    let inner := s.frames.takeWhile fun f => f.label != some name
    match s.frames.dropWhile fun f => f.label != some name with
    | [] =>
      report ctx span (.unknownLabel name)
      return [plainJump span kind]
    | target :: outer =>
      if inner.isEmpty then return [plainJump span kind]
      let (flag, target, taken) := flagFor ctx kind name target s.taken
      set { s with frames := addExits flag kind inner ++ target :: outer, taken := taken }
      return [setFlag span flag true, .simple span .breaks]

/-- The label that a statement puts on the loop after it. -/
def loopLabel? : Stmt Placeholder → Option (Span × Expr)
  | .hole sp (.loopLabel l) => some (sp, l)
  | _ => none

/-- Runs a part with its own loops around it. -/
def withFrames {α : Type} (frames : List Frame) (part : Lower α) : Lower α := do
  let outer := (← get).frames
  modify fun s => { s with frames := frames }
  let a ← part
  modify fun s => { s with frames := outer }
  return a

/-- Runs a part inside one more loop and gives the loop's frame afterwards. -/
def insideLoop {α : Type} (label : Option String) (part : Lower α) : Lower (α × Frame) := do
  modify fun s => { s with frames := Frame.ofLabel label :: s.frames }
  let a ← part
  let s ← get
  set { s with frames := s.frames.drop 1 }
  return (a, s.frames.headD (Frame.ofLabel label))

/-- A lowered loop with what its frame asks for: resets of its flags and checks after it. -/
def assemble (span : Span) (head : LoopHead) (body orelse : List (Stmt Empty)) (f : Frame) :
    List (Stmt Empty) :=
  let body := match f.continueFlag with
    | some flag => setFlag span flag false :: body
    | none => body
  let reset := match f.breakFlag with
    | some flag => [setFlag span flag false]
    | none => []
  reset ++ .loop span head body orelse :: f.exits.map (check span)

mutual

/-- Lowers a statement; a loop takes the label that stood before it. -/
def stmt (ctx : LowerContext) (label : Option String) :
    Stmt Placeholder → Lower (List (Stmt Empty))
  | .simple sp s => return [.simple sp s]
  | .hole sp (.jump k l) => jump ctx sp k l
  | .hole _ (.loopLabel _) => return []
  | .branch sp t b o => do
    let b ← block ctx none b
    let o ← block ctx none o
    return [.branch sp t b o]
  | .loop sp h b o => do
    let (b, f) ← insideLoop label (block ctx none b)
    let o ← block ctx none o
    return assemble sp h b o f
  | .function sp h b => do
    let b ← withFrames [] (block ctx none b)
    return [.function sp h b]
  | .klass sp h b => do
    let b ← withFrames [] (block ctx none b)
    return [.klass sp h b]
  | .withItems sp a is b => do
    let b ← block ctx none b
    return [.withItems sp a is b]
  | .attempt sp star b hs o f => do
    let b ← block ctx none b
    let hs ← handlers ctx hs
    let o ← block ctx none o
    let f ← block ctx none f
    return [.attempt sp star b hs o f]
  | .select sp e cs => do
    let cs ← cases ctx cs
    return [.select sp e cs]

/-- Lowers statements one after the other; `label` is what the statement before them put on the
first. A label must stand directly before a loop. -/
def block (ctx : LowerContext) (label : Option String) :
    List (Stmt Placeholder) → Lower (List (Stmt Empty))
  | [] => return []
  | s :: rest =>
    match loopLabel? s with
    | some (sp, l) => do
      let name ← labelName ctx sp l
      if !((rest.head?.map Stmt.isLoop).getD false) then report ctx sp .labelWithoutLoop
      block ctx name rest
    | none => do
      let out ← stmt ctx label s
      let more ← block ctx none rest
      return out ++ more

def handlers (ctx : LowerContext) : List (Handler Placeholder) → Lower (List (Handler Empty))
  | [] => return []
  | .mk p t n b :: hs => do
    let b ← block ctx none b
    let hs ← handlers ctx hs
    return .mk p t n b :: hs

def cases (ctx : LowerContext) : List (Case Placeholder) → Lower (List (Case Empty))
  | [] => return []
  | .mk p g b :: cs => do
    let b ← block ctx none b
    let cs ← cases ctx cs
    return .mk p g b :: cs

end

end Lower

/-- A lowered module with the diagnostics found on the way; the module is of use only if there
are none. -/
structure Lowered where
  module : Module Empty
  diagnostics : List Diagnostic
  unwritable : Option Unwritable

/-- Lowers the labels of a module. -/
def Module.lower (s : Settings) (file : Option String) (m : Module Placeholder) : Lowered :=
  let start : LowerState := ⟨[], namesIn m.body, [], none⟩
  let (body, stop) := (Lower.block ⟨file, s.flagPrefix⟩ none m.body).run start
  ⟨⟨body⟩, stop.diagnostics, stop.unwritable⟩

end JumpMacros
