import JumpMacros.Proofs.CallVisits
import JumpMacros.Proofs.KnownMacros
import JumpMacros.Proofs.ShrunkScopes
import Mathlib

/-!
# The stack of scopes

Calls are found by one traversal of the tree that keeps the tables of the scopes around on a stack.
`Expander` is the state of the traversal: the work ahead, the stack, and the calls found so far.
`Expander.step` does the first item of the work. A function, a class or a lambda pushes a table
before its body is visited and drops it afterwards; a call of a macro that is a statement is
expanded by the rules of the macro after its arguments have been visited. Three things can go wrong:
a lookup or a drop without a scope, and a macro without rules.

`Env` is what the stack shows (`ScopeStack.env_push`).
-/

namespace JumpMacros

open Node (ofExprs ofStmts)

/-! ## The stack -/

/-- What has names of its own: the body of a function, of a class or of a lambda. -/
inductive Body where
  | function (head : FunctionHead) (body : List (Stmt Empty))
  | klass (body : List (Stmt Empty))
  | lambda (params : Params) (body : Expr)

/-- The nodes of a body. -/
def Body.roots : Body → List (Node Empty)
  | .function _ b | .klass b => ofStmts b
  | .lambda _ e => [.expr e]

/-- The names visible in a body. -/
def Env.enter (package : String) (env : Env) : Body → Env
  | .function h b => env.enterFunction package h b
  | .klass b => env.enterClass package b
  | .lambda ps _ => env.enterLambda ps

/-- The tables of the scopes around, innermost first, each with whether it is that of a class. -/
abbrev ScopeStack := List (Table × Bool)

namespace ScopeStack

/-- What nested functions see: bodies of classes are passed over. -/
def enclosing : ScopeStack → Table
  | [] => []
  | (t, false) :: _ => t
  | (_, true) :: rest => enclosing rest

/-- Puts the table of a body onto the stack. -/
def push (package : String) (st : ScopeStack) : Body → ScopeStack
  | .function h b => (scopeTable package b st.enclosing h.params.names, false) :: st
  | .klass b => (scopeTable package b st.enclosing [], true) :: st
  | .lambda ps _ => (st.enclosing.without ps.names, false) :: st

/-- What a callee denotes in the innermost scope. There has to be one if the callee is a name. -/
def lookup? : ScopeStack → Option String → Option (Option String)
  | _, none => some none
  | [], some _ => none
  | (t, _) :: _, some spelling => some (t.lookup spelling)

/-- The names that a stack shows. -/
def env (st : ScopeStack) : Env := ⟨(st.head?.map Prod.fst).getD [], st.enclosing⟩

/-- All tables hold macros only. -/
def Known (st : ScopeStack) : Prop := ∀ e ∈ st, e.1.Known

variable {st : ScopeStack} {package : String}

theorem env_push (b : Body) : (push package st b).env = st.env.enter package b := by
  cases b <;> rfl

theorem length_push (b : Body) : (push package st b).length = st.length + 1 := by
  cases b <;> rfl

theorem tail_push (b : Body) : (push package st b).tail = st := by
  cases b <;> rfl

theorem suffix_push (b : Body) : st <:+ push package st b := by
  cases b <;> exact List.suffix_cons _ st

theorem lookup?_eq_some (h : st ≠ []) (spelling : Option String) :
    st.lookup? spelling = some (st.env.resolve spelling) := by
  obtain ⟨e, st, rfl⟩ := List.exists_cons_of_ne_nil h
  cases spelling <;> rfl

theorem Known.enclosing (h : st.Known) : st.enclosing.Known := by
  fun_induction ScopeStack.enclosing st with
  | case1 => exact List.forall_mem_nil _
  | case2 t rest => exact h _ List.mem_cons_self
  | case3 t rest ih => exact ih fun e he => h e (List.mem_cons_of_mem _ he)

theorem Known.push (h : st.Known) (b : Body) : (push package st b).Known := by
  cases b with
  | function hd b => exact List.forall_mem_cons.2 ⟨known_scopeTable package h.enclosing b _, h⟩
  | klass b => exact List.forall_mem_cons.2 ⟨known_scopeTable package h.enclosing b _, h⟩
  | lambda ps b => exact List.forall_mem_cons.2 ⟨h.enclosing.without _, h⟩

theorem Known.resolve (h : st.Known) {spelling : Option String} {name : String}
    (hr : st.env.resolve spelling = some name) : name ∈ Macro.names := by
  obtain ⟨x, -, hl⟩ := Option.bind_eq_some_iff.1 hr
  cases st with
  | nil => cases hl
  | cons e st => exact (h e List.mem_cons_self).lookup hl

end ScopeStack

/-! ## The traversal -/

/-- What the traversal has to do: visit a node, visit a body in a scope of its own, drop the
innermost scope, or expand an invocation. -/
inductive WorkItem where
  | visit (n : Node Empty)
  | enter (b : Body)
  | drop
  | expand (i : Invocation)

namespace WorkItem

def visits (ns : List (Node Empty)) : List WorkItem := ns.map .visit

def isDrop : WorkItem → Bool
  | .drop => true
  | _ => false

theorem isDrop_of_mem_visits {ns : List (Node Empty)} : ∀ t ∈ visits ns, t.isDrop = false :=
  List.forall_mem_map.2 fun _ _ => rfl

theorem expand_notMem_visits {ns : List (Node Empty)} {i : Invocation} :
    .expand i ∉ visits ns := by
  simp [visits]

end WorkItem

open WorkItem (visits)

/-- What is to be done for a node that is no call. -/
def Node.work : Node Empty → List WorkItem
  | .stmt (.function _ h b) => visits (ofExprs h.exprs) ++ [.enter (.function h b)]
  | .stmt (.klass _ h b) => visits (ofExprs h.exprs) ++ [.enter (.klass b)]
  | .expr (.lambda _ ps b) => visits (ofExprs ps.exprs) ++ [.enter (.lambda ps b)]
  | n => visits n.children

/-- Work that is left by a visit drops no scope and expands nothing. -/
theorem Node.mem_work {n : Node Empty} : ∀ t ∈ n.work, t.isDrop = false ∧ ∀ i, t ≠ .expand i := by
  have hvisits (ns : List (Node Empty)) : ∀ t ∈ visits ns, t.isDrop = false ∧ ∀ i, t ≠ .expand i :=
    List.forall_mem_map.2 fun _ _ => ⟨rfl, nofun⟩
  have hboth (ns : List (Node Empty)) (b : Body) :
      ∀ t ∈ visits ns ++ [.enter b], t.isDrop = false ∧ ∀ i, t ≠ .expand i := by
    intro t ht
    rcases List.mem_append.1 ht with ht | ht
    · exact hvisits ns t ht
    · rw [List.mem_singleton.1 ht]
      simp [WorkItem.isDrop]
  unfold work
  split
  · exact hboth _ _
  · exact hboth _ _
  · exact hboth _ _
  · exact hvisits _

/-- The state of the traversal. -/
structure Expander where
  todo : List WorkItem
  scopes : ScopeStack
  invocations : List Invocation
  misplaced : List MisplacedCall

namespace Expander

/-- The state before the traversal of a module. -/
def start (s : Settings) (m : Module Empty) : Expander :=
  ⟨visits (ofStmts m.body), [(moduleTable s m, false)], [], []⟩

/-- Does the first item of the work. There is no next state if there is none, or if something goes
wrong. -/
def step (package : String) : Expander → Option Expander
  | ⟨[], _, _, _⟩ => none
  | ⟨.visit (.stmt (.simple sp (.expr (.call p f as ks)))) :: rest, st, is, cs⟩ =>
    (st.lookup? f.dotted).map fun
      | some name =>
        let args := as ++ ks.map Keyword.value
        ⟨visits (ofExprs args) ++ .expand ⟨name, as, ks, some sp⟩ :: rest, st, is, cs⟩
      | none => ⟨.visit (.expr (.call p f as ks)) :: rest, st, is, cs⟩
  | ⟨.visit (.expr (.call p f as ks)) :: rest, st, is, cs⟩ =>
    (st.lookup? f.dotted).map fun found =>
      let parts := f :: as ++ ks.map Keyword.value
      ⟨visits (ofExprs parts) ++ rest, st, is, cs ++ found.toList.map fun name => ⟨name, p⟩⟩
  | ⟨.visit n :: rest, st, is, cs⟩ => some ⟨n.work ++ rest, st, is, cs⟩
  | ⟨.enter b :: rest, st, is, cs⟩ =>
    some ⟨visits b.roots ++ .drop :: rest, st.push package b, is, cs⟩
  | ⟨.drop :: _, [], _, _⟩ => none
  | ⟨.drop :: rest, _ :: st, is, cs⟩ => some ⟨rest, st, is, cs⟩
  | ⟨.expand i :: rest, st, is, cs⟩ =>
    (Macro.ofName? i.name).map fun _ => ⟨rest, st, is ++ [i], cs⟩

/-- A state that the traversal comes to from another one. -/
def Reaches (package : String) : Expander → Expander → Prop :=
  Relation.ReflTransGen fun w w' => w.step package = some w'

end Expander

end JumpMacros
