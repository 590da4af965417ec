import JumpMacros.Scope

/-!
# Free variables

The names a function reads without binding them, and which of those belong to a function around
it. A class body is no such function: its names are invisible to the functions in it, but it
provides `__class__`, which a function reads when it mentions `super`.
-/

namespace JumpMacros

/-- A name that is read, and whether it is read in a scope nested in the one at hand. -/
structure NameRead where
  name : String
  isNested : Bool
deriving DecidableEq, Repr

namespace Closure

/-- The names a node declares as global. -/
def globalsOf : Node Empty → List String
  | .stmt (.simple _ (.globals ns)) => ns
  | _ => []

/-- The names a node declares to belong to a function around. -/
def nonlocalsOf : Node Empty → List String
  | .stmt (.simple _ (.nonlocals ns)) => ns
  | _ => []

/-- The names that a body declares as global. -/
def globalNames (body : List (Stmt Empty)) : List String :=
  (Node.scopeNodes body).flatMap globalsOf

/-- The names that a body declares to belong to a function around. -/
def nonlocalNames (body : List (Stmt Empty)) : List String :=
  (Node.scopeNodes body).flatMap nonlocalsOf

/-- The names assigned inside of expressions, those of comprehensions included. -/
def namedTargets (body : List (Stmt Empty)) : List String :=
  let isFunction : Node Empty → Bool
    | .stmt (.function _ _ _) | .stmt (.klass _ _ _) | .expr (.lambda _ _ _) => true
    | _ => false
  (Node.walk (fun n => !isFunction n) (Node.ofStmts body)).flatMap fun
    | .expr (.named _ (.name _ id _) _) => [id]
    | _ => []

/-- The names that a body binds in its own scope. -/
def ownNames (body : List (Stmt Empty)) : List String :=
  let elsewhere := globalNames body ++ nonlocalNames body
  (boundNames (scopeBindings "" body) ++ namedTargets body).filter fun n => !elsewhere.contains n

/-- The names that expressions bind as targets. -/
def targetNames (es : List Expr) : List String :=
  (Node.all (Node.ofExprs es : List (Node Empty))).flatMap fun
    | .expr (.name _ id use) => if use.binds then [id] else []
    | _ => []

/-- The names a node reads, outer scopes' names in nested scopes included. The second argument is
at least the weight of the node. -/
def reads (textNotes : Bool) : Nat → Node Empty → List NameRead
  | 0, _ => []
  | fuel + 1, n =>
    let all (ns : List (Node Empty)) : List NameRead := ns.flatMap (reads textNotes fuel)
    let nested (own : List String) (ns : List (Node Empty)) : List NameRead :=
      ((all ns).filter fun r => !own.contains r.name).map fun r => ⟨r.name, true⟩
    let comprehension (es : List Expr) (cs : List Clause) : List NameRead :=
      match cs with
      | [] => all (Node.ofExprs es)
      | .mk _ t i conds :: rest =>
        let targets := targetNames (t :: rest.flatMap Clause.exprs)
        all [.expr i] ++
          nested targets (Node.ofExprs (es ++ t :: conds ++ rest.flatMap Clause.exprs))
    match n with
    | .expr (.name _ id use) =>
      if use.binds then []
      else if id == "super" then [⟨id, false⟩, ⟨"__class__", false⟩]
      else [⟨id, false⟩]
    | .expr (.lambda _ ps b) => all (Node.ofExprs ps.exprs) ++ nested ps.names [.expr b]
    | .expr (.comprehension _ _ e cs) => comprehension [e] cs
    | .expr (.dictComprehension _ k v cs) => comprehension [k, v] cs
    | .stmt (.function _ h b) =>
      all (Node.ofExprs (h.outerExprs textNotes)) ++
        (nonlocalNames b).map (fun n => ⟨n, true⟩) ++
        nested (h.params.names ++ ownNames b ++ globalNames b) (Node.ofStmts b)
    | .stmt (.klass _ h b) =>
      let own := ownNames b ++ globalNames b
      let inside := (all (Node.ofStmts b)).filter fun r =>
        (r.isNested || !own.contains r.name) && r.name != "__class__"
      all (Node.ofExprs h.exprs) ++ inside.map fun r => ⟨r.name, true⟩
    | .stmt (.simple _ (.annotated t note v _)) =>
      all (Node.ofExprs (t :: (if textNotes then [] else [note]) ++ v.toList))
    | _ => all n.children

/-- The names a list of nodes reads. -/
def readNames (textNotes : Bool) (ns : List (Node Empty)) : List String :=
  (ns.flatMap fun n => reads textNotes n.weight n).map (·.name)

/-- The free variables of a function, in order. `visible` lists, for the scopes around it, the
names that are visible to it; `textNotes` tells that annotations are kept as texts. -/
def freeVariables (textNotes : Bool) (visible : List (List String)) (params : List String)
    (body : List (Stmt Empty)) : List String :=
  let own := params ++ ownNames body ++ globalNames body
  let free := (readNames textNotes (Node.ofStmts body)).filter fun n => !own.contains n
  let found := (nonlocalNames body ++ free).filter fun n => visible.any (·.contains n)
  Settings.dedup (found.mergeSort fun a b => decide (a ≤ b))

/-- The free variables of a lambda, in order. -/
def lambdaVariables (visible : List (List String)) (params : List String) (body : Expr) :
    List String :=
  let free := (readNames false [.expr body]).filter fun n => !params.contains n
  let found := free.filter fun n => visible.any (·.contains n)
  Settings.dedup (found.mergeSort fun a b => decide (a ≤ b))

end Closure

end JumpMacros
