import JumpMacros.Namespace
import JumpMacros.Proofs.TableLookups

/-!
# A module's own table and the table of its namespace

**Theorem (`lookup_withNamespace_iff`).** A function that is expanded in the namespace of a module
resolves a spelling as the module itself does exactly under the conditions of
`GlobalBinding.AgreesOn`: if the spelling comes from an import, no configured implicit name gives it
to a macro that is later in the order of names; if it comes from an import of a module in the
package, which the module's own table does not take note of, a configured implicit name gives it to
the same macro or a later one; if its root is bound to something else, neither a configured implicit
name nor the value of the root gives it to any macro.

The two tables are computed in different ways. The module's table is read off its statements: an
implicit name is replaced by an import, and hidden by any other binding. The namespace is folded
into the implicit names, macro by macro, and of several macros that claim a spelling the last in the
order of names has it (`lookup_implicitTable`), whether it was configured or imported.
-/

namespace JumpMacros

open Text (rootOf)
open Node (ofStmts)

/-! ## Names of a namespace as implicit names -/

theorem exists_addName {names : List (String × List String)} {n x m sp : String} :
    (∃ sps, (m, sps) ∈ Settings.addName names n x ∧ sp ∈ sps) ↔
      (∃ sps, (m, sps) ∈ names ∧ sp ∈ sps) ∨ (sp, m) = (x, n) := by
  induction names with
  | nil => simp [Settings.addName, and_comm]
  | cons e names ih =>
    obtain ⟨m', sps'⟩ := e
    have hcons (rest : List (String × List String)) (ss : List String) :
        (∃ sps, (m, sps) ∈ (m', ss) :: rest ∧ sp ∈ sps) ↔
          m = m' ∧ sp ∈ ss ∨ ∃ sps, (m, sps) ∈ rest ∧ sp ∈ sps := by
      simp only [List.mem_cons, Prod.mk.injEq, or_and_right, exists_or, and_assoc]
      simp
    unfold Settings.addName
    by_cases h : m' = n
    · subst h
      rw [if_pos (by simp), hcons, hcons, List.mem_append, List.mem_singleton, Prod.mk.injEq,
        and_or_left, or_right_comm, and_comm (b := sp = x)]
    · rw [if_neg (by simpa using h), hcons, hcons, ih, or_assoc]

/-- Under the settings for a namespace a macro is listed with the spellings that it has in the
namespace, too. -/
theorem lists_withNamespace {s : Settings} {ns : List (String × Bound)} {m sp : String} :
    (s.withNamespace ns).Lists m sp ↔ s.Lists m sp ∨ (sp, m) ∈ namespaceTable s.package ns := by
  have hfold (es : List (String × String)) : ∀ names : List (String × List String),
      (∃ sps, (m, sps) ∈ es.foldl (fun names e => Settings.addName names e.2 e.1) names ∧
        sp ∈ sps) ↔ (∃ sps, (m, sps) ∈ names ∧ sp ∈ sps) ∨ (sp, m) ∈ es := by
    induction es with
    | nil => simp
    | cons e es ih =>
      intro names
      rw [List.foldl_cons, ih, exists_addName, or_assoc, List.mem_cons]
  refine (hfold _ _).trans (or_congr Iff.rfl ?_)
  exact (List.mergeSort_perm _ _).mem_iff

/-! ## Statements that bind names -/

/-- A statement of a module that binds one name, with what the name is bound to when the module has
run: an import of a macro, of the package, of a module in the package, which binds the name of the
package, or anything else. -/
inductive GlobalBinding where
  | macroImport (span : Span) (pos : Position) (macroName : Macro) (asName : Option String)
  | packageImport (span : Span) (pos : Position) (asName : Option String)
  | submoduleImport (span : Span) (pos : Position) (path : String)
  | other (stmt : Stmt Empty) (name : String) (value : Bound)

namespace GlobalBinding

/-- The statement. -/
def stmt (package : String) : GlobalBinding → Stmt Empty
  | .macroImport sp p m as => .simple sp (.importsFrom (some package) [⟨p, m.name, as⟩] 0)
  | .packageImport sp p as => .simple sp (.imports [⟨p, package, as⟩])
  | .submoduleImport sp p path => .simple sp (.imports [⟨p, package ++ "." ++ path, none⟩])
  | .other st _ _ => st

/-- The name that is bound. -/
def name (package : String) : GlobalBinding → String
  | .macroImport _ _ m as => as.getD m.name
  | .packageImport _ _ as => as.getD package
  | .submoduleImport _ _ _ => package
  | .other _ n _ => n

/-- What the name is bound to. -/
def value (package : String) : GlobalBinding → Bound
  | .macroImport _ _ m _ => .callable (some m.name)
  | .packageImport _ _ _ => .module package
  | .submoduleImport _ _ _ => .module package
  | .other _ _ v => v

/-- The spellings that the binding gives to macros. -/
def spellings (package : String) (g : GlobalBinding) : List (String × String) :=
  (g.value package).spellings package (g.name package)

/-- The statement binds the name and no other, and the name has no full stop. Where it is no import,
the scan finds that the name is bound, once or more often, and it may find imports by that name. -/
structure Proper (package : String) (g : GlobalBinding) : Prop where
  plain : rootOf (g.name package) = g.name package
  binds : ∀ st n v, g = .other st n v →
    .binds n ∈ scopeBindings package [st] ∧ ∀ b ∈ scopeBindings package [st], b.root = n

/-- Both tables read a spelling whose root is bound here in the same way. One that an import gives
to a macro is not configured for a macro that comes later in the order of names. The scan does not
see that importing a module of the package binds the name of the package, so a spelling with that
name is configured for the macro or a later one. A name that is bound to anything else has no
configured spellings, and its value gives none. -/
def AgreesOn (s : Settings) (sp : String) : GlobalBinding → Prop
  | .submoduleImport i p path =>
    ∀ m, (sp, m) ∈ (GlobalBinding.submoduleImport i p path).spellings s.package →
      ∃ m', s.Lists m' sp ∧ m ≤ m'
  | .other st n v => (∀ m, ¬ s.Lists m sp) ∧
      ∀ m, (sp, m) ∉ (GlobalBinding.other st n v).spellings s.package
  | g => ∀ m, (sp, m) ∈ g.spellings s.package → ∀ m', s.Lists m' sp → m' ≤ m

/-- The spellings that the scan takes from the imports of a statement. -/
def imported (package : String) : GlobalBinding → List (String × String)
  | .submoduleImport _ _ _ => []
  | .other _ _ _ => []
  | g => g.spellings package

/-- The name that a statement binds to something else than macros. -/
def rebound? : GlobalBinding → Option String
  | .other _ n _ => some n
  | _ => none

variable {package : String} {g : GlobalBinding}

/-- All spellings that a value gives have its name for their root. -/
theorem root_of_mem_spellings (h : g.Proper package) {e : String × String}
    (he : e ∈ g.spellings package) : rootOf e.1 = g.name package := by
  unfold spellings Bound.spellings at he
  split at he
  · rw [List.mem_singleton] at he
    rw [he]
    exact h.plain
  · split at he
    · obtain ⟨m, -, rfl⟩ := List.mem_map.1 he
      exact (rootOf_append _ m).trans h.plain
    · cases he
  · cases he

theorem name_of_rebound {x : String} (h : g.rebound? = some x) : g.name package = x := by
  cases g with
  | other st n v => exact Option.some.inj h
  | _ => cases h

theorem nodup_spellings (package : String) (g : GlobalBinding) :
    ((g.spellings package).map Prod.fst).Nodup := by
  unfold spellings Bound.spellings
  split
  · exact List.nodup_singleton _
  · split
    · rw [List.map_map]
      refine List.Nodup.map (fun a b hab => ?_) (by decide)
      exact (String.append_right_inj _).1 hab
    · exact List.nodup_nil
  · exact List.nodup_nil

theorem mem_spellings_of_mem_imported {e : String × String} (he : e ∈ g.imported package) :
    e ∈ g.spellings package := by
  cases g with
  | submoduleImport => cases he
  | other => cases he
  | _ => exact he

theorem nodup_imported (package : String) (g : GlobalBinding) :
    ((g.imported package).map Prod.fst).Nodup := by
  cases g with
  | submoduleImport => exact List.nodup_nil
  | other => exact List.nodup_nil
  | _ => exact nodup_spellings package _

/-- What the scan of a scope finds in an import. -/
theorem scopeBindings_import (h : g.rebound? = none) : scopeBindings package [g.stmt package] =
    (g.imported package).map fun e => .denotes e.1 e.2 := by
  cases g with
  | other => cases h
  | macroImport sp p m as =>
    have hm : m.name ≠ "*" := by cases m <;> decide
    have hmem : m.name ∈ Macro.names := by cases m <;> decide
    rw [scopeBindings_eq, ofStmts, List.map_singleton, bindingsIn_singleton]
    simp [stmt, imported, spellings, value, name, Bound.spellings, Node.bindings,
      importFromBindings, hm, hmem, Alias.bound, Node.opensScope, Node.children, Node.ofStmt,
      Simple.exprs, bindingsIn_ofExprs_nil]
  | packageImport sp p as =>
    rw [scopeBindings_eq, ofStmts, List.map_singleton, bindingsIn_singleton]
    simp [stmt, imported, spellings, value, name, Bound.spellings, Node.bindings,
      importBindings, Alias.bound, Node.opensScope, Node.children, Node.ofStmt, Simple.exprs,
      bindingsIn_ofExprs_nil]
  | submoduleImport sp p path =>
    have hne : package ++ "." ++ path ≠ package := by
      intro heq
      have hlength := congrArg String.length heq
      have hdot : ".".length = 1 := by decide
      rw [String.length_append, String.length_append, hdot] at hlength
      omega
    have hpre : (package ++ "." ++ path).startsWith (package ++ ".") = true := by simp
    rw [scopeBindings_eq, ofStmts, List.map_singleton, bindingsIn_singleton]
    simp [stmt, imported, Node.bindings, importBindings, hne, hpre, Node.opensScope, Node.children,
      Node.ofStmt, Simple.exprs, bindingsIn_ofExprs_nil]

/-- The scan finds that a statement rebinds its name, unless it is an import. -/
theorem binds_mem_iff (h : g.Proper package) {x : String} :
    .binds x ∈ scopeBindings package [g.stmt package] ↔ g.rebound? = some x := by
  cases hg : g with
  | other st n v =>
    obtain ⟨hmem, hroot⟩ := h.binds st n v hg
    constructor
    · intro hx
      exact congrArg some (hroot _ hx).symm
    · rintro ⟨⟩
      exact hmem
  | _ =>
    rw [scopeBindings_import rfl]
    simp [rebound?]

end GlobalBinding

/-! ## The two tables -/

section

variable {package : String} {gs : List GlobalBinding} {sp : String}

/-- Statements that bind different names, each with its value. -/
structure Separate (package : String) (gs : List GlobalBinding) : Prop where
  proper : ∀ g ∈ gs, g.Proper package
  names : (gs.map (GlobalBinding.name package)).Nodup

/-- The namespace that a module made of the statements leaves. -/
def namespaceOf (package : String) (gs : List GlobalBinding) : List (String × Bound) :=
  gs.map fun g => (g.name package, g.value package)

/-- Bindings of one name are the same. -/
theorem Separate.eq_of_name (h : Separate package gs) {g g' : GlobalBinding} (hg : g ∈ gs)
    (hg' : g' ∈ gs) (hname : g.name package = g'.name package) : g = g' :=
  List.inj_on_of_nodup_map h.names hg hg' hname

/-- Different bindings give different spellings. -/
theorem Separate.nodup_keys (h : Separate package gs)
    {entries : GlobalBinding → List (String × String)}
    (hsub : ∀ g, ∀ e ∈ entries g, e ∈ g.spellings package)
    (hown : ∀ g, ((entries g).map Prod.fst).Nodup) :
    ((gs.flatMap entries).map Prod.fst).Nodup := by
  rw [List.map_flatMap, List.nodup_flatMap]
  refine ⟨fun g _ => hown g, ?_⟩
  refine (List.pairwise_map.1 h.names).imp_of_mem fun {g g'} hg hg' hne => ?_
  intro x hx hx'
  obtain ⟨e, he, rfl⟩ := List.mem_map.1 hx
  obtain ⟨e', he', heq⟩ := List.mem_map.1 hx'
  refine hne ?_
  rw [← GlobalBinding.root_of_mem_spellings (h.proper g hg) (hsub g e he),
    ← GlobalBinding.root_of_mem_spellings (h.proper g' hg') (hsub g' e' he'), heq]

/-- The namespace gives the spellings of all bindings. -/
theorem Separate.mem_namespaceTable (h : Separate package gs) {e : String × String} :
    e ∈ namespaceTable package (namespaceOf package gs) ↔
      ∃ g ∈ gs, e ∈ g.spellings package := by
  have htable : namespaceTable package (namespaceOf package gs) =
      Table.insertAll [] (gs.flatMap (GlobalBinding.spellings package)) := by
    rw [namespaceTable, namespaceOf, List.flatMap_map]
    rfl
  have hkeys := h.nodup_keys (fun _ _ he => he) (GlobalBinding.nodup_spellings package)
  rw [htable, Table.mem_insertAll hkeys (by simp)]
  simp

theorem scopeBindings_cons (st : Stmt Empty) (body : List (Stmt Empty)) :
    scopeBindings package (st :: body) =
      scopeBindings package [st] ++ scopeBindings package body := by
  simp only [scopeBindings_eq]
  exact bindingsIn_ofStmts_cons st body

theorem addDenoted_denotes (t : Table) (es : List (String × String)) :
    addDenoted t (es.map fun e => .denotes e.1 e.2) = t.insertAll es := List.foldl_map

/-- What the scan of a statement finds for a spelling that the statement does not hide. -/
theorem GlobalBinding.lookup_addDenoted {g : GlobalBinding} (h : g.Proper package)
    (hshown : g.rebound? ≠ some (rootOf sp)) (t : Table) :
    (addDenoted t (scopeBindings package [g.stmt package])).lookup sp =
      ((g.imported package).reverse.lookup sp).or (t.lookup sp) := by
  cases hg : g with
  | other st n v =>
    obtain ⟨-, hroot⟩ := h.binds st n v hg
    refine lookup_addDenoted_of_root t fun b hb heq => hshown ?_
    rw [hg, ← heq, hroot b hb]
    rfl
  | _ => rw [scopeBindings_import rfl, addDenoted_denotes, Table.lookup_insertAll]

/-- The scan of the module finds what each statement imports. -/
theorem lookup_addDenoted_stmts (h : ∀ g ∈ gs, g.Proper package)
    (hshown : ∀ g ∈ gs, g.rebound? ≠ some (rootOf sp)) (t : Table) :
    (addDenoted t (scopeBindings package (gs.map (GlobalBinding.stmt package)))).lookup sp =
      ((gs.flatMap (GlobalBinding.imported package)).reverse.lookup sp).or (t.lookup sp) := by
  induction gs generalizing t with
  | nil => simp [scopeBindings_eq, bindingsIn_nil, addDenoted, ofStmts]
  | cons g gs ih =>
    obtain ⟨hg, hgs⟩ := List.forall_mem_cons.1 h
    obtain ⟨hown, hrest⟩ := List.forall_mem_cons.1 hshown
    rw [List.map_cons, scopeBindings_cons, addDenoted_append, ih hgs hrest,
      GlobalBinding.lookup_addDenoted hg hown, List.flatMap_cons, List.reverse_append,
      List.lookup_append, Option.or_assoc]

/-- The scan of the module finds what each statement rebinds. -/
theorem mem_boundNames_stmts (h : ∀ g ∈ gs, g.Proper package) {x : String} :
    x ∈ boundNames (scopeBindings package (gs.map (GlobalBinding.stmt package))) ↔
      ∃ g ∈ gs, g.rebound? = some x := by
  rw [mem_boundNames]
  induction gs with
  | nil => simp [scopeBindings_eq, bindingsIn_nil, ofStmts]
  | cons g gs ih =>
    obtain ⟨hg, hgs⟩ := List.forall_mem_cons.1 h
    rw [List.map_cons, scopeBindings_cons, List.mem_append, GlobalBinding.binds_mem_iff hg, ih hgs,
      List.exists_mem_cons_iff]

/-- The module's own table: what is rebound is hidden, what is imported comes first, and then the
implicit names. -/
theorem lookup_moduleTable_stmts (s : Settings) (h : ∀ g ∈ gs, g.Proper s.package) :
    (moduleTable s ⟨gs.map (GlobalBinding.stmt s.package)⟩).lookup sp =
      if ∃ g ∈ gs, g.rebound? = some (rootOf sp) then none
      else ((gs.flatMap (GlobalBinding.imported s.package)).reverse.lookup sp).or
        (s.implicitTable.lookup sp) := by
  rw [moduleTable, scopeTable]
  dsimp only
  rw [List.nil_append, Table.lookup_without]
  simp only [mem_boundNames_stmts h]
  split
  · rfl
  · rename_i hshown
    exact lookup_addDenoted_stmts h (fun g hg heq => hshown ⟨g, hg, heq⟩) _

/-- The table of a single definition is that of the implicit names, but for the definition's own
name. -/
theorem lookup_moduleTable_function (s : Settings) (span : Span) {h : FunctionHead}
    (b : List (Stmt Empty)) (hname : rootOf sp ≠ h.name) :
    (moduleTable s ⟨[.function span h b]⟩).lookup sp = s.implicitTable.lookup sp := by
  have hbindings : scopeBindings s.package [.function span h b] = [.binds h.name] :=
    bindingsIn_function span b h
  rw [moduleTable, scopeTable]
  dsimp only
  rw [hbindings, List.nil_append, Table.lookup_without, if_neg]
  · rfl
  · simpa [boundNames] using hname

end

/-! ## Agreement -/

section

variable {s : Settings} {gs : List GlobalBinding} {sp : String}

theorem Separate.lists_iff (h : Separate s.package gs) {m : String} :
    (s.withNamespace (namespaceOf s.package gs)).Lists m sp ↔
      s.Lists m sp ∨ ∃ g ∈ gs, (sp, m) ∈ g.spellings s.package := by
  rw [lists_withNamespace, h.mem_namespaceTable]

/-- A spelling whose root is bound in a statement can come from that statement only. -/
theorem Separate.exists_mem_iff (h : Separate s.package gs) {g : GlobalBinding} (hg : g ∈ gs)
    (hroot : g.name s.package = rootOf sp) {entries : GlobalBinding → List (String × String)}
    (hsub : ∀ g, ∀ e ∈ entries g, e ∈ g.spellings s.package) {m : String} :
    (∃ g' ∈ gs, (sp, m) ∈ entries g') ↔ (sp, m) ∈ entries g := by
  refine ⟨?_, fun hmem => ⟨g, hg, hmem⟩⟩
  rintro ⟨g', hg', hmem⟩
  have hroot' : rootOf sp = g'.name s.package :=
    GlobalBinding.root_of_mem_spellings (e := (sp, m)) (h.proper g' hg') (hsub g' _ hmem)
  rwa [h.eq_of_name hg hg' (hroot.trans hroot')]

/-- In the namespace, the macros for a spelling are those that it is configured for and those that
the statement gives which binds its root. -/
theorem Separate.lists_iff_of_name (h : Separate s.package gs) {g : GlobalBinding} (hg : g ∈ gs)
    (hroot : g.name s.package = rootOf sp) {m : String} :
    (s.withNamespace (namespaceOf s.package gs)).Lists m sp ↔
      s.Lists m sp ∨ (sp, m) ∈ g.spellings s.package := by
  rw [h.lists_iff, h.exists_mem_iff hg hroot fun _ _ he => he]

/-- A spelling whose root an import binds is that of a macro in the module's own table, if the scan
finds it in that import. -/
theorem Separate.lookup_imports (h : Separate s.package gs) {g : GlobalBinding} (hg : g ∈ gs)
    (hroot : g.name s.package = rootOf sp) (m : String) :
    (gs.flatMap (GlobalBinding.imported s.package)).reverse.lookup sp = some m ↔
      (sp, m) ∈ g.imported s.package := by
  have hkeys := h.nodup_keys (fun _ _ he => GlobalBinding.mem_spellings_of_mem_imported he)
    (GlobalBinding.nodup_imported s.package)
  rw [lookup_eq_some_of_nodup (by simpa using hkeys), List.mem_reverse, List.mem_flatMap,
    h.exists_mem_iff hg hroot fun _ _ he => GlobalBinding.mem_spellings_of_mem_imported he]

/-- The module's own table at a spelling whose root an import binds. -/
theorem Separate.lookup_moduleTable (h : Separate s.package gs) {g : GlobalBinding} (hg : g ∈ gs)
    (hroot : g.name s.package = rootOf sp) (himport : g.rebound? = none) :
    (moduleTable s ⟨gs.map (GlobalBinding.stmt s.package)⟩).lookup sp =
      ((gs.flatMap (GlobalBinding.imported s.package)).reverse.lookup sp).or
        (s.implicitTable.lookup sp) := by
  rw [lookup_moduleTable_stmts s h.proper, if_neg]
  rintro ⟨g', hg', hre⟩
  have hname : g'.name s.package = rootOf sp := GlobalBinding.name_of_rebound hre
  rw [h.eq_of_name hg hg' (hroot.trans hname.symm), hre] at himport
  cases himport

/-- The two tables agree on a spelling whose root an import binds that the scan takes note of,
exactly if no later macro has it for an implicit name. -/
theorem Separate.agrees_imported (h : Separate s.package gs) {g : GlobalBinding} (hg : g ∈ gs)
    (hroot : g.name s.package = rootOf sp) (himport : g.rebound? = none)
    (hseen : g.imported s.package = g.spellings s.package) :
    (s.withNamespace (namespaceOf s.package gs)).implicitTable.lookup sp =
        (moduleTable s ⟨gs.map (GlobalBinding.stmt s.package)⟩).lookup sp ↔
      ∀ m, (sp, m) ∈ g.spellings s.package → ∀ m', s.Lists m' sp → m' ≤ m := by
  have hfound := h.lookup_imports hg hroot
  rw [hseen] at hfound
  have hlists (m : String) := h.lists_iff_of_name hg hroot (m := m)
  rw [h.lookup_moduleTable hg hroot himport]
  cases hl : (gs.flatMap (GlobalBinding.imported s.package)).reverse.lookup sp with
  | none =>
    have hno (m : String) : (sp, m) ∉ g.spellings s.package := fun hmem => by
      rw [(hfound m).2 hmem] at hl
      cases hl
    rw [Option.none_or, lookup_implicitTable_congr fun m => (hlists m).trans (or_iff_left (hno m))]
    exact iff_of_true rfl fun m hmem => absurd hmem (hno m)
  | some m =>
    have hm := (hfound m).1 hl
    have honly {m' : String} (hm' : (sp, m') ∈ g.spellings s.package) : m' = m := by
      rw [← hfound, hl] at hm'
      exact (Option.some.inj hm').symm
    rw [Option.some_or, lookup_implicitTable]
    constructor
    · rintro ⟨-, hmax⟩ m' hm' m'' hl''
      rw [honly hm']
      exact hmax m'' ((hlists m'').2 (.inl hl''))
    · intro hle
      refine ⟨(hlists m).2 (.inr hm), fun m' hm' => ?_⟩
      rcases (hlists m').1 hm' with hm' | hm'
      · exact hle m hm m' hm'
      · obtain rfl := honly hm'
        exact String.le_refl m'

/-- The two tables agree on a spelling whose root an import of a module in the package binds,
exactly if the macro of the spelling, or a later one, has it for an implicit name. -/
theorem Separate.agrees_submodule (h : Separate s.package gs) {g : GlobalBinding} (hg : g ∈ gs)
    (hroot : g.name s.package = rootOf sp) (himport : g.rebound? = none)
    (hunseen : g.imported s.package = []) :
    (s.withNamespace (namespaceOf s.package gs)).implicitTable.lookup sp =
        (moduleTable s ⟨gs.map (GlobalBinding.stmt s.package)⟩).lookup sp ↔
      ∀ m, (sp, m) ∈ g.spellings s.package → ∃ m', s.Lists m' sp ∧ m ≤ m' := by
  have hlists (m : String) := h.lists_iff_of_name hg hroot (m := m)
  have hnone : (gs.flatMap (GlobalBinding.imported s.package)).reverse.lookup sp = none := by
    refine Option.eq_none_iff_forall_ne_some.2 fun m hm => ?_
    have hmem := (h.lookup_imports hg hroot m).1 hm
    rw [hunseen] at hmem
    cases hmem
  rw [h.lookup_moduleTable hg hroot himport, hnone, Option.none_or]
  constructor
  · intro heq m hm
    cases hown : s.implicitTable.lookup sp with
    | none =>
      rw [hown, lookup_implicitTable_eq_none] at heq
      exact absurd ((hlists m).2 (.inr hm)) (heq m)
    | some m' =>
      rw [hown, lookup_implicitTable] at heq
      exact ⟨m', (lookup_implicitTable.1 hown).1, heq.2 m ((hlists m).2 (.inr hm))⟩
  · intro hle
    refine Option.ext fun m => ?_
    rw [lookup_implicitTable, lookup_implicitTable]
    simp only [hlists]
    constructor
    · rintro ⟨hm, hmax⟩
      refine ⟨?_, fun m' hm' => hmax m' (.inl hm')⟩
      rcases hm with hm | hm
      · exact hm
      · obtain ⟨m', hm', hmm'⟩ := hle m hm
        exact String.le_antisymm hmm' (hmax m' (.inl hm')) ▸ hm'
    · rintro ⟨hm, hmax⟩
      refine ⟨.inl hm, fun m' hm' => ?_⟩
      rcases hm' with hm' | hm'
      · exact hmax m' hm'
      · obtain ⟨m'', hm'', hle''⟩ := hle m' hm'
        exact String.le_trans hle'' (hmax m'' hm'')

/-- The two tables agree on a spelling whose root no statement binds. -/
theorem Separate.lookup_of_unbound (h : Separate s.package gs)
    (hbound : ¬∃ g ∈ gs, g.name s.package = rootOf sp) :
    (s.withNamespace (namespaceOf s.package gs)).implicitTable.lookup sp =
      (moduleTable s ⟨gs.map (GlobalBinding.stmt s.package)⟩).lookup sp := by
  have hshown : ¬∃ g ∈ gs, g.rebound? = some (rootOf sp) := by
    rintro ⟨g, hg, hre⟩
    exact hbound ⟨g, hg, GlobalBinding.name_of_rebound hre⟩
  have hno {g : GlobalBinding} (hg : g ∈ gs) (m : String) : (sp, m) ∉ g.spellings s.package := by
    intro hmem
    exact hbound ⟨g, hg, (GlobalBinding.root_of_mem_spellings (h.proper g hg) hmem).symm⟩
  have himported : (gs.flatMap (GlobalBinding.imported s.package)).reverse.lookup sp = none := by
    rw [List.lookup_eq_none_iff]
    rintro ⟨x, m⟩ he
    obtain ⟨g, hg, hmem⟩ := List.mem_flatMap.1 (List.mem_reverse.1 he)
    rw [bne_iff_ne]
    rintro rfl
    exact hno hg m (GlobalBinding.mem_spellings_of_mem_imported hmem)
  have hlists (m : String) : (s.withNamespace (namespaceOf s.package gs)).Lists m sp ↔
      s.Lists m sp := by
    rw [h.lists_iff]
    refine or_iff_left ?_
    rintro ⟨g, hg, hmem⟩
    exact hno hg m hmem
  rw [lookup_moduleTable_stmts s h.proper, if_neg hshown, himported, Option.none_or,
    lookup_implicitTable_congr hlists]

/-- **A definition in the namespace of a module against the module itself.** The two tables agree on
a spelling, whose root is not the name of the definition, exactly if the statement that binds the
root agrees on it, if one does. -/
theorem lookup_withNamespace_iff (h : Separate s.package gs) (span : Span) (d : FunctionHead)
    (b : List (Stmt Empty)) (hname : rootOf sp ≠ d.name) :
    (moduleTable (s.withNamespace (namespaceOf s.package gs)) ⟨[.function span d b]⟩).lookup sp =
        (moduleTable s ⟨gs.map (GlobalBinding.stmt s.package)⟩).lookup sp ↔
      ∀ g ∈ gs, g.name s.package = rootOf sp → g.AgreesOn s sp := by
  rw [lookup_moduleTable_function _ span b hname]
  by_cases hbound : ∃ g ∈ gs, g.name s.package = rootOf sp
  · obtain ⟨g, hg, hroot⟩ := hbound
    have honly : (∀ g' ∈ gs, g'.name s.package = rootOf sp → g'.AgreesOn s sp) ↔
        g.AgreesOn s sp := by
      refine ⟨fun hall => hall g hg hroot, fun hag g' hg' hroot' => ?_⟩
      rwa [h.eq_of_name hg' hg (hroot'.trans hroot.symm)]
    rw [honly]
    cases g with
    | other st n v =>
      have hhidden : ∃ g ∈ gs, g.rebound? = some (rootOf sp) := ⟨_, hg, congrArg some hroot⟩
      rw [lookup_moduleTable_stmts s h.proper, if_pos hhidden, lookup_implicitTable_eq_none]
      simp only [h.lists_iff, h.exists_mem_iff hg hroot fun _ _ he => he, not_or, forall_and]
      rfl
    | macroImport sp' p m as => exact h.agrees_imported hg hroot rfl rfl
    | packageImport sp' p as => exact h.agrees_imported hg hroot rfl rfl
    | submoduleImport sp' p path => exact h.agrees_submodule hg hroot rfl rfl
  · rw [h.lookup_of_unbound hbound]
    exact iff_of_true rfl fun g hg hroot => absurd ⟨g, hg, hroot⟩ hbound

end

namespace Globals

/-- `from flow_control import break_if as bi`. -/
def imported : GlobalBinding := .macroImport ⟨1, 0, 1, 40⟩ ⟨1, 25⟩ .breakIf (some "bi")

/-- `stop = len`. -/
def rebound : GlobalBinding :=
  .other (.simple ⟨2, 0, 2, 10⟩
    (.assign [.name ⟨2, 0⟩ "stop" .store] (.name ⟨2, 7⟩ "len" .load))) "stop" (.callable none)

/-- The head of `def f(xs)`. -/
def head : FunctionHead := ⟨false, "f", .empty, [], none, 3⟩

theorem separate : Separate "flow_control" [imported, rebound] := by
  refine ⟨fun g hg => ?_, by decide⟩
  rcases List.mem_cons.1 hg with rfl | hg
  · exact ⟨by decide, nofun⟩
  · obtain rfl := List.mem_singleton.1 hg
    refine ⟨by decide, ?_⟩
    rintro _ _ _ ⟨⟩
    with_unfolding_all decide

/-- Settings with `implicit_names: {label: [bi], break_if: [stop]}`. -/
def configured : Settings := { Settings.default with
  implicitNames := [("label", ["bi"]), ("break_if", ["stop"])] }

end Globals

/-- Without implicit names the import is found in the namespace as in the module. -/
theorem lookup_withNamespace_iff_imported :
    rootOf "bi" ≠ Globals.head.name ∧ Separate "flow_control" [Globals.imported, Globals.rebound] ∧
    (moduleTable (Settings.default.withNamespace
        (namespaceOf "flow_control" [Globals.imported, Globals.rebound]))
        ⟨[.function ⟨3, 0, 4, 8⟩ Globals.head []]⟩).lookup "bi" =
      (moduleTable .default
        ⟨[Globals.imported, Globals.rebound].map (GlobalBinding.stmt "flow_control")⟩).lookup
          "bi" := by
  have hne : rootOf "bi" ≠ Globals.head.name := by decide
  refine ⟨hne, Globals.separate, ?_⟩
  refine (lookup_withNamespace_iff Globals.separate ⟨3, 0, 4, 8⟩ Globals.head [] hne).2 ?_
  rintro g hg hroot
  rcases List.mem_cons.1 hg with rfl | hg
  · rintro m - m' ⟨sps, hmem, -⟩
    cases hmem
  · obtain rfl := List.mem_singleton.1 hg
    exact absurd hroot (by decide)

/-- The implicit name of a later macro comes before an import, and one for any macro is not hidden
by another binding. -/
theorem lookup_withNamespace_configured :
    Separate Globals.configured.package [Globals.imported, Globals.rebound] ∧
    (let s := Globals.configured
     let gs := [Globals.imported, Globals.rebound]
     let within := moduleTable (s.withNamespace (namespaceOf s.package gs))
       ⟨[.function ⟨3, 0, 4, 8⟩ Globals.head []]⟩
     let own := moduleTable s ⟨gs.map (GlobalBinding.stmt s.package)⟩
     (within.lookup "bi" = some "label" ∧ own.lookup "bi" = some "break_if") ∧
       within.lookup "stop" = some "break_if" ∧ own.lookup "stop" = none) := by
  have hnames : (Globals.configured.withNamespace
      (namespaceOf "flow_control" [Globals.imported, Globals.rebound])).implicitNames =
        [("label", ["bi"]), ("break_if", ["stop", "bi"])] := by with_unfolding_all decide
  have hlists (m sp : String) : (Globals.configured.withNamespace
      (namespaceOf "flow_control" [Globals.imported, Globals.rebound])).Lists m sp ↔
        m = "label" ∧ sp = "bi" ∨ m = "break_if" ∧ (sp = "stop" ∨ sp = "bi") := by
    unfold Settings.Lists
    rw [hnames]
    simp [or_and_right, exists_or, and_assoc]
  refine ⟨Globals.separate, ⟨?_, ?_⟩, ?_, ?_⟩
  · refine (lookup_moduleTable_function _ _ [] (by decide)).trans (lookup_implicitTable.2 ⟨?_, ?_⟩)
    · exact (hlists "label" "bi").2 (by decide)
    · intro m hm
      rcases (hlists m "bi").1 hm with ⟨rfl, -⟩ | ⟨rfl, -⟩ <;> decide
  · rw [lookup_moduleTable_stmts _ Globals.separate.proper, if_neg (by decide)]
    rfl
  · refine (lookup_moduleTable_function _ _ [] (by decide)).trans (lookup_implicitTable.2 ⟨?_, ?_⟩)
    · exact (hlists "break_if" "stop").2 (by decide)
    · intro m hm
      rcases (hlists m "stop").1 hm with ⟨-, h⟩ | ⟨rfl, -⟩
      · exact absurd h (by decide)
      · exact String.le_refl _
  · rw [lookup_moduleTable_stmts _ Globals.separate.proper, if_pos (by decide)]

end JumpMacros
