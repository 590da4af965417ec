import JumpMacros.Expand
import JumpMacros.Proofs.CallSites

/-!
# Names of the user are not taken for macros

**Theorem (`calls_not_captured`).** A call is neither expanded nor reported if the variable that
its callee starts with is bound in any other way than by importing a macro or the package,
provided that the bindings of the name are among those that the table of a scope takes into
account. These are the parameters and what is bound in the body of a scope outside of nested scopes
(`Scope.seen`).

The key is `free_here`: if the scope of a variable drops a name from its table, the name is in no
table of the scopes inside for which it denotes that variable. A scope in between does not bind the
name, and so does not bring it back.
-/

namespace JumpMacros

open Text (rootOf)

/-! ## Tables without a name -/

/-- No spelling in a table starts with a name. -/
def Table.Free (t : Table) (x : String) : Prop := ∀ e ∈ t, rootOf e.1 ≠ x

namespace Table.Free

variable {t : Table} {x : String}

theorem without (h : t.Free x) (names : List String) : (t.without names).Free x :=
  fun e he => h e (List.mem_of_mem_filter he)

theorem without_mem {names : List String} (hx : x ∈ names) : (t.without names).Free x := by
  rintro e he rfl
  simpa [hx] using (List.mem_filter.1 he).2

theorem insert (h : t.Free x) {spelling : String} (name : String) (hs : rootOf spelling ≠ x) :
    (t.insert spelling name).Free x := by
  intro e he
  rcases List.mem_cons.1 he with rfl | he
  · exact hs
  · exact h e (List.mem_of_mem_filter he)

theorem addDenoted {bs : List Binding} (h : t.Free x)
    (hbs : ∀ spelling name, .denotes spelling name ∈ bs → rootOf spelling ≠ x) :
    (addDenoted t bs).Free x := by
  induction bs generalizing t with
  | nil => exact h
  | cons b bs ih =>
    have hrest (spelling name) (hb : .denotes spelling name ∈ bs) : rootOf spelling ≠ x :=
      hbs spelling name (List.mem_cons_of_mem _ hb)
    cases b with
    | denotes spelling name => exact ih (h.insert name (hbs spelling name List.mem_cons_self)) hrest
    | binds name => exact ih h hrest

theorem resolve {env : Env} (h : env.here.Free x) {spelling : String} (hx : rootOf spelling = x) :
    env.resolve (some spelling) = none := by
  show List.lookup spelling env.here = none
  refine List.lookup_eq_none_iff.2 fun e he => ?_
  have hne := h e he
  simp only [bne_iff_ne, ne_eq]
  rintro rfl
  exact hne hx

end Table.Free

/-! ## What the scan of a scope finds -/

theorem takeWhile_root (a b : List Char) :
    (a ++ '.' :: b).takeWhile (· != '.') = a.takeWhile (· != '.') := by
  induction a with
  | nil => rfl
  | cons c a ih =>
    simp only [List.cons_append, List.takeWhile_cons]
    rw [ih]

theorem rootOf_append (a b : String) : rootOf (a ++ "." ++ b) = rootOf a := by
  unfold rootOf
  rw [String.toList_append, String.toList_append, List.append_assoc]
  exact congrArg String.ofList (takeWhile_root a.toList b.toList)

/-- A name that a node binds otherwise is found by the scan. -/
theorem binds_of_rebound {package x : String} {n : Node Empty} (h : x ∈ n.rebound package) :
    .binds x ∈ n.bindings package := by
  unfold Node.rebound at h
  split at h
  · simpa [Node.bindings] using h
  · simpa [Node.bindings] using h
  · rename_i path as level
    obtain ⟨a, ha, hx⟩ := List.mem_flatMap.1 h
    refine List.mem_flatMap.2 ⟨a, ha, ?_⟩
    unfold reboundFrom at hx
    unfold importFromBindings
    split at hx
    · cases hx
    · rename_i hcase
      simp only [Bool.or_eq_true, not_or] at hcase
      rw [if_neg hcase.1, if_neg hcase.2]
      simpa using hx
  · obtain ⟨a, ha, hx⟩ := List.mem_flatMap.1 h
    refine List.mem_flatMap.2 ⟨a, ha, ?_⟩
    unfold reboundBy at hx
    unfold importBindings
    split at hx
    · cases hx
    · rename_i hne
      rw [if_neg hne]
      cases has : a.asName with
      | some n => simpa [has] using hx
      | none =>
        simp only [has] at hx ⊢
        split at hx
        · cases hx
        · rename_i hsub
          rw [if_neg hsub]
          simpa using hx
  · simpa [Node.bindings, NameUse.binds] using h
  · simpa [Node.bindings, NameUse.binds] using h
  · rename_i n _
    cases n with
    | none => cases h
    | some n => simpa [Node.bindings] using h
  · simpa [Node.bindings, Pattern.binds] using h
  · simpa [Node.bindings, Pattern.binds] using h
  · simpa [Node.bindings, Pattern.binds] using h
  · simpa [Node.bindings, Pattern.binds] using h
  · cases h

/-- A spelling that the scan finds belongs to a name that the node imports. -/
theorem imported_of_denotes {package spelling name : String} {n : Node Empty}
    (h : .denotes spelling name ∈ n.bindings package) : rootOf spelling ∈ n.imported package := by
  unfold Node.bindings at h
  split at h
  · rename_i path as level
    obtain ⟨a, ha, hx⟩ := List.mem_flatMap.1 h
    refine List.mem_flatMap.2 ⟨a, ha, ?_⟩
    unfold importFromBindings at hx
    unfold importedFrom
    by_cases hpkg : (decide (level = 0) && path == some package) = true
    · rw [if_pos hpkg]
      simp only [hpkg, Bool.true_and, if_true] at hx
      split at hx
      · rename_i hstar
        rw [if_pos hstar]
        obtain ⟨m, hm, heq⟩ := List.mem_map.1 hx
        cases heq
        exact List.mem_map_of_mem hm
      · rename_i hstar
        rw [if_neg hstar]
        split at hx
        · rename_i hmacro
          rw [if_pos hmacro]
          cases List.mem_singleton.1 hx
          exact List.mem_singleton_self _
        · cases List.mem_singleton.1 hx
    · simp [hpkg] at hx
  · obtain ⟨a, ha, hx⟩ := List.mem_flatMap.1 h
    refine List.mem_flatMap.2 ⟨a, ha, ?_⟩
    unfold importBindings at hx
    unfold importedBy
    split at hx
    · rename_i hpkg
      rw [if_pos hpkg]
      obtain ⟨m, hm, heq⟩ := List.mem_map.1 hx
      cases heq
      rw [rootOf_append]
      exact List.mem_singleton_self _
    · cases has : a.asName with
      | some n => simp [has] at hx
      | none =>
        simp only [has] at hx
        split at hx <;> simp at hx
  all_goals simp at h

theorem mem_boundNames {bs : List Binding} {x : String} : x ∈ boundNames bs ↔ .binds x ∈ bs := by
  unfold boundNames
  rw [List.mem_filterMap]
  constructor
  · rintro ⟨b, hb, hx⟩
    cases b with
    | denotes spelling name => cases hx
    | binds n =>
      cases hx
      exact hb
  · exact fun hb => ⟨_, hb, rfl⟩

section

variable {package x : String} {body : List (Stmt Empty)} {t : Table} {params : List String}

/-- A scope that does not import a name takes the names around as they are. -/
theorem free_scopeTable (ht : t.Free x)
    (hx : x ∉ (Node.binding (Node.ofStmts body)).flatMap (Node.imported package)) :
    (scopeTable package body t params).Free x := by
  refine Table.Free.without (ht.addDenoted fun spelling name hb => ?_) _
  obtain ⟨n, hn, hb⟩ := List.mem_flatMap.1 hb
  rintro rfl
  exact hx (List.mem_flatMap.2 ⟨n, Node.walk_subset_binding _ hn, imported_of_denotes hb⟩)

/-- A scope that binds a name otherwise, where the scan finds it, drops the name. -/
theorem free_scopeTable_of_seen
    (hx : x ∈ params ++ (Node.scopeNodes body).flatMap (Node.rebound package)) :
    (scopeTable package body t params).Free x := by
  refine Table.Free.without_mem ?_
  rcases List.mem_append.1 hx with hx | hx
  · exact List.mem_append_left _ hx
  · obtain ⟨n, hn, hx⟩ := List.mem_flatMap.1 hx
    refine List.mem_append_right _ (mem_boundNames.2 ?_)
    exact List.mem_flatMap.2 ⟨n, hn, binds_of_rebound hx⟩

end

/-! ## Scopes inside of the variable's scope -/

/-- The rebound names that the table of a scope takes into account: its parameters, and what is
bound in its body outside of nested scopes. -/
def Scope.seen (package : String) : Scope → List String
  | .module b => (Node.scopeNodes b).flatMap (Node.rebound package)
  | .function h b => h.params.names ++ (Node.scopeNodes b).flatMap (Node.rebound package)
  | .klass b => (Node.scopeNodes b).flatMap (Node.rebound package)
  | .lambda ps _ => ps.names
  | .comprehension _ _ => []

/-- On the way from a place to one farther out a name is not declared, and no comprehension stands
in a class that imports it. -/
inductive Place.LeadsTo (package x : String) : Place → Place → Prop
  | here {target : Place} : LeadsTo package x target target
  | inside {S : Scope} {outer target : Place} (hg : x ∉ S.globals) (hn : x ∉ S.nonlocals)
    (hc : ∀ parts cs b rest, S = .comprehension parts cs → outer = .klass b :: rest →
      x ∉ (Scope.klass b).imported package) (h : LeadsTo package x outer target) :
    LeadsTo package x (S :: outer) target

variable {s : Settings} {x : String}

theorem Place.LeadsTo.of_suffix {package : String} {place target : Place}
    (h : LeadsTo package x place []) (ht : target <:+ place) : LeadsTo package x place target := by
  induction place with
  | nil =>
    obtain rfl := List.suffix_nil.1 ht
    exact .here
  | cons S outer ih =>
    rcases List.suffix_cons_iff.1 ht with rfl | ht
    · exact .here
    · cases h with
      | inside hg hn hc h => exact .inside hg hn hc (ih h ht)

theorem not_imported {package : String} {S : Scope} (h : x ∉ S.names package) :
    x ∉ S.imported package :=
  fun hx => h (List.mem_append_right _ hx)

/-- The body of a class is not looked up from the scopes inside of it. -/
theorem enclosingOf_ne_klass {package : String} {b : List (Stmt Empty)} {outer : Place} :
    enclosingOf package x (.klass b :: outer) ≠ .klass b :: outer := by
  intro h
  have hsuffix : Scope.klass b :: outer <:+ outer := h ▸ enclosingOf_suffix outer
  exact Nat.lt_irrefl _ hsuffix.length_le

/-- The table of the scope that drops a name. -/
theorem free_own {S : Scope} {outer : Place} (hS : x ∈ S.seen s.package) :
    (envAt s (S :: outer)).here.Free x := by
  cases S with
  | module b => exact free_scopeTable_of_seen hS
  | function hd b => exact free_scopeTable_of_seen hS
  | klass b => exact free_scopeTable_of_seen hS
  | lambda ps b => exact Table.Free.without_mem hS
  | comprehension ps cs => cases hS

/-- Where a name denotes a variable whose scope drops the name, nested scopes do not see it. -/
theorem free_inner {S : Scope} {outer : Place} (hS : x ∈ S.seen s.package) :
    ∀ {place : Place}, place.LeadsTo s.package x (S :: outer) →
      enclosingOf s.package x place = S :: outer → (envAt s place).inner.Free x
  | .module b :: rest, _, h => by
    obtain ⟨rfl, rfl⟩ := List.cons.inj h
    exact free_scopeTable_of_seen hS
  | .klass b :: rest, hlead, h => by
    cases hlead with
    | here => exact absurd h enclosingOf_ne_klass
    | inside _ _ _ hlead =>
      have hrest : (envAt s rest).inner.Free x := free_inner hS hlead h
      exact hrest
  | .function hd b :: rest, hlead, h => by
    cases hlead with
    | here => exact free_scopeTable_of_seen hS
    | inside hg hn _ hlead =>
      simp only [enclosingOf, List.contains_iff_mem, if_neg hg, if_neg hn] at h
      split at h
      · obtain ⟨rfl, rfl⟩ := List.cons.inj h
        exact free_scopeTable_of_seen hS
      · rename_i hx
        exact free_scopeTable (free_inner hS hlead h) (not_imported hx)
  | .lambda ps b :: rest, hlead, h => by
    cases hlead with
    | here => exact Table.Free.without_mem hS
    | inside hg hn _ hlead =>
      simp only [enclosingOf, List.contains_iff_mem, if_neg hg, if_neg hn] at h
      split at h
      · obtain ⟨rfl, rfl⟩ := List.cons.inj h
        exact Table.Free.without_mem hS
      · exact (free_inner hS hlead h).without _
  | .comprehension ps cs :: rest, hlead, h => by
    cases hlead with
    | here => cases hS
    | inside hg hn _ hlead =>
      simp only [enclosingOf, List.contains_iff_mem, if_neg hg, if_neg hn] at h
      split at h
      · obtain ⟨rfl, rfl⟩ := List.cons.inj h
        cases hS
      · have hrest : (envAt s rest).inner.Free x := free_inner hS hlead h
        exact hrest

/-- Nor does a comprehension, which sees what is visible around it. -/
theorem free_around {S : Scope} {outer : Place} (hS : x ∈ S.seen s.package) :
    ∀ {place : Place}, place.LeadsTo s.package x (S :: outer) →
      (∀ b rest, place = .klass b :: rest → x ∉ (Scope.klass b).imported s.package) →
      enclosingOf s.package x place = S :: outer → (envAt s place).here.Free x
  | .module b :: rest, hlead, _, h => free_inner hS hlead h
  | .function hd b :: rest, hlead, _, h => free_inner hS hlead h
  | .lambda ps b :: rest, hlead, _, h => free_inner hS hlead h
  | .klass b :: rest, hlead, hc, h => by
    cases hlead with
    | here => exact free_own hS
    | inside _ _ _ hlead => exact free_scopeTable (free_inner hS hlead h) (hc b rest rfl)
  | .comprehension ps cs :: rest, hlead, _, h => by
    cases hlead with
    | here => exact free_own hS
    | inside hg hn hc hlead =>
      simp only [enclosingOf, List.contains_iff_mem, if_neg hg, if_neg hn] at h
      split at h
      · obtain ⟨rfl, rfl⟩ := List.cons.inj h
        cases hS
      · have hrest : (envAt s rest).here.Free x :=
          free_around hS hlead (fun b more heq => hc ps cs b more rfl heq) h
        exact hrest

/-- **A name is in no table for which it denotes a variable whose scope drops it.** -/
theorem free_here {S : Scope} {outer : Place} (hS : x ∈ S.seen s.package) :
    ∀ {place : Place}, place.LeadsTo s.package x (S :: outer) →
      variableOf s.package x place = S :: outer → (envAt s place).here.Free x
  | .module b :: rest, hlead, h => free_inner hS hlead h
  | .function hd b :: rest, hlead, h => free_inner hS hlead h
  | .lambda ps b :: rest, hlead, h => free_inner hS hlead h
  | .klass b :: rest, hlead, h => by
    cases hlead with
    | here => exact free_own hS
    | inside hg hn _ hlead =>
      simp only [variableOf, List.contains_iff_mem, if_neg hg, if_neg hn] at h
      split at h
      · obtain ⟨rfl, rfl⟩ := List.cons.inj h
        exact free_own hS
      · rename_i hx
        exact free_scopeTable (free_inner hS hlead h) (not_imported hx)
  | .comprehension ps cs :: rest, hlead, h => by
    cases hlead with
    | here => exact free_own hS
    | inside hg hn hc hlead =>
      simp only [variableOf, List.contains_iff_mem, if_neg hg, if_neg hn] at h
      split at h
      · obtain ⟨rfl, rfl⟩ := List.cons.inj h
        cases hS
      · have hrest : (envAt s rest).here.Free x :=
          free_around hS hlead (fun b more heq => hc ps cs b more rfl heq) h
        exact hrest

/-! ## Calls of the user -/

/-- The tables show that the variable of a name is bound otherwise than by importing a macro or the
package: the scan of its scope finds such a binding, and nothing redirects the name on the way
there. -/
def Place.Shows (package x : String) (place : Place) : Prop :=
  ∃ S outer, variableOf package x place = S :: outer ∧ x ∈ S.seen package ∧
    place.LeadsTo package x (S :: outer)

theorem Place.Shows.free {place : Place} (h : place.Shows s.package x) :
    (envAt s place).here.Free x := by
  obtain ⟨S, outer, hvar, hS, hlead⟩ := h
  exact free_here hS hlead hvar

/-- Some construct binds the variable that a name denotes at a place, otherwise than by importing a
macro or the package. -/
def Module.Rebinds (package x : String) (m : Module Empty) (place : Place) : Prop :=
  ∃ v ∈ m.visits, (∃ S ∈ v.place.head?, x ∈ S.rebound package) ∧
    variableOf package x v.place = variableOf package x place

/-- The bindings of a name are all such that tables take them into account. -/
structure Module.Regular (package x : String) (m : Module Empty) : Prop where
  leads : ∀ v ∈ m.visits, v.place.LeadsTo package x []
  seen : ∀ v ∈ m.visits, ∀ S ∈ v.place.head?, x ∈ S.rebound package → x ∈ S.seen package

/-- A scope that binds a name is that of its variable. -/
theorem variableOf_of_rebound {package : String} {S : Scope} {outer : Place}
    (hlead : Place.LeadsTo package x (S :: outer) []) (hx : x ∈ S.rebound package) :
    variableOf package x (S :: outer) = S :: outer := by
  have hmem : x ∈ S.names package := List.mem_append_left _ hx
  cases hlead with
  | inside hg hn _ _ =>
    cases S <;> simp only [variableOf, List.contains_iff_mem, if_neg hg, if_neg hn, if_pos hmem]

theorem Module.Regular.shows {package : String} {m : Module Empty} (hreg : m.Regular package x)
    {v : Visit} (hv : v ∈ m.visits) (hx : m.Rebinds package x v.place) :
    v.place.Shows package x := by
  obtain ⟨w, hw, ⟨S, hS, hmem⟩, heq⟩ := hx
  obtain ⟨outer, hplace⟩ := List.head?_eq_some_iff.1 hS
  have hlead := hreg.leads w hw
  rw [hplace] at hlead heq
  rw [variableOf_of_rebound hlead hmem] at heq
  refine ⟨S, outer, heq.symm, hreg.seen w hw S hS hmem, ?_⟩
  exact (hreg.leads v hv).of_suffix (heq ▸ variableOf_suffix v.place)

/-- **No capture of names.** What is expanded or reported as misplaced are visited calls whose
callee denotes a macro. A call is not among them, and stays as it is, if the tables show that the
variable its callee starts with is bound otherwise. They show this of every variable that is bound
otherwise and whose name has regular bindings only. -/
theorem calls_not_captured (s : Settings) (m : Module Empty) :
    invocations s.package (.ofTable (moduleTable s m)) m.body =
        m.visits.filterMap (Visit.invocation? s) ∧
      misplacedCalls s.package (.ofTable (moduleTable s m)) m.body =
        m.visits.filterMap (Visit.misplaced? s) ∧
      (∀ v ∈ m.visits, ∀ f spelling, v.callee? = some f → f.dotted = some spelling →
        v.place.Shows s.package (rootOf spelling) →
          v.invocation? s = none ∧ v.misplaced? s = none ∧
            ∀ sp st, v.node = .stmt (.simple sp st) →
              st.expand (envAt s v.place) sp = .simple sp st) ∧
      ∀ v ∈ m.visits, ∀ x, m.Regular s.package x → m.Rebinds s.package x v.place →
        v.place.Shows s.package x := by
  refine ⟨invocations_eq s m, misplacedCalls_eq s m, ?_, fun v hv x hreg hx => hreg.shows hv hx⟩
  rintro ⟨place, n⟩ hv f spelling hf hspelling hshows
  have hnone := hshows.free.resolve rfl
  unfold Visit.callee? at hf
  split at hf
  · rename_i hnode
    cases hf
    obtain rfl : n = _ := hnode
    refine ⟨by simp [Visit.invocation?, Stmt.invocation?, hspelling, hnone], rfl, ?_⟩
    rintro sp st hst
    cases hst
    simp [Simple.expand, Stmt.invocation?, hspelling, hnone]
  · rename_i hnode
    cases hf
    obtain rfl : n = _ := hnode
    refine ⟨rfl, by simp [Visit.misplaced?, hspelling, hnone], fun sp st hst => ?_⟩
    cases hst
  · cases hf

/-! ## A parameter by the name of a macro -/

/-- A function with one parameter, which it calls. -/
def shadowingHead : FunctionHead :=
  ⟨false, "f", ⟨[], [.mk ⟨3, 6⟩ "break_if" none none], none, [], none⟩, [], none, 3⟩

def shadowedCall : Expr :=
  .call ⟨4, 4⟩ (.name ⟨4, 4⟩ "break_if" .load) [.const ⟨4, 13⟩ (.int 1)] []

/-- A module with the function, which imports a macro by the name of the parameter. -/
def shadowingModule : Module Empty :=
  ⟨[.simple ⟨1, 0, 1, 33⟩ (.importsFrom (some "flow_control") [⟨⟨1, 25⟩, "break_if", none⟩] 0),
    .function ⟨3, 0, 4, 15⟩ shadowingHead [.simple ⟨4, 4, 4, 15⟩ (.expr shadowedCall)]]⟩

/-- Where the call stands. -/
def shadowedPlace : Place :=
  [.function shadowingHead [.simple ⟨4, 4, 4, 15⟩ (.expr shadowedCall)],
    .module shadowingModule.body]

theorem shadowingModule_visits : shadowingModule.visits =
    [⟨[.module shadowingModule.body], .stmt shadowingModule.body[0]⟩,
      ⟨[.module shadowingModule.body], .stmt shadowingModule.body[1]⟩,
      ⟨shadowedPlace, .stmt (.simple ⟨4, 4, 4, 15⟩ (.expr shadowedCall))⟩,
      ⟨shadowedPlace, .expr (.name ⟨4, 4⟩ "break_if" .load)⟩,
      ⟨shadowedPlace, .expr (.const ⟨4, 13⟩ (.int 1))⟩] := by
  have hcall : (Stmt.simple ⟨4, 4, 4, 15⟩ (.expr shadowedCall)).ownVisits shadowedPlace =
      ⟨shadowedPlace, .stmt (.simple ⟨4, 4, 4, 15⟩ (.expr shadowedCall))⟩ ::
        ((Expr.name ⟨4, 4⟩ "break_if" .load).visits shadowedPlace ++
          ((Expr.const ⟨4, 13⟩ (.int 1)).visits shadowedPlace ++ [])) := rfl
  rw [Expr.visits_leaf rfl, Expr.visits_leaf rfl] at hcall
  show _ :: _ :: ((Stmt.simple ⟨4, 4, 4, 15⟩ (.expr shadowedCall)).ownVisits shadowedPlace ++
    [] ++ [] ++ []) = _
  rw [hcall]
  rfl

/-- The parameter is where the scan of the function finds it, and the import is no rebinding. -/
theorem shadowingModule_regular : shadowingModule.Regular "flow_control" "break_if" := by
  have hplaces : ∀ v ∈ shadowingModule.visits,
      v.place = shadowedPlace ∨ v.place = [.module shadowingModule.body] := by
    simp [shadowingModule_visits]
  have houter : Place.LeadsTo "flow_control" "break_if" [.module shadowingModule.body] [] :=
    .inside (by with_unfolding_all decide) (by with_unfolding_all decide) nofun .here
  refine ⟨fun v hv => ?_, fun v hv S hS hx => ?_⟩
  · rcases hplaces v hv with h | h
    · exact h ▸ .inside (by with_unfolding_all decide) (by with_unfolding_all decide) nofun houter
    · exact h ▸ houter
  · rcases hplaces v hv with h | h
    all_goals
      rw [h] at hS
      cases hS
    · decide
    · exact absurd hx (by with_unfolding_all decide)

/-- **A parameter is not taken for a macro**, although the module imports one by its name. -/
theorem calls_not_captured_shadowed : ∃ v ∈ shadowingModule.visits,
    v.callee? = some (.name ⟨4, 4⟩ "break_if" .load) ∧
      ("break_if", "break_if") ∈ moduleTable .default shadowingModule ∧
      shadowingModule.Regular "flow_control" "break_if" ∧
      shadowingModule.Rebinds "flow_control" "break_if" v.place ∧
      v.place.Shows "flow_control" "break_if" ∧
      v.invocation? .default = none ∧ v.misplaced? .default = none := by
  obtain ⟨-, -, hcalls, hshows⟩ := calls_not_captured .default shadowingModule
  have hvisit : (⟨shadowedPlace, .stmt (.simple ⟨4, 4, 4, 15⟩ (.expr shadowedCall))⟩ : Visit) ∈
      shadowingModule.visits := by
    simp [shadowingModule_visits]
  have hrebinds : shadowingModule.Rebinds "flow_control" "break_if" shadowedPlace :=
    ⟨_, hvisit, ⟨_, rfl, by decide⟩, rfl⟩
  have hplace := hshows _ hvisit "break_if" shadowingModule_regular hrebinds
  obtain ⟨hinvocation, hmisplaced, -⟩ :=
    hcalls _ hvisit (.name ⟨4, 4⟩ "break_if" .load) "break_if" rfl rfl hplace
  exact ⟨_, hvisit, rfl, by with_unfolding_all decide, shadowingModule_regular, hrebinds, hplace,
    hinvocation, hmisplaced⟩

/-! ## A name that is captured -/

/-- The element of a comprehension: a call of what the comprehension runs over. -/
def capturedCall : Expr :=
  .call ⟨3, 6⟩ (.name ⟨3, 6⟩ "break_if" .load) [.const ⟨3, 15⟩ (.int 1)] []

/-- The clause whose target has the name of a macro. -/
def capturingClause : Clause :=
  .mk false (.name ⟨3, 22⟩ "break_if" .store) (.name ⟨3, 34⟩ "fs" .load) []

/-- A module with the comprehension, which imports the macro as well. -/
def capturingModule : Module Empty :=
  ⟨[.simple ⟨1, 0, 1, 33⟩ (.importsFrom (some "flow_control") [⟨⟨1, 25⟩, "break_if", none⟩] 0),
    .simple ⟨3, 0, 3, 37⟩ (.assign [.name ⟨3, 0⟩ "ys" .store]
      (.comprehension ⟨3, 5⟩ .list capturedCall [capturingClause]))]⟩

/-- Where the call stands. -/
def capturedVisit : Visit :=
  ⟨[.comprehension [capturedCall] [capturingClause], .module capturingModule.body],
    .expr capturedCall⟩

theorem capturedVisit_mem : capturedVisit ∈ capturingModule.visits := by
  have hinner : capturedVisit ∈ capturedCall.visits capturedVisit.place := by
    rw [Expr.visits_eq]
    exact List.mem_cons_self
  have hcomprehension : capturedVisit ∈
      (Expr.comprehension ⟨3, 5⟩ .list capturedCall [capturingClause]).visits
        [.module capturingModule.body] := by
    rw [Expr.visits_eq]
    refine List.mem_cons_of_mem _ (List.mem_flatMap.2
      ⟨(capturedVisit.place, capturedCall), ?_, hinner⟩)
    exact List.mem_cons_self
  refine List.mem_append_right _ (List.mem_append_left _ (List.mem_append_left _ ?_))
  refine List.mem_cons_of_mem _ (List.mem_flatMap.2 ⟨_, ?_, hcomprehension⟩)
  exact List.mem_cons_of_mem _ List.mem_cons_self

/-- The target of the comprehension is taken for the macro, and its call is reported. -/
theorem capturedCall_reported : capturedVisit ∈ capturingModule.visits ∧
    capturedVisit.callee? = some (.name ⟨3, 6⟩ "break_if" .load) ∧
    capturingModule.Rebinds "flow_control" "break_if" capturedVisit.place ∧
    capturedVisit.misplaced? .default = some ⟨"break_if", ⟨3, 6⟩⟩ ∧
    misplacedCalls "flow_control" (.ofTable (moduleTable .default capturingModule))
      capturingModule.body = [⟨"break_if", ⟨3, 6⟩⟩] := by
  refine ⟨capturedVisit_mem, rfl, ⟨capturedVisit, capturedVisit_mem, ⟨_, rfl, ?_⟩, rfl⟩, ?_, ?_⟩
  · with_unfolding_all decide
  · with_unfolding_all decide
  · with_unfolding_all decide

end JumpMacros
