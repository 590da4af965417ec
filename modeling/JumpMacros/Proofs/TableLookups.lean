import JumpMacros.Proofs.Lookups
import JumpMacros.Proofs.ShrunkScopes
import Mathlib.Data.List.Nodup

/-!
# Lookups in tables

A table is filled entry by entry, and a later entry replaces an earlier one for the same spelling
(`Table.lookup_insertAll`). The bindings that a scan of a scope finds are entered in their order,
implicit names macro by macro in the order of names.

**Theorem (`lookup_implicitTable`).** Of all macros that list a spelling, the last in the order of
names has it.
-/

namespace JumpMacros

open Text (rootOf)

/-! ## Lookups in tables -/

namespace Table

variable {t : Table} {sp : String}

theorem lookup_insert (s m : String) :
    (t.insert s m).lookup sp = if sp = s then some m else t.lookup sp := by
  unfold insert
  by_cases h : sp = s
  · subst h
    rw [List.lookup_cons_self, if_pos rfl]
  · have hne : (sp == s) = false := by simpa using h
    rw [List.lookup_cons, hne, if_neg h]
    exact lookup_filter_key (p := fun x => x != s) (by simpa using h)

theorem lookup_without (names : List String) :
    (t.without names).lookup sp = if rootOf sp ∈ names then none else t.lookup sp := by
  unfold without
  by_cases h : rootOf sp ∈ names
  · rw [if_pos h, lookup_eq_none]
    intro hmem
    obtain ⟨e, he, rfl⟩ := List.mem_map.1 hmem
    simp [h] at he
  · rw [if_neg h]
    exact lookup_filter_key (p := fun s => !names.contains (rootOf s)) (by simpa using h)

/-- Makes spellings denote macros, one after the other. -/
def insertAll (t : Table) (es : List (String × String)) : Table :=
  es.foldl (fun t e => t.insert e.1 e.2) t

theorem insertAll_cons (e : String × String) (es : List (String × String)) :
    t.insertAll (e :: es) = (t.insert e.1 e.2).insertAll es := rfl

/-- The last entry for a spelling counts. -/
theorem lookup_insertAll (es : List (String × String)) :
    (t.insertAll es).lookup sp = (es.reverse.lookup sp).or (t.lookup sp) := by
  induction es generalizing t with
  | nil => rfl
  | cons e es ih =>
    rw [insertAll_cons, ih, lookup_insert, List.reverse_cons, List.lookup_append, Option.or_assoc]
    congr 1
    rw [List.lookup_cons]
    by_cases h : sp = e.1
    · subst h
      simp
    · have hne : (sp == e.1) = false := by simpa using h
      rw [if_neg h, hne]
      rfl

/-- Entries for different spellings all stay. -/
theorem mem_insertAll {es : List (String × String)} (hes : (es.map Prod.fst).Nodup)
    (ht : ∀ e ∈ es, ∀ e' ∈ t, e'.1 ≠ e.1) {e : String × String} :
    e ∈ t.insertAll es ↔ e ∈ t ∨ e ∈ es := by
  induction es generalizing t with
  | nil => simp [insertAll]
  | cons e' es ih =>
    rw [List.map_cons, List.nodup_cons] at hes
    have hkept : t.filter (fun e => e.1 != e'.1) = t :=
      List.filter_eq_self.2 fun e he => by simpa using ht e' List.mem_cons_self e he
    have hins : t.insert e'.1 e'.2 = e' :: t := by rw [insert, hkept]
    rw [insertAll_cons, hins, ih hes.2, List.mem_cons, List.mem_cons]
    · tauto
    · intro d hd d' hd'
      rcases List.mem_cons.1 hd' with rfl | hd'
      · exact fun heq => hes.1 (heq ▸ List.mem_map_of_mem hd)
      · exact ht d (List.mem_cons_of_mem _ hd) d' hd'

end Table

/-! ## Entering bindings -/

section

variable {sp : String}

/-- The name that a binding is about. -/
def Binding.root : Binding → String
  | .denotes sp _ => rootOf sp
  | .binds n => n

/-- The spellings that bindings make denote macros. -/
def Binding.entry? : Binding → Option (String × String)
  | .denotes spelling name => some (spelling, name)
  | .binds _ => none

theorem addDenoted_eq (t : Table) (bs : List Binding) :
    addDenoted t bs = t.insertAll (bs.filterMap Binding.entry?) := by
  induction bs generalizing t with
  | nil => rfl
  | cons b bs ih =>
    cases b with
    | denotes spelling name => exact ih (t.insert spelling name)
    | binds name => exact ih t

theorem addDenoted_append (t : Table) (bs bs' : List Binding) :
    addDenoted t (bs ++ bs') = addDenoted (addDenoted t bs) bs' := List.foldl_append

/-- Imports of other names do not count for a spelling. -/
theorem lookup_addDenoted_of_root {bs : List Binding} (t : Table)
    (h : ∀ b ∈ bs, b.root ≠ rootOf sp) : (addDenoted t bs).lookup sp = t.lookup sp := by
  induction bs generalizing t with
  | nil => rfl
  | cons b bs ih =>
    obtain ⟨hb, hbs⟩ := List.forall_mem_cons.1 h
    cases b with
    | binds n => exact ih t hbs
    | denotes sp' m =>
      refine (ih (t.insert sp' m) hbs).trans ?_
      rw [Table.lookup_insert, if_neg]
      rintro rfl
      exact hb rfl

end

/-! ## Implicit names -/

/-- A spelling is among the implicit names of a macro. -/
def Settings.Lists (s : Settings) (macroName sp : String) : Prop :=
  ∃ sps, (macroName, sps) ∈ s.implicitNames ∧ sp ∈ sps

/-- The entries of the implicit names, each a spelling with a macro, in the order in which they
replace each other: the last comes first. -/
def Settings.implicitEntries (s : Settings) : List (String × String) :=
  ((s.implicitNames.mergeSort fun a b => a.1 ≤ b.1).flatMap fun e => e.2.map fun x => (x, e.1)).reverse

theorem mem_implicitEntries {s : Settings} {m sp : String} :
    (sp, m) ∈ s.implicitEntries ↔ s.Lists m sp := by
  simp [Settings.implicitEntries, Settings.Lists, and_comm]

theorem lookup_implicitTable_eq (s : Settings) (sp : String) :
    s.implicitTable.lookup sp = s.implicitEntries.lookup sp := by
  have htable : s.implicitTable = Table.insertAll [] s.implicitEntries.reverse := by
    simp only [Settings.implicitTable, Table.insertAll, Settings.implicitEntries,
      List.reverse_reverse, List.foldl_flatMap, List.foldl_map]
  rw [htable, Table.lookup_insertAll, List.reverse_reverse, List.lookup_nil, Option.or_none]

theorem implicitEntries_sorted (s : Settings) :
    s.implicitEntries.Pairwise fun a b => b.2 ≤ a.2 := by
  have hsorted : (s.implicitNames.mergeSort fun a b => a.1 ≤ b.1).Pairwise
      fun a b => a.1 ≤ b.1 := by
    have htrans (a b c : String × List String) (hab : decide (a.1 ≤ b.1) = true)
        (hbc : decide (b.1 ≤ c.1) = true) : decide (a.1 ≤ c.1) = true := by
      simp only [decide_eq_true_eq] at hab hbc ⊢
      exact String.le_trans hab hbc
    have htotal (a b : String × List String) :
        (decide (a.1 ≤ b.1) || decide (b.1 ≤ a.1)) = true := by
      simpa using String.le_total a.1 b.1
    simpa using List.pairwise_mergeSort htrans htotal s.implicitNames
  rw [Settings.implicitEntries, List.pairwise_reverse, List.pairwise_flatMap]
  refine ⟨fun e _ => ?_, hsorted.imp fun {a b} hab x hx y hy => ?_⟩
  · exact List.pairwise_map.2 (List.pairwise_of_forall fun _ _ => String.le_refl e.1)
  · obtain ⟨_, -, rfl⟩ := List.mem_map.1 hx
    obtain ⟨_, -, rfl⟩ := List.mem_map.1 hy
    exact hab

/-- **Of all macros that list a spelling, the last in the order of names has it.** -/
theorem lookup_implicitTable {s : Settings} {sp m : String} :
    s.implicitTable.lookup sp = some m ↔ s.Lists m sp ∧ ∀ m', s.Lists m' sp → m' ≤ m := by
  rw [lookup_implicitTable_eq, lookup_eq_some_of_sorted (implicitEntries_sorted s)]
  simp only [mem_implicitEntries]

/-- Settings that list a spelling for the same macros resolve it alike. -/
theorem lookup_implicitTable_congr {s s' : Settings} {sp : String}
    (h : ∀ m, s'.Lists m sp ↔ s.Lists m sp) :
    s'.implicitTable.lookup sp = s.implicitTable.lookup sp :=
  Option.ext fun m => by simp only [lookup_implicitTable, h]

theorem lookup_implicitTable_eq_none {s : Settings} {sp : String} :
    s.implicitTable.lookup sp = none ↔ ∀ m, ¬ s.Lists m sp := by
  rw [lookup_implicitTable_eq, List.lookup_eq_none_iff]
  constructor
  · intro h m hm
    simpa using h _ (mem_implicitEntries.2 hm)
  · rintro h ⟨x, m⟩ he
    rw [bne_iff_ne]
    rintro rfl
    exact h m (mem_implicitEntries.1 he)

end JumpMacros
