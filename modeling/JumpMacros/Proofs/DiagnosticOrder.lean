import JumpMacros.Diagnostic
import Mathlib.Data.Prod.Lex
import Mathlib.Data.String.Basic

/-!
# The order of diagnostics

**Theorem (`Diagnostic.sort_eq_sort`).** Diagnostics that were collected in two different orders
are reported in the same order, if the two agree on the diagnostics of each key.

Sorting is stable: it leaves the diagnostics of a key as they stood (`filter_key_sort`), and a
sorted list is put together from those of its keys in one way only.
-/

namespace JumpMacros

namespace Diagnostic

/-! ## Keys are in a linear order -/

/-- A key as a tuple. -/
def Key.tuple (k : Key) : String ×ₗ Int ×ₗ Int ×ₗ String :=
  toLex (k.file, toLex (k.line, toLex (k.col, k.code)))

theorem Key.le_iff (a b : Key) : a.le b = true ↔ a.tuple ≤ b.tuple := by
  simp only [Key.le, Key.tuple, Prod.Lex.toLex_le_toLex]
  by_cases hfile : a.file = b.file
  · by_cases hline : a.line = b.line
    · by_cases hcol : a.col = b.col
      · simp [hfile, hline, hcol]
      · simp [hfile, hline, hcol]
    · simp [hfile, hline]
  · simp [hfile]

/-- Whether a diagnostic may come before another. -/
abbrev upTo (a b : Diagnostic) : Bool := a.key.le b.key

theorem upTo_trans (a b c : Diagnostic) (hab : upTo a b = true) (hbc : upTo b c = true) :
    upTo a c = true :=
  (Key.le_iff _ _).2 (le_trans ((Key.le_iff _ _).1 hab) ((Key.le_iff _ _).1 hbc))

theorem upTo_total (a b : Diagnostic) : (upTo a b || upTo b a) = true := by
  rw [Bool.or_eq_true, Key.le_iff, Key.le_iff]
  exact le_total a.key.tuple b.key.tuple

theorem upTo_refl (a : Diagnostic) : upTo a a = true := by simpa using upTo_total a a

theorem key_eq_of_upTo {a b : Diagnostic} (hab : upTo a b = true) (hba : upTo b a = true) :
    a.key = b.key := by
  have h : a.key.tuple = b.key.tuple :=
    le_antisymm ((Key.le_iff _ _).1 hab) ((Key.le_iff _ _).1 hba)
  generalize a.key = k at h ⊢
  generalize b.key = k' at h ⊢
  obtain ⟨f, l, c, k⟩ := k
  obtain ⟨f', l', c', k'⟩ := k'
  simpa [Key.tuple] using h

/-! ## Sorted lists -/

/-- Diagnostics in the order in which they are reported. -/
abbrev Sorted (ds : List Diagnostic) : Prop := ds.Pairwise fun a b => upTo a b = true

theorem sorted_sort (ds : List Diagnostic) : Sorted (sort ds) :=
  List.pairwise_mergeSort upTo_trans upTo_total ds

theorem sort_perm (ds : List Diagnostic) : (sort ds).Perm ds := List.mergeSort_perm ds upTo

/-- The diagnostics with a key. -/
def ofKey (k : Key) (ds : List Diagnostic) : List Diagnostic := ds.filter fun d => d.key = k

theorem mem_ofKey {k : Key} {ds : List Diagnostic} {d : Diagnostic} :
    d ∈ ofKey k ds ↔ d ∈ ds ∧ d.key = k := by
  simp [ofKey]

/-- Lists that agree on each key have the same diagnostics. -/
theorem mem_iff_of_ofKey {ds ds' : List Diagnostic} (h : ∀ k, ofKey k ds = ofKey k ds')
    (d : Diagnostic) : d ∈ ds ↔ d ∈ ds' := by
  have hd : d ∈ ofKey d.key ds ↔ d ∈ ofKey d.key ds' := by rw [h]
  simpa [mem_ofKey] using hd

/-- The diagnostics of a key stay as they stood. -/
theorem ofKey_sort (k : Key) (ds : List Diagnostic) : ofKey k (sort ds) = ofKey k ds := by
  have hsame : Sorted (ofKey k ds) := by
    refine List.pairwise_of_forall_mem_list fun a ha b hb => ?_
    rw [upTo, (mem_ofKey.1 ha).2, ← (mem_ofKey.1 hb).2]
    exact upTo_refl b
  have hsub : (ofKey k ds).Sublist (sort ds) :=
    List.sublist_mergeSort upTo_trans upTo_total hsame List.filter_sublist
  have hfilter : (ofKey k ds).Sublist (ofKey k (sort ds)) := by
    simpa [ofKey] using hsub.filter fun d => decide (d.key = k)
  exact (hfilter.eq_of_length ((sort_perm ds).filter _).length_eq.symm).symm

/-- What comes first in a sorted list may come before all of it. -/
theorem upTo_of_sorted {a d : Diagnostic} {t : List Diagnostic} (h : Sorted (a :: t))
    (hd : d ∈ a :: t) : upTo a d = true := by
  rcases List.mem_cons.1 hd with rfl | hd
  · exact upTo_refl d
  · exact (List.pairwise_cons.1 h).1 d hd

/-- A sorted list is given by the diagnostics of each key. -/
theorem eq_of_sorted {ds ds' : List Diagnostic} (h : Sorted ds) (h' : Sorted ds')
    (hkeys : ∀ k, ofKey k ds = ofKey k ds') : ds = ds' := by
  have hmem := mem_iff_of_ofKey hkeys
  induction ds generalizing ds' with
  | nil =>
    cases ds' with
    | nil => rfl
    | cons b t' => exact absurd ((hmem b).2 List.mem_cons_self) List.not_mem_nil
  | cons a t ih =>
    cases ds' with
    | nil => exact absurd ((hmem a).1 List.mem_cons_self) List.not_mem_nil
    | cons b t' =>
      -- Both begin with a diagnostic of the least key, and with the first one of that key.
      have hkey : a.key = b.key := key_eq_of_upTo
        (upTo_of_sorted h ((hmem b).2 List.mem_cons_self))
        (upTo_of_sorted h' ((hmem a).1 List.mem_cons_self))
      have hhead := hkeys a.key
      simp only [ofKey, List.filter_cons, ← hkey, decide_true, if_true] at hhead
      obtain ⟨rfl, -⟩ := List.cons.inj hhead
      have htails (k : Key) : ofKey k t = ofKey k t' := by
        have hk := hkeys k
        simp only [ofKey, List.filter_cons] at hk ⊢
        split at hk
        · exact (List.cons.inj hk).2
        · exact hk
      exact congrArg _ (ih h.of_cons h'.of_cons htails (mem_iff_of_ofKey htails))

/-- **The order of collecting is of no matter** between diagnostics of different keys. -/
theorem sort_eq_sort {ds ds' : List Diagnostic} (h : ∀ k, ofKey k ds = ofKey k ds') :
    sort ds = sort ds' :=
  eq_of_sorted (sorted_sort ds) (sorted_sort ds') fun k => by rw [ofKey_sort, ofKey_sort, h]

/-! ## Diagnostics of two sorts -/

theorem ofKey_filterMap {α : Type} (k : Key) (f : α → Option Diagnostic) (xs : List α) :
    ofKey k (xs.filterMap f) = xs.filterMap fun x => (f x).filter fun d => d.key = k := by
  rw [ofKey, List.filter_filterMap]

/-- If none of one sort has a key, only those of the other sort are of that key. -/
theorem ofKey_filterMap_eq_nil {α : Type} {k : Key} {f : α → Option Diagnostic} {xs : List α}
    (h : ∀ x, (f x).filter (fun d => d.key = k) = none) : ofKey k (xs.filterMap f) = [] := by
  rw [ofKey_filterMap]
  exact List.filterMap_eq_nil_iff.2 fun x _ => h x

/-- Diagnostics of two sorts that share no keys can be collected one sort after the other. -/
theorem sort_append_filterMap {α : Type} {f g : α → Option Diagnostic} (xs : List α)
    (hone : ∀ x, f x = none ∨ g x = none)
    (hkeys : ∀ x y d d', f x = some d → g y = some d' → d.key ≠ d'.key) :
    sort (xs.filterMap f ++ xs.filterMap g) = sort (xs.filterMap fun x => f x <|> g x) := by
  refine sort_eq_sort fun k => ?_
  have happend : ofKey k (xs.filterMap f ++ xs.filterMap g) =
      ofKey k (xs.filterMap f) ++ ofKey k (xs.filterMap g) := List.filter_append ..
  rw [happend, ofKey_filterMap k (fun x => f x <|> g x)]
  by_cases hk : ∃ x d, f x = some d ∧ d.key = k
  · obtain ⟨x, d, hd, rfl⟩ := hk
    have hg (y : α) : (g y).filter (fun d' => d'.key = d.key) = none := by
      refine Option.filter_eq_none_iff.2 fun d' hd' => ?_
      simpa using (hkeys x y d d' hd hd').symm
    rw [ofKey_filterMap_eq_nil hg, List.append_nil, ofKey_filterMap]
    refine congrArg (xs.filterMap ·) (funext fun y => ?_)
    cases hy : f y with
    | some a => rfl
    | none => exact (hg y).symm
  · have hf (y : α) : (f y).filter (fun d => d.key = k) = none := by
      refine Option.filter_eq_none_iff.2 fun d hd => ?_
      simpa using fun h => hk ⟨y, d, hd, h⟩
    rw [ofKey_filterMap_eq_nil hf, List.nil_append, ofKey_filterMap]
    refine congrArg (xs.filterMap ·) (funext fun y => ?_)
    rcases hone y with hy | hy
    · simp [hy]
    · cases hfy : f y with
      | none => simp [hy]
      | some d =>
        rw [hy]
        exact (hfy ▸ hf y).symm

end Diagnostic

end JumpMacros
