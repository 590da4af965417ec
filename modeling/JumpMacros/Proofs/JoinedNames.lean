import JumpMacros.Proofs.FlagNames
import JumpMacros.Proofs.NormalForms
import JumpMacros.Text.Identifier
import Mathlib.Data.List.TakeWhile

/-!
# Normal forms of joined names

**Theorem (`normalForm_flagCandidate`).** The normal form of a flag's name is the name that is made
from the normal forms of its parts.

**Theorem (`isIdentifier_flagCandidate`).** A flag's name is an identifier if its parts are.

Normalising can move marks and compose across the place where two texts are joined. An ASCII
character stays what it is, stops the marks around it, and joins no character before it, so
normalising can be done separately before it and from it on. An underscore joins no character after
it either.
-/

namespace JumpMacros.Text

namespace Normal

/-! ## Decomposition and order -/

theorem decompose_of_ascii {a : Nat} (h : a < 128) : decompose a = [a] :=
  if_pos (by omega)

theorem combiningClass_of_ascii {a : Nat} (h : a < 128) : combiningClass a = 0 :=
  if_pos (by omega)

theorem insertMark_starter {a : Nat} (h : combiningClass a = 0) (ds : List Nat) :
    insertMark a ds = a :: ds := by
  cases ds <;> simp [insertMark, h]

/-- Marks are not inserted before a starter. -/
theorem insertMark_append {a : Nat} (h : combiningClass a = 0) (c : Nat) (us vs : List Nat) :
    insertMark c (us ++ a :: vs) = insertMark c us ++ a :: vs := by
  induction us with
  | nil => simp [insertMark, h]
  | cons d us ih =>
    simp only [List.cons_append, insertMark]
    split
    · rw [ih, List.cons_append]
    · rfl

theorem foldl_insertMark_append {a : Nat} (h : combiningClass a = 0) (cs us vs : List Nat) :
    cs.foldl (fun seen c => insertMark c seen) (us ++ a :: vs) =
      cs.foldl (fun seen c => insertMark c seen) us ++ a :: vs := by
  induction cs generalizing us with
  | nil => rfl
  | cons c cs ih => rw [List.foldl_cons, List.foldl_cons, insertMark_append h, ih]

/-- Marks are put in order on either side of a starter. -/
theorem order_append {a : Nat} (h : combiningClass a = 0) (us vs : List Nat) :
    order (us ++ a :: vs) = order us ++ a :: order vs := by
  unfold order
  rw [List.foldl_append, List.foldl_cons, insertMark_starter h]
  have hsplit := foldl_insertMark_append h vs [] (us.foldl (fun seen c => insertMark c seen) [])
  rw [List.nil_append] at hsplit
  simp [hsplit]

/-! ## Composition -/

theorem compositions_not_ascii : (compositions.all fun e => 128 ≤ e.2.1) = true := by
  decide +kernel

theorem compositions_no_underscore : (compositions.all fun e => e.1 != 0x5f) = true := by
  decide +kernel

theorem composePair_ascii (s : Nat) {a : Nat} (h : a < 128) : composePair s a = none := by
  have hhangul : composeHangul s a = none := by
    unfold composeHangul vowelBase trailBase
    rw [if_neg (by simp; omega), if_neg (by simp; omega)]
  rw [composePair, hhangul]
  refine Option.map_eq_none_iff.2 (List.find?_eq_none.2 ?_)
  rintro ⟨x, y, c⟩ he
  have hmark : 128 ≤ y := of_decide_eq_true (List.all_eq_true.1 compositions_not_ascii _ he)
  simp only [Bool.and_eq_true, beq_iff_eq, not_and]
  omega

theorem composePair_underscore (c : Nat) : composePair 0x5f c = none := by
  have hhangul : composeHangul 0x5f c = none := by
    unfold composeHangul leadBase isHangul hangulBase
    rw [if_neg (by simp), if_neg (by simp)]
  rw [composePair, hhangul]
  refine Option.map_eq_none_iff.2 (List.find?_eq_none.2 fun e he => ?_)
  have hne := List.all_eq_true.1 compositions_no_underscore e he
  simp_all

namespace Open

/-- An open composition with more code points finished before all others. -/
def after (o : Open) (front : List Nat) : Open := { o with finished := o.finished ++ front }

theorem flush_after (o : Open) (front : List Nat) : (o.after front).flush = o.flush ++ front := by
  simp [after, flush]

/-- What a code point makes of the starter that it joins. -/
def joined? (o : Open) (c : Nat) : Option Nat :=
  match o.starter with
  | some s =>
    if (match o.marks with
      | [] => false
      | m :: _ => combiningClass m ≥ combiningClass c) then none
    else composePair s c
  | none => none

theorem push_eq (o : Open) (c : Nat) : o.push c =
    match o.joined? c with
    | some s => { o with starter := some s }
    | none =>
      if combiningClass c = 0 then ⟨o.flush, some c, []⟩ else { o with marks := c :: o.marks } :=
  rfl

theorem push_after (o : Open) (front : List Nat) (c : Nat) :
    (o.after front).push c = (o.push c).after front := by
  have hjoined : (o.after front).joined? c = o.joined? c := rfl
  rw [push_eq, push_eq, hjoined, flush_after]
  cases o.joined? c with
  | some s => rfl
  | none =>
    dsimp only
    split <;> rfl

theorem foldl_push_after (o : Open) (front cs : List Nat) :
    cs.foldl push (o.after front) = (cs.foldl push o).after front := by
  induction cs generalizing o with
  | nil => rfl
  | cons c cs ih => rw [List.foldl_cons, List.foldl_cons, push_after, ih]

/-- An ASCII character starts anew. -/
theorem push_ascii (o : Open) {a : Nat} (h : a < 128) :
    o.push a = (⟨[], some a, []⟩ : Open).after o.flush := by
  have hjoined : o.joined? a = none := by
    unfold joined?
    split
    · rw [composePair_ascii _ h, ite_self]
    · rfl
  rw [push_eq, hjoined]
  exact if_pos (combiningClass_of_ascii h)

/-- What follows an underscore is composed as if nothing stood before it. -/
theorem foldl_push_underscore (ms cs : List Nat) :
    (cs.foldl push ⟨[], some 0x5f, ms⟩).flush = (cs.foldl push ⟨[], none, ms⟩).flush ++ [0x5f] := by
  induction cs generalizing ms with
  | nil => simp [flush]
  | cons c cs ih =>
    rw [List.foldl_cons, List.foldl_cons]
    by_cases hk : combiningClass c = 0
    · have hfirst : (⟨[], some 0x5f, ms⟩ : Open).push c =
          ((⟨[], none, ms⟩ : Open).push c).after [0x5f] := by
        simp [push, hk, composePair_underscore, after, flush]
      rw [hfirst, foldl_push_after, flush_after]
    · have hmark (s : Option Nat) (hs : s = some 0x5f ∨ s = none) :
          (⟨[], s, ms⟩ : Open).push c = ⟨[], s, c :: ms⟩ := by
        rcases hs with rfl | rfl <;> simp [push, hk, composePair_underscore]
      rw [hmark _ (.inl rfl), hmark _ (.inr rfl), ih]

end Open

theorem compose_append {a : Nat} (h : a < 128) (us vs : List Nat) :
    compose (us ++ a :: vs) = compose us ++ compose (a :: vs) := by
  unfold compose
  rw [List.foldl_append, List.foldl_cons, List.foldl_cons, Open.push_ascii _ h,
    Open.foldl_push_after, Open.flush_after, Open.push_ascii _ h, Open.foldl_push_after,
    Open.flush_after]
  simp [Open.flush]

theorem compose_underscore (vs : List Nat) : compose (0x5f :: vs) = 0x5f :: compose vs := by
  have hpush : (⟨[], none, []⟩ : Open).push 0x5f = ⟨[], some 0x5f, []⟩ :=
    Open.push_ascii _ (by omega)
  rw [compose, List.foldl_cons, hpush, Open.foldl_push_underscore]
  simp [compose]

/-! ## Normal forms -/

theorem order_cons {a : Nat} (h : a < 128) (vs : List Nat) : order (a :: vs) = a :: order vs :=
  order_append (combiningClass_of_ascii h) [] vs

/-- Normalising is done separately before an ASCII character and from it on. -/
theorem normalise_append {a : Nat} (h : a < 128) (us vs : List Nat) :
    normalise (us ++ a :: vs) = normalise us ++ normalise (a :: vs) := by
  unfold normalise
  rw [List.flatMap_append, List.flatMap_cons, decompose_of_ascii h, List.singleton_append,
    order_append (combiningClass_of_ascii h), compose_append h, order_cons h]

theorem normalise_underscore (vs : List Nat) : normalise (0x5f :: vs) = 0x5f :: normalise vs := by
  have h : 0x5f < 128 := by omega
  unfold normalise
  rw [List.flatMap_cons, decompose_of_ascii h, List.singleton_append, order_cons h,
    compose_underscore]

theorem normalise_ascii {cs : List Nat} (h : ∀ c ∈ cs, c < 128) : normalise cs = cs := by
  induction cs with
  | nil => rfl
  | cons a cs ih =>
    obtain ⟨ha, hcs⟩ := List.forall_mem_cons.1 h
    have hone : normalise [a] = [a] := by
      rw [normalise, List.flatMap_singleton, decompose_of_ascii ha, order_cons ha, compose,
        List.foldl_cons, Open.push_ascii _ ha]
      rfl
    cases cs with
    | nil => exact hone
    | cons b cs =>
      rw [← List.singleton_append, normalise_append (List.forall_mem_cons.1 hcs).1, hone, ih hcs]

end Normal

/-! ## Joined texts -/

/-- The normal form by its code points, also of an ASCII text. -/
theorem normalForm_eq (s : String) : normalForm s =
    String.ofList ((Normal.normalise (s.toList.map Char.toNat)).map Char.ofNat) := by
  unfold normalForm
  split
  · rename_i h
    have hascii : ∀ c ∈ s.toList.map Char.toNat, c < 128 :=
      List.forall_mem_map.2 fun c hc => of_decide_eq_true (List.all_eq_true.1 h c hc)
    simp [Normal.normalise_ascii hascii, Function.comp_def, Char.ofNat_toNat]
  · rfl

theorem normalForm_ascii {s : String} (h : ∀ c ∈ s.toList, c.toNat < 128) : normalForm s = s :=
  if_pos (by simpa using h)

/-- Texts are normalised separately if the second begins with an ASCII character. -/
theorem normalForm_append {x y : String} (hy : ∀ c ∈ y.toList.head?, c.toNat < 128) :
    normalForm (x ++ y) = normalForm x ++ normalForm y := by
  rw [normalForm_eq, normalForm_eq x, normalForm_eq y, String.toList_append, ← String.ofList_append,
    ← List.map_append, List.map_append]
  cases hcs : y.toList with
  | nil => simp [Normal.normalise_ascii]
  | cons c cs =>
    rw [hcs] at hy
    rw [List.map_cons, Normal.normalise_append (hy c rfl)]

theorem normalForm_underscore (y : String) : normalForm ("_" ++ y) = "_" ++ normalForm y := by
  have hcodes : ("_" ++ y).toList.map Char.toNat = 0x5f :: y.toList.map Char.toNat := by
    rw [String.toList_append]
    rfl
  rw [normalForm_eq, hcodes, Normal.normalise_underscore, normalForm_eq y, List.map_cons,
    ← List.singleton_append, String.ofList_append]

/-! ## Identifiers -/

/-- What is dropped on the way was dropped for one of the reasons. -/
theorem exists_of_foldl_dropWhile {α β : Type} {p : β → α → Bool} {qs : List β} {rs : List α}
    (h : qs.foldl (fun rs q => rs.dropWhile (p q)) rs = []) {r : α} (hr : r ∈ rs) :
    ∃ q ∈ qs, p q r = true := by
  induction qs generalizing rs with
  | nil =>
    obtain rfl : rs = [] := h
    cases hr
  | cons q qs ih =>
    rw [← List.takeWhile_append_dropWhile (p := p q) (l := rs), List.mem_append] at hr
    rcases hr with hr | hr
    · exact ⟨q, List.mem_cons_self, List.mem_takeWhile_imp hr⟩
    · obtain ⟨q', hq', hp⟩ := ih h hr
      exact ⟨q', List.mem_cons_of_mem q hq', hp⟩

/-- Going through both tables once, each range of the first lies in one of the second. -/
theorem startRanges_continue : (continueRanges.foldl
    (fun rs q => rs.dropWhile fun r => q.1 ≤ r.1 && r.2 ≤ q.2) startRanges) = [] := by
  decide +kernel

/-- What may start an identifier may also go on with one. -/
theorem isIdentRest_of_isIdentStart {c : Char} (h : isIdentStart c = true) :
    isIdentRest c = true := by
  unfold isIdentStart at h
  unfold isIdentRest
  split at h
  · rename_i hc
    rw [if_pos hc]
    simp only [Char.isAlphanum, Bool.or_eq_true] at h ⊢
    tauto
  · rename_i hc
    rw [if_neg hc]
    obtain ⟨r, hr, hin⟩ := List.any_eq_true.1 h
    obtain ⟨q, hq, hsub⟩ := exists_of_foldl_dropWhile startRanges_continue hr
    refine List.any_eq_true.2 ⟨q, hq, ?_⟩
    simp only [Bool.and_eq_true, decide_eq_true_eq] at hin hsub ⊢
    omega

theorem isIdentifier_iff {x : String} : isIdentifier x = true ↔
    ∃ c cs, x.toList = c :: cs ∧ isIdentStart c = true ∧ ∀ d ∈ cs, isIdentRest d = true := by
  unfold isIdentifier
  cases x.toList with
  | nil => simp [isIdentChars]
  | cons c cs => simp [isIdentChars]

theorem isIdentRest_of_isIdentifier {x : String} (h : isIdentifier x = true) :
    ∀ c ∈ x.toList, isIdentRest c = true := by
  obtain ⟨c, cs, hcs, hc, hrest⟩ := isIdentifier_iff.1 h
  exact hcs ▸ List.forall_mem_cons.2 ⟨isIdentRest_of_isIdentStart hc, hrest⟩

/-- No full stop is part of an identifier. -/
theorem no_stop_of_isIdentifier {x : String} (h : isIdentifier x = true) : '.' ∉ x.toList := by
  intro hstop
  exact absurd (isIdentRest_of_isIdentifier h '.' hstop) (by decide)

theorem isIdentifier_append {x y : String} (hx : isIdentifier x = true)
    (hy : ∀ c ∈ y.toList, isIdentRest c = true) : isIdentifier (x ++ y) = true := by
  obtain ⟨c, cs, hcs, hc, hrest⟩ := isIdentifier_iff.1 hx
  refine isIdentifier_iff.2 ⟨c, cs ++ y.toList, ?_, hc, List.forall_mem_append.2 ⟨hrest, hy⟩⟩
  rw [String.toList_append, hcs, List.cons_append]

end Text

/-! ## Names of flags -/

open Text (normalForm isIdentifier)

/-- What a number adds to a name. -/
theorem suffix_isDigit (n : Nat) :
    ∀ c ∈ ("_" ++ toString n).toList, c = '_' ∨ c.isDigit = true := by
  rw [String.toList_append, List.forall_mem_append]
  refine ⟨by simp, fun c hc => .inr ?_⟩
  have hdigits : (toString n).toList = Nat.toDigits 10 n := Nat.toList_repr
  exact Nat.isDigit_of_mem_toDigits (by omega) (by omega) (hdigits ▸ hc)

theorem flagCandidate_succ (base : String) (n : Nat) :
    flagCandidate base (n + 1) = base ++ ("_" ++ toString (n + 1)) := by
  rw [flagCandidate, String.append_assoc]

/-- **The normal form of a flag** is made from the normal forms of its parts. -/
theorem normalForm_flagCandidate (flagPrefix label : String) (k : JumpKind) (i : Nat) :
    normalForm (flagCandidate (flagBase flagPrefix k.name label) i) =
      flagCandidate (flagBase (normalForm flagPrefix) k.name (normalForm label)) i := by
  have hbase : normalForm (flagBase flagPrefix k.name label) =
      flagBase (normalForm flagPrefix) k.name (normalForm label) := by
    have hkind : normalForm (k.name ++ ("_" ++ label)) = k.name ++ ("_" ++ normalForm label) := by
      rw [Text.normalForm_append (by simp), Text.normalForm_underscore]
      cases k <;> rfl
    have hhead : ∀ c ∈ (k.name ++ ("_" ++ label)).toList.head?, c.toNat < 128 := by
      cases k <;> simp [JumpKind.name]
    simp only [flagBase, String.append_assoc]
    rw [Text.normalForm_append hhead, hkind]
  cases i with
  | zero => exact hbase
  | succ n =>
    have hascii : ∀ c ∈ ("_" ++ toString (n + 1)).toList, c.toNat < 128 := fun c hc => by
      rcases suffix_isDigit _ c hc with rfl | hdigit
      · decide
      · simp [Char.isDigit, UInt32.le_iff_toNat_le] at hdigit
        omega
    rw [flagCandidate_succ, flagCandidate_succ,
      Text.normalForm_append (by simp), hbase, Text.normalForm_ascii hascii]

/-- **A flag is an identifier** if its prefix and its label are. -/
theorem isIdentifier_flagCandidate {flagPrefix label : String} (hp : isIdentifier flagPrefix = true)
    (hl : isIdentifier label = true) (k : JumpKind) (i : Nat) :
    isIdentifier (flagCandidate (flagBase flagPrefix k.name label) i) = true := by
  have hbase : isIdentifier (flagBase flagPrefix k.name label) = true := by
    have hkind : (k.name.toList.all Text.isIdentRest) = true := by cases k <;> decide
    have hline : ("_".toList.all Text.isIdentRest) = true := by decide
    exact Text.isIdentifier_append
      (Text.isIdentifier_append (Text.isIdentifier_append hp (List.all_eq_true.1 hkind))
        (List.all_eq_true.1 hline))
      (Text.isIdentRest_of_isIdentifier hl)
  cases i with
  | zero => exact hbase
  | succ n =>
    rw [flagCandidate_succ]
    refine Text.isIdentifier_append hbase fun c hc => ?_
    rcases suffix_isDigit _ c hc with rfl | hdigit
    · rfl
    · have hlt : c.toNat < 128 := by
        simp [Char.isDigit, UInt32.le_iff_toNat_le] at hdigit
        omega
      simp [Text.isIdentRest, hlt, Char.isAlphanum, hdigit]

end JumpMacros
