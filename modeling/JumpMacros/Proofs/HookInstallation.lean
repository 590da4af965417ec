import JumpMacros.Hook
import Mathlib.Data.List.Count

/-!
# The hook is installed at most once

Whether the hook is installed is kept twice: it is known, and it stands among the finders that are
asked. Other code sees the finders and can take the hook out without making it forgotten.

**State (`HookHistory`).** The finders, and every finder that installing has given so far with the
settings of the call that gave it first.

**Invariant (`HookHistory.Sound`).** A finder that installing gave is asked only if it is the one
that is known, and at most once. Numbers in use are below the next one, so that a new finder is none
of those that are asked or were given.

**Step (`HookHistory.Sound.step`).** The invariant survives installing, uninstalling, and whatever
other code puts in or takes out.

**Result (`HookHistory.hook_once`).** At every point of every run the hook is installed at most
once, and installing and uninstalling leave the finders of others as they are.
-/

namespace JumpMacros

namespace Finders

variable {f : Finders} {h : Finder}

theorem isInstalled_iff : f.isInstalled = true ↔ ∃ h, f.hook = some h ∧ h ∈ f.order := by
  unfold isInstalled
  cases f.hook <;> simp

/-- While the hook is installed, it is what installing gives, and nothing changes. -/
theorem install_of_mem (hhook : f.hook = some h) (hmem : h ∈ f.order) (s : Settings) :
    f.install s = (f, h) := by
  simp [install, hhook, hmem]

/-- While the hook is not installed, a new one is put in front. -/
theorem install_of_not_installed (hnot : ¬f.isInstalled = true) (s : Settings) :
    f.install s = (⟨.expanding f.next s :: f.order, some (.expanding f.next s), f.next + 1⟩,
      .expanding f.next s) := by
  rw [isInstalled_iff] at hnot
  unfold install
  cases hhook : f.hook with
  | none => rfl
  | some h =>
    have hmem : h ∉ f.order := fun hmem => hnot ⟨h, hhook, hmem⟩
    simp only [List.contains_iff_mem, hmem, if_false]
    rfl

end Finders

/-- The finders, and each finder that installing has given, with the settings it was first given
for. -/
structure HookHistory where
  finders : Finders
  given : List (Finder × Settings)

namespace HookHistory

/-- Whether installing gave a finder at some time. -/
def own (w : HookHistory) (x : Finder) : Bool := w.given.any fun g => g.1 == x

/-- How often a finder that installing gave is asked. -/
def ownCount (w : HookHistory) : Nat := w.finders.order.countP w.own

/-- The finders of others, in the order in which they are asked. -/
def others (w : HookHistory) : List Finder := w.finders.order.filter fun x => !w.own x

def install (w : HookHistory) (s : Settings) : HookHistory where
  finders := (w.finders.install s).1
  given :=
    if w.own (w.finders.install s).2 then w.given else ((w.finders.install s).2, s) :: w.given

def uninstall (w : HookHistory) : HookHistory := { w with finders := w.finders.uninstall }

/-- What can happen to the finders. Other code can make expanding finders too. It inserts finders
that are not from installing anywhere, and removes any. -/
inductive Step : HookHistory → HookHistory → Prop where
  | install (w : HookHistory) (s : Settings) : Step w (w.install s)
  | uninstall (w : HookHistory) : Step w w.uninstall
  | make (w : HookHistory) :
    Step w { w with finders := { w.finders with next := w.finders.next + 1 } }
  | insert {w : HookHistory} (front back : List Finder) (x : Finder) :
    w.finders.order = front ++ back → w.own x = false →
    (∀ n s, x = .expanding n s → n < w.finders.next) →
    Step w { w with finders := { w.finders with order := front ++ x :: back } }
  | remove {w : HookHistory} (front back : List Finder) (x : Finder) :
    w.finders.order = front ++ x :: back →
    Step w { w with finders := { w.finders with order := front ++ back } }

/-- The states that are reached from one in which the hook was never installed. -/
inductive Reachable : HookHistory → Prop where
  | start (f : Finders) : f.hook = none → (∀ n s, .expanding n s ∈ f.order → n < f.next) →
    Reachable ⟨f, []⟩
  | step {w w' : HookHistory} : Reachable w → Step w w' → Reachable w'

/-! ## The invariant -/

structure Sound (w : HookHistory) : Prop where
  asked_below : ∀ n s, .expanding n s ∈ w.finders.order → n < w.finders.next
  given_below : ∀ x s, (x, s) ∈ w.given → ∃ n < w.finders.next, x = .expanding n s
  known_own : ∀ h, w.finders.hook = some h → w.own h = true
  own_known : ∀ x ∈ w.finders.order, w.own x = true → w.finders.hook = some x
  once : ∀ h, w.finders.hook = some h → w.finders.order.count h ≤ 1

variable {w w' : HookHistory}

theorem own_iff {x : Finder} : w.own x = true ↔ ∃ s, (x, s) ∈ w.given := by
  simp [own]

namespace Sound

theorem not_own_next (h : w.Sound) (s : Settings) :
    w.own (.expanding w.finders.next s) = false := by
  rw [Bool.eq_false_iff, ne_eq, own_iff]
  rintro ⟨s', hgiven⟩
  obtain ⟨n, hn, heq⟩ := h.given_below _ _ hgiven
  cases heq
  exact Nat.lt_irrefl _ hn

theorem next_not_asked (h : w.Sound) (s : Settings) :
    .expanding w.finders.next s ∉ w.finders.order :=
  fun hmem => Nat.lt_irrefl _ (h.asked_below _ _ hmem)

/-- What installing does, while the hook is installed and while it is not. -/
theorem install_eq (h : w.Sound) (s : Settings) :
    (w.finders.isInstalled = true ∧ w.install s = w) ∨
      (¬w.finders.isInstalled = true ∧ w.install s =
        ⟨⟨.expanding w.finders.next s :: w.finders.order, some (.expanding w.finders.next s),
          w.finders.next + 1⟩, (.expanding w.finders.next s, s) :: w.given⟩) := by
  by_cases hin : w.finders.isInstalled = true
  · obtain ⟨x, hhook, hmem⟩ := Finders.isInstalled_iff.1 hin
    refine .inl ⟨hin, ?_⟩
    rw [install, Finders.install_of_mem hhook hmem, if_pos (h.known_own x hhook)]
  · refine .inr ⟨hin, ?_⟩
    rw [install, Finders.install_of_not_installed hin, h.not_own_next]
    rfl

theorem install (h : w.Sound) (s : Settings) : (w.install s).Sound := by
  obtain ⟨-, heq⟩ | ⟨hin, heq⟩ := h.install_eq s
  · rw [heq]
    exact h
  rw [heq]
  refine ⟨?_, ?_, ?_, ?_, ?_⟩
  · intro n s' hmem
    obtain heq | hmem := List.mem_cons.1 hmem
    · cases heq
      exact Nat.lt_succ_self _
    · exact Nat.lt_succ_of_lt (h.asked_below n s' hmem)
  · intro x s' hmem
    obtain heq | hmem := List.mem_cons.1 hmem
    · cases heq
      exact ⟨_, Nat.lt_succ_self _, rfl⟩
    · obtain ⟨n, hn, rfl⟩ := h.given_below x s' hmem
      exact ⟨n, Nat.lt_succ_of_lt hn, rfl⟩
  · intro x hx
    cases hx
    exact own_iff.2 ⟨s, List.mem_cons_self⟩
  · intro x hmem hown
    obtain rfl | hmem := List.mem_cons.1 hmem
    · rfl
    · -- one that is asked already would be the known one, and the hook would be installed
      obtain ⟨s', hgiven⟩ := own_iff.1 hown
      obtain heq | hgiven := List.mem_cons.1 hgiven
      · cases heq
        rfl
      · have hhook := h.own_known x hmem (own_iff.2 ⟨s', hgiven⟩)
        exact absurd (Finders.isInstalled_iff.2 ⟨x, hhook, hmem⟩) hin
  · intro x hx
    cases hx
    have hcount : List.count (Finder.expanding w.finders.next s)
        (.expanding w.finders.next s :: w.finders.order) = 1 := by
      rw [List.count_cons_self, List.count_eq_zero.2 (h.next_not_asked s)]
    exact Nat.le_of_eq hcount

/-- Taking finders out keeps the invariant, and so does forgetting a hook that is not asked. -/
theorem of_sublist (h : w.Sound) {order : List Finder} {hook : Option Finder}
    (horder : order.Sublist w.finders.order)
    (hhook : ∀ x, hook = some x → w.finders.hook = some x)
    (hknown : ∀ x ∈ order, w.finders.hook = some x → hook = some x) :
    Sound ⟨⟨order, hook, w.finders.next⟩, w.given⟩ where
  asked_below n s hmem := h.asked_below n s (horder.subset hmem)
  given_below := h.given_below
  known_own x hx := h.known_own x (hhook x hx)
  own_known x hmem hown := hknown x hmem (h.own_known x (horder.subset hmem) hown)
  once x hx := Nat.le_trans (horder.count_le x) (h.once x (hhook x hx))

theorem uninstall (h : w.Sound) : w.uninstall.Sound := by
  unfold HookHistory.uninstall Finders.uninstall
  cases hhook : w.finders.hook with
  | none => exact h
  | some x =>
    refine h.of_sublist List.erase_sublist (by simp) fun y hmem hy => ?_
    obtain rfl : x = y := Option.some.inj (hhook.symm.trans hy)
    have hcount : 0 < (w.finders.order.erase x).count x := List.count_pos_iff.2 hmem
    have honce := h.once x hhook
    rw [List.count_erase_self] at hcount
    omega

/-- **Whatever happens to the finders keeps the invariant.** -/
theorem step (h : w.Sound) (hstep : Step w w') : w'.Sound := by
  cases hstep with
  | install s => exact h.install s
  | uninstall => exact h.uninstall
  | make =>
    exact ⟨fun n s hmem => Nat.lt_succ_of_lt (h.asked_below n s hmem),
      fun x s hmem => (h.given_below x s hmem).imp fun n => And.imp_left Nat.lt_succ_of_lt,
      h.known_own, h.own_known, h.once⟩
  | insert front back x horder hown hbelow =>
    have hmem {y : Finder} (hy : y ∈ front ++ x :: back) : y = x ∨ y ∈ w.finders.order := by
      rw [horder]
      simpa [or_left_comm] using hy
    refine ⟨?_, h.given_below, h.known_own, ?_, ?_⟩
    · intro n s hasked
      obtain rfl | hasked := hmem hasked
      · exact hbelow n s rfl
      · exact h.asked_below n s hasked
    · intro y hasked howny
      obtain rfl | hasked := hmem hasked
      · exact absurd howny (Bool.eq_false_iff.1 hown)
      · exact h.own_known y hasked howny
    · intro y hy
      have hne : x ≠ y := by
        rintro rfl
        exact Bool.eq_false_iff.1 hown (h.known_own x hy)
      have honce := h.once y hy
      rw [horder] at honce
      simpa [hne] using honce
  | remove front back x horder =>
    refine h.of_sublist ?_ (fun _ hx => hx) fun _ _ hx => hx
    rw [horder]
    exact (List.sublist_cons_self x back).append_left front

theorem of_reachable (h : Reachable w) : w.Sound := by
  induction h with
  | start f hhook hbelow =>
    exact ⟨hbelow, by simp, by simp [hhook], by simp [own], by simp [hhook]⟩
  | step _ hstep ih => exact ih.step hstep

/-! ## What the invariant says -/

theorem ownCount_eq (h : w.Sound) :
    w.ownCount = (w.finders.hook.map w.finders.order.count).getD 0 := by
  unfold ownCount
  cases hhook : w.finders.hook with
  | none =>
    refine List.countP_eq_zero.2 fun x hmem hown => ?_
    have hx := h.own_known x hmem hown
    rw [hhook] at hx
    cases hx
  | some x =>
    refine List.countP_congr fun y hmem => ?_
    rw [beq_iff_eq]
    constructor
    · intro hown
      exact Option.some.inj ((h.own_known y hmem hown).symm.trans hhook)
    · rintro rfl
      exact h.known_own y hhook

theorem isInstalled_iff (h : w.Sound) : w.finders.isInstalled = true ↔ w.ownCount = 1 := by
  rw [Finders.isInstalled_iff, h.ownCount_eq]
  cases hhook : w.finders.hook with
  | none => simp
  | some x =>
    have honce := h.once x hhook
    simp only [Option.some.injEq, exists_eq_left', Option.map_some, Option.getD_some,
      ← List.count_pos_iff]
    omega

theorem others_install (h : w.Sound) (s : Settings) : (w.install s).others = w.others := by
  obtain ⟨-, heq⟩ | ⟨-, heq⟩ := h.install_eq s
  · rw [heq]
  · rw [heq]
    unfold others
    rw [List.filter_cons_of_neg (by simp [own])]
    refine List.filter_congr fun x hmem => ?_
    have hne : .expanding w.finders.next s ≠ x := by
      rintro rfl
      exact h.next_not_asked s hmem
    simp [own, hne]

theorem others_uninstall (h : w.Sound) : w.uninstall.others = w.others := by
  unfold HookHistory.uninstall Finders.uninstall
  cases hhook : w.finders.hook with
  | none => rfl
  | some x =>
    change (w.finders.order.erase x).filter _ = w.finders.order.filter _
    by_cases hmem : x ∈ w.finders.order
    · obtain ⟨front, back, -, horder, herase⟩ := List.exists_erase_eq hmem
      rw [herase, horder, List.filter_append, List.filter_append,
        List.filter_cons_of_neg (by simp [h.known_own x hhook])]
      rfl
    · rw [List.erase_of_not_mem hmem]
      rfl

end Sound

/-- **The hook is installed at most once**, after whatever happened to the finders. -/
theorem hook_once (h : Reachable w) :
    w.ownCount ≤ 1 ∧ (w.finders.isInstalled = true ↔ w.ownCount = 1) ∧
    (w.finders.isInstalled = true → ∃ x s, x ∈ w.finders.order ∧ (x, s) ∈ w.given ∧
      x.settings? = some s ∧ ∀ s', w.finders.install s' = (w.finders, x)) ∧
    (w.finders.isInstalled = false → ∀ s, ∃ x, (w.finders.install s).2 = x ∧
      (w.finders.install s).1.order = x :: w.finders.order ∧ x ∉ w.finders.order ∧
      w.own x = false ∧ x.settings? = some s) ∧
    (∀ s, (w.install s).others = w.others) ∧ w.uninstall.others = w.others := by
  have hsound := Sound.of_reachable h
  refine ⟨?_, hsound.isInstalled_iff, ?_, ?_, hsound.others_install, hsound.others_uninstall⟩
  · rw [hsound.ownCount_eq]
    cases hhook : w.finders.hook with
    | none => exact Nat.zero_le 1
    | some x => exact hsound.once x hhook
  · intro hin
    obtain ⟨x, hhook, hmem⟩ := Finders.isInstalled_iff.1 hin
    obtain ⟨s, hgiven⟩ := own_iff.1 (hsound.known_own x hhook)
    obtain ⟨n, -, rfl⟩ := hsound.given_below x s hgiven
    exact ⟨_, s, hmem, hgiven, rfl, Finders.install_of_mem hhook hmem⟩
  · intro hnot s
    refine ⟨.expanding w.finders.next s, ?_⟩
    rw [Finders.install_of_not_installed (Bool.eq_false_iff.1 hnot)]
    exact ⟨rfl, rfl, hsound.next_not_asked s, hsound.not_own_next s, rfl⟩

/-- The hook is taken out by others and installed again, and a finder is put in front of it. -/
theorem hook_once_dropped :
    let first := Settings.default
    let second : Settings := { first with flagPrefix := "_f_" }
    let hook : Finder := .expanding 1 second
    let w : HookHistory := ⟨⟨[.other "q", hook, .other "p"], some hook, 2⟩,
      [(hook, second), (.expanding 0 first, first)]⟩
    Reachable w ∧ w.ownCount = 1 ∧ w.finders.install first = (w.finders, hook) := by
  intro first second hook w
  have hstart : Reachable ⟨⟨[.other "p"], none, 0⟩, []⟩ := .start _ rfl (by simp)
  have hinstalled := hstart.step (.install _ first)
  have hdropped := hinstalled.step (.remove [] _ _ rfl)
  have hagain := hdropped.step (.install _ second)
  have hw : Reachable w := hagain.step (.insert [] _ (.other "q") rfl rfl (by simp))
  have hcount : w.ownCount = 1 := by decide
  obtain ⟨-, hiff, hkept, -⟩ := hook_once hw
  obtain ⟨x, s, -, -, -, hsame⟩ := hkept (hiff.2 hcount)
  obtain rfl : hook = x := congrArg Prod.snd (hsame first)
  exact ⟨hw, hcount, hsame first⟩

end HookHistory

end JumpMacros
