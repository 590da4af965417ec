import JumpMacros.Files.Source
import JumpMacros.Proofs.Lookups

/-!
# What writing leaves

A path is followed name by name, and writing could change where it leads. It does not: the way to a
place passes directories and links, and what is written takes the place of a file or of nothing.

**The other files (`FileTree.KeepsBut`).** Writing a file, and making the directories it is in,
leaves everything else what it was and where it was.

**The file (`FileTree.Wrote`).** A path that was written leads to a file that holds what was
written, unless it leads to a device.
-/

namespace JumpMacros

namespace FileTree

variable {t t' t'' : FileTree} {place : Place} {p : Path} {content : Text.Bytes}

/-! ## Putting something at a place -/

/-- At a place there is nothing, or a file. -/
def IsFree (t : FileTree) (place : Place) : Prop :=
  ∀ e, t.get? place = some e → ∃ content access, e = .file content access

theorem isFree_of_none (h : t.get? place = none) : t.IsFree place := by
  intro e he
  rw [h] at he
  cases he

theorem isFree_of_file {access : Access} (h : t.get? place = some (.file content access)) :
    t.IsFree place := by
  intro e he
  rw [h] at he
  exact ⟨content, access, (Option.some.inj he).symm⟩

theorem exists_directory (h : place.isPrefixOf t.workingDirectory = true) :
    ∃ a, t.get? place = some (.directory a) := by
  unfold get?
  split
  next a _ => exact ⟨a, rfl⟩
  · exact ⟨.full, if_pos h⟩

theorem IsFree.not_above (h : t.IsFree place) :
    ¬place.isPrefixOf t.workingDirectory = true := by
  intro habove
  obtain ⟨a, hdir⟩ := exists_directory habove
  obtain ⟨_, _, hfile⟩ := h _ hdir
  cases hfile

theorem IsFree.ne_of_directory (h : t.IsFree place) {here : Place} {a : Access}
    (hhere : t.get? here = some (.directory a)) : here ≠ place := by
  rintro rfl
  obtain ⟨_, _, hfile⟩ := h _ hhere
  cases hfile

theorem IsFree.not_link (h : t.IsFree place) (target : Path) :
    t.get? place ≠ some (.link target) := by
  intro hlink
  obtain ⟨_, _, hfile⟩ := h _ hlink
  cases hfile

theorem IsFree.not_hardLink (h : t.IsFree place) (original : Place) :
    t.get? place ≠ some (.hardLink original) := by
  intro hlinked
  obtain ⟨_, _, hfile⟩ := h _ hlinked
  cases hfile

theorem get?_put_self (h : t.IsFree place) (e : FileEntry) :
    (t.put place e).get? place = some e := by
  have hlookup : (t.put place e).entries.lookup place = some e := List.lookup_cons_self
  have habove : ¬place.isPrefixOf (t.put place e).workingDirectory = true := h.not_above
  unfold get?
  rw [hlookup]
  split
  next a ha => exact ha.symm
  · exact if_neg habove

theorem get?_put_of_ne {q : Place} (h : q ≠ place) (e : FileEntry) :
    (t.put place e).get? q = t.get? q := by
  have hne : (q == place) = false := by simpa using h
  have hkept : (t.entries.filter fun x => x.1 != place).lookup q = t.entries.lookup q :=
    lookup_filter_key (p := fun x => x != place) (by simpa using h)
  have hlookup : (t.put place e).entries.lookup q = t.entries.lookup q := by
    simp only [put, List.lookup_cons, hne, hkept]
  unfold get?
  rw [hlookup]
  rfl

/-! ## Where paths lead -/

/-- A name leads where it led, if what is put is no link and takes the place of nothing or of a
file. -/
theorem below_put (h : t.IsFree place) {e : FileEntry} (he : ∀ target, e ≠ .link target)
    (here : Place) (n : String) : (t.put place e).below here n = t.below here n := by
  unfold below
  by_cases hnext : here ++ [n] = place
  · have hnew : (t.put place e).get? (here ++ [n]) = some e := by
      rw [hnext]
      exact get?_put_self h e
    rw [hnew]
    split
    next target htarget => exact absurd (Option.some.inj htarget) (he target)
    split
    next target htarget => exact absurd (hnext ▸ htarget) (h.not_link target)
    rfl
  · rw [get?_put_of_ne hnext]

/-- What is put is no directory, and neither is what it takes the place of. -/
theorem enter_put (h : t.IsFree place) {e : FileEntry} (he : ∀ target, e ≠ .link target)
    {here : Place} {n : String} {r : Reached} (hr : t.enter here n = .ok r) :
    (t.put place e).enter here n = .ok r := by
  unfold enter at hr ⊢
  cases hget : t.get? here with
  | none => simp [hget] at hr
  | some entry =>
    cases entry with
    | file => simp [hget] at hr
    | link => simp [hget] at hr
    | device => simp [hget] at hr
    | hardLink => simp [hget] at hr
    | directory a =>
      rw [get?_put_of_ne (h.ne_of_directory hget), hget]
      simp only [hget] at hr
      simpa only [below_put h he] using hr

theorem walk_put (h : t.IsFree place) {e : FileEntry} (he : ∀ target, e ≠ .link target)
    {go go' : Place → List String → Except Blocked Place} {goal : Place}
    (hgo : ∀ here names, go here names = .ok goal → go' here names = .ok goal) :
    ∀ (names : List String) (here : Place), t.walk go here names = .ok goal →
      (t.put place e).walk go' here names = .ok goal
  | [], _, hgoal => hgoal
  | n :: rest, here, hgoal => by
    rw [walk] at hgoal ⊢
    cases hr : t.enter here n with
    | error b => simp [hr] at hgoal
    | ok r =>
      rw [enter_put h he hr]
      rw [hr] at hgoal
      cases r with
      | place q => exact walk_put h he hgo rest q hgoal
      | link target => exact hgo _ _ hgoal

theorem follow_put (h : t.IsFree place) {e : FileEntry} (he : ∀ target, e ≠ .link target)
    {goal : Place} (links : Nat) : ∀ (here : Place) (names : List String),
      t.follow links here names = .ok goal →
        (t.put place e).follow links here names = .ok goal := by
  induction links with
  | zero => exact fun here names => walk_put h he (fun _ _ hgoal => hgoal) names here
  | succ links ih => exact fun here names => walk_put h he ih names here

theorem place_put (h : t.IsFree place) {e : FileEntry} (he : ∀ target, e ≠ .link target)
    {goal : Place} (hgoal : t.place p = .ok goal) : (t.put place e).place p = .ok goal :=
  follow_put h he _ _ _ hgoal

theorem resolve_eq_ok {x : Place × Option FileEntry} :
    t.resolve p = .ok x ↔ ∃ q, t.place p = .ok q ∧ t.settle q = x := by
  unfold resolve
  cases t.place p with
  | error b => simp [Except.map]
  | ok q => simp [Except.map]

theorem stat_of_resolve {here : Place} {e : FileEntry} (h : t.resolve p = .ok (here, some e)) :
    t.stat p = .ok e := by
  rw [stat, h]

theorem settle_of_hardLink {q here : Place} (h : t.get? q = some (.hardLink here)) :
    t.settle q = (here, t.get? here) := by
  rw [settle, h]

theorem settle_of_no_hardLink {q : Place}
    (h : ∀ original, t.get? q ≠ some (.hardLink original)) : t.settle q = (q, t.get? q) := by
  unfold settle
  split
  next original hlinked => exact absurd hlinked (h original)
  · rfl

/-- What is found at a place is there, or is what the place is another name of. -/
theorem settle_eq {q here : Place} {e : Option FileEntry} (h : t.settle q = (here, e)) :
    t.get? here = e ∧ (q = here ∧ (∀ original, t.get? q ≠ some (.hardLink original)) ∨
      t.get? q = some (.hardLink here)) := by
  by_cases hlinked : ∃ original, t.get? q = some (.hardLink original)
  · obtain ⟨original, horiginal⟩ := hlinked
    rw [settle_of_hardLink horiginal] at h
    cases h
    exact ⟨rfl, .inr horiginal⟩
  · have hnot := not_exists.1 hlinked
    rw [settle_of_no_hardLink hnot] at h
    cases h
    exact ⟨rfl, .inl ⟨rfl, hnot⟩⟩

theorem resolve_of_directory {a : Access} (hplace : t.place p = .ok place)
    (hdir : t.get? place = some (.directory a)) :
    t.resolve p = .ok (place, some (.directory a)) := by
  refine resolve_eq_ok.2 ⟨place, hplace, ?_⟩
  rw [settle_of_no_hardLink (by simp [hdir]), hdir]

/-- The bytes of a directory cannot be read. -/
theorem read_of_directory {a : Access} (h : t.resolve p = .ok (place, some (.directory a))) :
    ∃ e, t.read p = .error e := by
  rw [read, stat_of_resolve h]
  exact ⟨_, rfl⟩

theorem settle_put (h : t.IsFree place) (e : FileEntry) {q here : Place} {entry : FileEntry}
    (hq : t.settle q = (here, some entry)) (hne : here ≠ place) :
    (t.put place e).settle q = (here, some entry) := by
  obtain ⟨hentry, ⟨rfl, hnot⟩ | hlinked⟩ := settle_eq hq
  · rw [← get?_put_of_ne hne e] at hnot hentry
    rw [settle_of_no_hardLink hnot, hentry]
  · have hq' : q ≠ place := fun heq => h.not_hardLink here (heq ▸ hlinked)
    rw [settle_of_hardLink ((get?_put_of_ne hq' e).trans hlinked), get?_put_of_ne hne, hentry]

/-! ## What stays -/

/-- Whatever is in a tree is the same in another one, except at one place, and paths lead there as
before. -/
structure KeepsBut (t t' : FileTree) (place : Place) : Prop where
  entry : ∀ q e, t.get? q = some e → q ≠ place → t'.get? q = some e
  resolve : ∀ p here e, t.resolve p = .ok (here, some e) → here ≠ place →
    t'.resolve p = .ok (here, some e)

theorem KeepsBut.refl (t : FileTree) (place : Place) : t.KeepsBut t place where
  entry _ _ h _ := h
  resolve _ _ _ h _ := h

theorem KeepsBut.trans (h : t.KeepsBut t' place) (h' : t'.KeepsBut t'' place) :
    t.KeepsBut t'' place where
  entry q e he hne := h'.entry q e (h.entry q e he hne) hne
  resolve p here e he hne := h'.resolve p here e (h.resolve p here e he hne) hne

theorem keepsBut_put (h : t.IsFree place) {e : FileEntry} (he : ∀ target, e ≠ .link target) :
    t.KeepsBut (t.put place e) place where
  entry q entry hget hne := (get?_put_of_ne hne e).trans hget
  resolve p here entry hres hne := by
    obtain ⟨q, hplace, hsettle⟩ := resolve_eq_ok.1 hres
    exact resolve_eq_ok.2 ⟨q, place_put h he hplace, settle_put h e hsettle hne⟩

/-- What is put where nothing is leaves everything as it was. -/
theorem keepsBut_put_new {new : Place} (h : t.get? new = none) {e : FileEntry}
    (he : ∀ target, e ≠ .link target) (place : Place) : t.KeepsBut (t.put new e) place := by
  have hkept := keepsBut_put (isFree_of_none h) he
  have hne {q : Place} {entry : FileEntry} (hq : t.get? q = some entry) : q ≠ new := by
    rintro rfl
    rw [h] at hq
    cases hq
  refine ⟨fun q entry hq _ => hkept.entry q entry hq (hne hq), fun p here entry hres _ => ?_⟩
  obtain ⟨q, -, hsettle⟩ := resolve_eq_ok.1 hres
  exact hkept.resolve p here entry hres (hne (settle_eq hsettle).1)

/-! ## Making directories -/

theorem add_eq_ok {e : FileEntry} (h : t.add p e = .ok t') :
    ∃ new, t.get? new = none ∧ t' = t.put new e := by
  unfold add at h
  split at h
  · cases h
  · cases h
  · cases h
  next n here a _ _ =>
    split at h
    · cases h
    split at h
    · cases h
    next hnew =>
      split at h
      · cases h
      simp only [Bool.or_eq_true, not_or, Option.not_isSome_iff_eq_none] at hnew
      exact ⟨here ++ [n], hnew.2, (Except.ok.inj h).symm⟩
  · cases h

theorem makeOne_keepsBut (h : t.makeOne p = .ok t') (place : Place) : t.KeepsBut t' place := by
  unfold makeOne at h
  split at h
  next u hu =>
    cases h
    obtain ⟨new, hnew, rfl⟩ := add_eq_ok hu
    exact keepsBut_put_new hnew (by simp) place
  · cases h
  · split at h
    · cases h
      exact .refl t place
    · cases h
    · cases h

theorem makeAll_keepsBut (place : Place) (isAbsolute : Bool) :
    ∀ {names : List String} {t' : FileTree}, t.makeAll isAbsolute names = .ok t' →
      t.KeepsBut t' place
  | [], t', h => by
    cases h
    exact .refl t place
  | n :: above, t', h => by
    simp only [makeAll] at h
    split at h
    · simp only [bind, Except.bind] at h
      split at h
      · cases h
      next u hu => exact (makeAll_keepsBut place isAbsolute hu).trans (makeOne_keepsBut h place)
    · exact makeOne_keepsBut h place

/-! ## Writing -/

/-- A path leads to a file that holds some bytes, or to a device. -/
inductive Wrote (t : FileTree) (p : Path) (content : Text.Bytes) (place : Place) : Prop where
  | file (a : Access) (h : t.resolve p = .ok (place, some (.file content a)))
  | device (given : Text.Bytes) (a : Access) (h : t.resolve p = .ok (place, some (.device given a)))

theorem Wrote.resolves (h : t.Wrote p content place) :
    ∃ e, t.resolve p = .ok (place, some e) := by
  cases h with
  | file a hres => exact ⟨_, hres⟩
  | device given a hres => exact ⟨_, hres⟩

/-- A file that is put where a path leads is found there, and nothing else changes. -/
theorem resolve_put {old : Option FileEntry} (hres : t.resolve p = .ok (place, old))
    (h : t.IsFree place) (content : Text.Bytes) (a : Access) :
    (t.put place (.file content a)).resolve p = .ok (place, some (.file content a)) ∧
      t.KeepsBut (t.put place (.file content a)) place := by
  refine ⟨?_, keepsBut_put h (by simp)⟩
  have hnew := get?_put_self h (.file content a)
  obtain ⟨q, hplace, hsettle⟩ := resolve_eq_ok.1 hres
  refine resolve_eq_ok.2 ⟨q, place_put h (by simp) hplace, ?_⟩
  obtain ⟨-, ⟨rfl, -⟩ | hlinked⟩ := settle_eq hsettle
  · rw [settle, hnew]
  · have hq : q ≠ place := fun heq => h.not_hardLink place (heq ▸ hlinked)
    rw [settle_of_hardLink ((get?_put_of_ne hq _).trans hlinked), hnew]

theorem get?_of_resolve {here : Place} {e : Option FileEntry} (h : t.resolve p = .ok (here, e)) :
    t.get? here = e := by
  obtain ⟨_, -, hsettle⟩ := resolve_eq_ok.1 h
  exact (settle_eq hsettle).1

theorem write_eq_ok (h : t.write p content = .ok t') :
    ∃ place, t'.Wrote p content place ∧ t.KeepsBut t' place := by
  unfold write at h
  split at h
  · cases h
  next place hres =>
    split at h
    · cases h
      obtain ⟨hres', hkept⟩ := resolve_put hres (isFree_of_none (get?_of_resolve hres)) content _
      exact ⟨place, .file _ hres', hkept⟩
    · cases h
  next place old a hres =>
    split at h
    · cases h
      obtain ⟨hres', hkept⟩ := resolve_put hres (isFree_of_file (get?_of_resolve hres)) content a
      exact ⟨place, .file a hres', hkept⟩
    · cases h
  next place given a hres =>
    split at h
    · cases h
      exact ⟨place, .device given a hres, .refl t place⟩
    · cases h
  · cases h
  · cases h
  · cases h

/-- A file that was written and may be read holds what was written. -/
theorem Wrote.of_readable (h : t.Wrote p content place) (hreadable : t.isReadable p = true) :
    ∃ a : Access, a.read = true ∧ t.resolve p = .ok (place, some (.file content a)) := by
  cases h with
  | file a hres =>
    have hstat := stat_of_resolve hres
    exact ⟨a, by simpa [isReadable, lookup, hstat, Except.toOption] using hreadable, hres⟩
  | device given a hres =>
    simp [isReadable, lookup, stat_of_resolve hres, Except.toOption] at hreadable

theorem read_of_file {a : Access} (h : t.resolve p = .ok (place, some (.file content a)))
    (ha : a.read = true) : t.read p = .ok content := by
  rw [read, stat_of_resolve h]
  simp [ha]

end FileTree

/-! ## Source files -/

section

variable {files files' : FileTree} {path text : String}

theorem writeSource_eq_ok (h : writeSource files path text = .ok files') :
    ∃ place, files'.Wrote (.ofString path) (Text.Utf8.encode (withFinalLineEnd text)) place ∧
      files.KeepsBut files' place := by
  simp only [writeSource, bind, Except.bind] at h
  split at h
  · exact FileTree.write_eq_ok h
  · split at h
    · cases h
    next made hmade =>
      obtain ⟨place, hwrote, hkept⟩ := FileTree.write_eq_ok h
      exact ⟨place, hwrote, (FileTree.makeAll_keepsBut place _ hmade).trans hkept⟩

/-- A source file that was written holds the text and ends with a line end. -/
theorem read_writeSource (h : writeSource files path text = .ok files')
    (hreadable : files'.isReadable (.ofString path) = true) :
    files'.read (.ofString path) = .ok (Text.Utf8.encode (withFinalLineEnd text)) := by
  obtain ⟨_, hwrote, -⟩ := writeSource_eq_ok h
  obtain ⟨a, ha, hres⟩ := hwrote.of_readable hreadable
  exact FileTree.read_of_file hres ha

end

end JumpMacros
