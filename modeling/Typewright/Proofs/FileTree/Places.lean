import Typewright.Proofs.FileTree.Contents
import Typewright.Proofs.Outcome

/-!
# Where paths lead

A path is followed through directories only. So it leads to the same place in every tree that keeps
the directories of a tree in which it leads somewhere (`KeepsDirectories.locate`). Putting something
where no directory is keeps them. A path is not followed to its end if it is too long
(`locate_eq_nameTooLong`).

What is written at a path is therefore read at the same path afterwards (`read_of_write`).
-/

namespace Typewright.FileTree

/-! ## Trees that keep directories -/

/-- Whether every directory of a tree is a directory of another one. -/
def KeepsDirectories (t next : FileTree) : Prop :=
  ∀ p, t.get? p = some .directory → next.get? p = some .directory

variable {t next : FileTree} {halves : Text.Halves} {directory p q : Place} {path : Path}

theorem ne_root_of_get? (h : t.get? p ≠ some .directory) : p ≠ [] := by
  rintro rfl
  exact h rfl

theorem keepsDirectories_put (free : t.get? p ≠ some .directory) (n : Node) :
    t.KeepsDirectories (t.put p n) := by
  intro q hq
  have other : q ≠ p := by
    rintro rfl
    exact free hq
  rw [get?_put t p n q (ne_root_of_get? free), if_neg other]
  exact hq

/-! ## Following a path -/

theorem KeepsDirectories.enter (h : t.KeepsDirectories next) {part : String}
    (hq : t.enter p part = .ok q) : next.enter p part = .ok q := by
  rw [FileTree.enter] at hq
  split at hq
  · cases hq
  · cases hq
  next isDirectory =>
    rw [FileTree.enter, h p isDirectory]
    exact hq

theorem KeepsDirectories.foldlM (h : t.KeepsDirectories next) {parts : List String} :
    ∀ {p : Place}, parts.foldlM t.enter p = .ok q → parts.foldlM next.enter p = .ok q := by
  induction parts with
  | nil => exact fun hq => hq
  | cons part parts ih =>
      intro p hq
      rw [List.foldlM_cons] at hq
      obtain ⟨r, hr, hq⟩ := bind_eq_ok.1 hq
      rw [List.foldlM_cons, h.enter hr, ok_bind]
      exact ih hq

theorem KeepsDirectories.locate (h : t.KeepsDirectories next)
    (hq : t.locate directory path = .ok q) : next.locate directory path = .ok q := by
  rw [FileTree.locate] at hq ⊢
  split at hq
  · cases hq
  next short =>
    rw [if_neg short]
    exact h.foldlM hq

/-- What makes a path too long to be followed. -/
inductive TooLong (t : FileTree) (directory : Place) (path : Path) : Prop where
  /-- It has too many octets. -/
  | path (long : maxPath < path.text.utf8ByteSize)
  /-- A part that follows on a way to a directory has too many octets. -/
  | part {before after : List String} {part : String} {p : Place}
      (parts : path.parts = before ++ part :: after)
      (way : before.foldlM t.enter (origin directory path) = .ok p)
      (inside : t.get? p = some .directory) (long : maxName < part.utf8ByteSize)

theorem enter_eq_nameTooLong {part : String} : t.enter p part = .error .nameTooLong ↔
    t.get? p = some .directory ∧ maxName < part.utf8ByteSize := by
  rw [FileTree.enter]
  split
  next free => simp [free]
  next content file => simp [file]
  next isDirectory =>
    rw [isDirectory]
    split_ifs with long up
    · simp [long]
    · simpa using Nat.le_of_not_lt long
    · simpa using Nat.le_of_not_lt long

theorem locate_eq_nameTooLong :
    t.locate directory path = .error .nameTooLong ↔ t.TooLong directory path := by
  rw [locate]
  split
  next long => exact iff_of_true rfl (.path (of_decide_eq_true long))
  next short =>
    rw [foldlM_eq_error]
    constructor
    · rintro ⟨before, part, after, p, parts, way, fails⟩
      obtain ⟨inside, long⟩ := enter_eq_nameTooLong.1 fails
      exact .part parts way inside long
    · rintro (long | ⟨parts, way, inside, long⟩)
      · exact absurd (decide_eq_true long) short
      · exact ⟨_, _, _, _, parts, way, enter_eq_nameTooLong.2 ⟨inside, long⟩⟩

/-- A path whose name does not lead upwards leads to a place of that name. -/
theorem getLast?_of_locate (hq : t.locate directory path = .ok q) (named : path.name ≠ "")
    (down : path.name ≠ Path.up) : q.getLast? = some path.name := by
  rw [FileTree.locate] at hq
  split at hq
  · cases hq
  cases hlast : path.parts.getLast? with
  | none =>
      rw [Path.name, hlast] at named
      exact absurd rfl named
  | some last =>
      have name : path.name = last := by
        rw [Path.name, hlast]
        rfl
      obtain ⟨front, parts⟩ := List.getLast?_eq_some_iff.1 hlast
      rw [parts, List.foldlM_append] at hq
      obtain ⟨p, _, hq⟩ := bind_eq_ok.1 hq
      rw [List.foldlM_cons, bind_eq_ok] at hq
      obtain ⟨r, hr, hq⟩ := hq
      cases hq
      rw [FileTree.enter] at hr
      split at hr
      · cases hr
      · cases hr
      split at hr
      · cases hr
      rw [if_neg (name ▸ down)] at hr
      cases hr
      rw [List.getLast?_concat, name]

/-! ## Reading -/

theorem read_eq_ok {content : List UInt8} : t.read directory path = .ok content ↔
    ∃ q, t.locate directory path = .ok q ∧ t.content? q = some content := by
  rw [read, lookup]
  cases hq : t.locate directory path with
  | error e => simp [bind, Except.bind]
  | ok q =>
      have there : (∃ r, Except.ok q = (Except.ok r : Except FileProblem Place) ∧
          t.content? r = some content) ↔ t.content? q = some content := by
        simp
      rw [ok_bind, there, content?]
      cases t.get? q with
      | none => simp [throw, throwThe, MonadExceptOf.throw]
      | some n => cases n <;> simp [pure, Except.pure]

/-- Whether something is at a path is not found out exactly if the path is too long. -/
theorem pathExists_eq_error {e : FileError} : t.pathExists halves directory path = .error e ↔
    path.misuse? halves = none ∧ t.TooLong directory path ∧
      e = ⟨.nameTooLong, path.text, none⟩ := by
  rw [pathExists, ← locate_eq_nameTooLong, lookup]
  cases path.misuse? halves with
  | some m => simp
  | none =>
      cases t.locate directory path with
      | error problem => cases problem <;> simp [bind, Except.bind, eq_comm]
      | ok q =>
          rw [ok_bind]
          cases t.get? q <;> simp [throw, throwThe, MonadExceptOf.throw, pure, Except.pure]

theorem misuse?_of_pathExists (h : t.pathExists halves directory path = .ok true) :
    path.misuse? halves = none := by
  rw [pathExists] at h
  split at h
  · cases h
  next sound => exact Option.not_isSome_iff_eq_none.1 sound

theorem pathExists_of_read {content : List UInt8} (sound : path.misuse? halves = none)
    (h : t.read directory path = .ok content) : t.pathExists halves directory path = .ok true := by
  rw [read] at h
  rw [pathExists, sound]
  split at h
  next there =>
    rw [there]
    rfl
  · cases h
  · cases h

/-- A file that is written is found under its path. -/
theorem lookup_of_write {content : List UInt8} (h : t.write directory path content = .ok next) :
    next.lookup directory path = .ok (.file content) := by
  rw [write] at h
  split at h
  · cases h
  next p hp =>
    split at h
    · cases h
    next free =>
      cases h
      have free : t.get? p ≠ some .directory := free
      rw [lookup, (keepsDirectories_put free _).locate hp, ok_bind,
        get?_put t p _ p (ne_root_of_get? free), if_pos rfl]
      rfl
    · cases h
    · cases h

theorem read_of_write {content : List UInt8} (h : t.write directory path content = .ok next) :
    next.read directory path = .ok content := by
  rw [read, lookup_of_write h]

end Typewright.FileTree
