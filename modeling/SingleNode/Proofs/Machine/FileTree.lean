/-
# What making directories leaves

A file tree only ever grows, and what has been found stays where it is
(`Extends.locate`).  Making a directory adds one entry, at the place that its
path leads to from then on (`of_makeDirectory`).

`Laid p t t'` is the most that making the directory of a path, with those above
it, can do to a tree: all that is new are directories, nothing stood in their
places, and each is where a path leads that is `p` or above it.  It holds
whether or not the directories could all be made (`laid_ensureDirectories`),
because those made before a problem stay; it is kept when one such change
follows another, and it says nothing of other paths, so it also holds for a
longer one.

The directory is there in the end exactly if there was no problem
(`isDirectory_ensureDirectories`, `not_isDirectory_ensureDirectories`).
-/
import Mathlib.Data.List.Basic
import SingleNode.Machine.Basic

namespace SingleNode

namespace HostPath

/-- The path is the other one, or above it. -/
def LeadsTo (q p : HostPath) : Prop := q.root = p.root ∧ q.parts <+: p.parts

theorem LeadsTo.refl (p : HostPath) : p.LeadsTo p := ⟨rfl, List.prefix_rfl⟩

theorem LeadsTo.of_parent {q p : HostPath} (h : q.LeadsTo p.parent) :
    q.LeadsTo p :=
  ⟨h.1, h.2.trans (List.dropLast_prefix p.parts)⟩

theorem utf8ByteSize_intercalate_le (parts : List String) (last : String) :
    (String.intercalate "/" parts).utf8ByteSize ≤
      (String.intercalate "/" (parts ++ [last])).utf8ByteSize := by
  cases parts with
  | nil => exact Nat.zero_le _
  | cons part rest =>
    rw [String.intercalate_append_of_ne_nil (List.cons_ne_nil _ _)
      (List.cons_ne_nil _ _),
      String.utf8ByteSize_append, String.utf8ByteSize_append, Nat.add_assoc]
    exact Nat.le_add_right _ _

/-- The text of the path above is no longer, unless it is a single point. -/
theorem utf8ByteSize_parent (p : HostPath) :
    p.parent.toString.utf8ByteSize ≤ max 1 p.toString.utf8ByteSize := by
  rcases List.eq_nil_or_concat' p.parts with hnil | ⟨parts, last, hparts⟩
  · have hp : p.parent = p := by
      rw [parent, hnil, List.dropLast_nil, ← hnil]
    rw [hp]
    exact Nat.le_max_right _ _
  · have hparent : p.parent = { p with parts } := by
      rw [parent, hparts, List.dropLast_concat]
    have htext :
        p.toString = p.root ++ String.intercalate "/" (parts ++ [last]) := by
      rw [HostPath.toString, hparts, if_neg (by simp)]
    rw [hparent, htext, HostPath.toString]
    split
    · exact Nat.le_max_left _ _
    · refine Nat.le_trans ?_ (Nat.le_max_right _ _)
      rw [String.utf8ByteSize_append, String.utf8ByteSize_append]
      exact Nat.add_le_add_left (utf8ByteSize_intercalate_le parts last) _

end HostPath

namespace FileTree

theorem check_eq_ok_iff {α : Type} {c : Prop} [Decidable c] {e : FileProblem}
    {x : Except FileProblem α} {a : α} :
    (if c then .error e else x) = .ok a ↔ ¬c ∧ x = .ok a := by
  by_cases h : c <;> simp [h]

/-! ## Trees that grow -/

/-- The second tree is the first with more entries behind those it has. -/
structure Extends (t t' : FileTree) : Prop where
  base : t'.base = t.base
  entries : t.entries <+: t'.entries

theorem extends_add (t : FileTree) (name : List String) (kind : EntryKind) :
    Extends t (t.add name kind) :=
  ⟨rfl, List.prefix_append _ _⟩

section Extends

variable {t t' : FileTree} (h : Extends t t')
include h

theorem Extends.kind? {name : List String} {kind : EntryKind}
    (hk : t.kind? name = some kind) :
    t'.kind? name = some kind := by
  obtain ⟨more, hm⟩ := h.entries
  rw [FileTree.kind?] at hk ⊢
  split at hk
  case isTrue hn => rwa [if_pos hn]
  case isFalse hn =>
    obtain ⟨e, he, hek⟩ := Option.map_eq_some_iff.mp hk
    rw [if_neg hn, ← hm, List.find?_append, he, Option.some_or,
      Option.map_some, hek]

theorem Extends.kind?_eq_none {name : List String} (hk : t'.kind? name = none) :
    t.kind? name = none := by
  cases hs : t.kind? name with
  | none => rfl
  | some kind => exact nomatch (h.kind? hs).symm.trans hk

theorem Extends.isDirectoryName {name : List String}
    (hd : t.isDirectoryName name = true) :
    t'.isDirectoryName name = true :=
  decide_eq_true (h.kind? (of_decide_eq_true hd))

/-- A walk that comes to its end comes to the same end in a larger tree. -/
theorem Extends.walk {parts place name : List String}
    (hw : t.walk place parts = .ok name) :
    t'.walk place parts = .ok name := by
  induction parts generalizing place with
  | nil => exact hw
  | cons part rest ih =>
    rw [FileTree.walk, check_eq_ok_iff] at hw
    obtain ⟨hd, hw⟩ := hw
    have hd' : t'.isDirectoryName place = true :=
      h.isDirectoryName (by simpa using hd)
    rw [FileTree.walk, hd', if_neg nofun]
    by_cases hp : part = ".."
    · rw [if_pos hp] at hw ⊢
      exact ih hw
    · rw [if_neg hp, check_eq_ok_iff, check_eq_ok_iff] at hw
      obtain ⟨hl, hk, hw⟩ := hw
      obtain ⟨kind, hk⟩ := Option.ne_none_iff_exists'.mp (by simpa using hk)
      rw [if_neg hp, if_neg hl, h.kind? hk]
      exact ih hw

theorem Extends.locate {p : HostPath} {name : List String}
    (hl : t.locate p = .ok name) :
    t'.locate p = .ok name := by
  have hs : t'.start p = t.start p := by
    rw [start, start, h.base]
  rw [FileTree.locate] at hl ⊢
  split at hl
  case isTrue => exact nomatch hl
  case isFalse hn =>
    rw [if_neg hn, hs]
    exact h.walk hl

end Extends

/-! ## One directory -/

theorem kind?_add {t : FileTree} {name : List String} (h : t.kind? name = none)
    (kind : EntryKind) :
    (t.add name kind).kind? name = some kind := by
  rw [kind?] at h ⊢
  split at h
  case isTrue => exact nomatch h
  case isFalse hn =>
    rw [if_neg hn, add, List.find?_append, Option.map_eq_none_iff.mp h,
      Option.none_or]
    simp

theorem walk_append (t : FileTree) (place xs ys : List String) :
    t.walk place (xs ++ ys) = t.walk place xs >>= fun name =>
      t.walk name ys := by
  induction xs generalizing place with
  | nil => rfl
  | cons part rest ih =>
    rw [List.cons_append, walk, walk]
    split
    · rfl
    · split
      · exact ih _
      · split
        · rfl
        · split
          · rfl
          · exact ih _

/-- A directory is made in the directory that the path above leads to, under a
name that is free. -/
theorem makeDirectory_eq_ok_iff {t t' : FileTree} {p : HostPath} :
    t.makeDirectory p = .ok t' ↔
      isTooLong p = false ∧ ∃ place part, p.parts = p.parent.parts ++ [part] ∧
        t.walk (t.start p) p.parent.parts = .ok place ∧
        t.isDirectoryName place = true ∧
        part ≠ ".." ∧ part.utf8ByteSize ≤ maxPartBytes ∧
        t.kind? (place ++ [part]) = none ∧
        t' = t.add (place ++ [part]) .directory := by
  rw [makeDirectory, check_eq_ok_iff, Bool.not_eq_true]
  refine and_congr_right fun _ => ?_
  cases hlast : p.parts.getLast? with
  | none =>
    obtain hnil : p.parts = [] := List.getLast?_eq_none_iff.mp hlast
    simp [hnil]
  | some part =>
    have hparts : p.parts = p.parent.parts ++ [part] :=
      (List.dropLast_append_getLast? part hlast).symm
    cases hw : t.walk (t.start p) p.parent.parts with
    | error e => simp
    | ok place =>
      simp only [check_eq_ok_iff]
      constructor
      · rintro ⟨hd, hup, hb, hk, h⟩
        exact ⟨place, part, hparts, rfl, by simpa using hd, hup,
          Nat.le_of_not_lt hb, by simpa using hk, (Except.ok.inj h).symm⟩
      · rintro ⟨place', part', hparts', hw', hd, hup, hb, hk, rfl⟩
        obtain rfl := Except.ok.inj hw'
        obtain rfl : part = part' := by simpa using hparts.symm.trans hparts'
        exact ⟨by simpa using hd, hup, Nat.not_lt_of_le hb, by simp [hk], rfl⟩

theorem of_makeDirectory {t t' : FileTree} {p : HostPath}
    (h : t.makeDirectory p = .ok t') :
    ∃ name, t' = t.add name .directory ∧ t.kind? name = none ∧
      t'.locate p = .ok name := by
  obtain ⟨hlong, place, part, hparts, hw, hd, hup, hb, hk, rfl⟩ :=
    makeDirectory_eq_ok_iff.mp h
  refine ⟨place ++ [part], rfl, hk, ?_⟩
  have hext := extends_add t (place ++ [part]) .directory
  have last :
      (t.add (place ++ [part]) .directory).walk place [part] =
        .ok (place ++ [part]) := by
    rw [walk, hext.isDirectoryName hd, if_neg nofun, if_neg hup,
      if_neg (Nat.not_lt_of_le hb), kind?_add hk, if_neg nofun, walk]
  calc (t.add (place ++ [part]) .directory).locate p
    _ = (t.add (place ++ [part]) .directory).walk (t.start p)
      (p.parent.parts ++ [part]) := by
        rw [locate, if_neg (ne_of_eq_of_ne hlong Bool.false_ne_true), ← hparts]
        rfl
    _ = .ok (place ++ [part]) := by
        rw [walk_append, hext.walk hw]
        exact last

/-! ## A directory and those above it -/

/-- All that is new in the second tree are directories at places that were free,
each where a path leads that is the given one or above it. -/
structure Laid (p : HostPath) (t t' : FileTree) : Prop where
  base : t'.base = t.base
  added :
    ∃ names : List (List String),
    t'.entries = t.entries ++ names.map (·, .directory) ∧
    ∀ name ∈ names, t.kind? name = none ∧ ∃ q, q.LeadsTo p ∧
      t'.locate q = .ok name

theorem Laid.refl (p : HostPath) (t : FileTree) : Laid p t t :=
  ⟨rfl, [], (List.append_nil _).symm, nofun⟩

theorem Laid.extends {p : HostPath} {t t' : FileTree} (h : Laid p t t') :
    Extends t t' := by
  obtain ⟨names, hn, -⟩ := h.added
  exact ⟨h.base, names.map (·, .directory), hn.symm⟩

theorem Laid.trans {p : HostPath} {t t' t'' : FileTree} (h : Laid p t t')
    (h' : Laid p t' t'') :
    Laid p t t'' := by
  obtain ⟨names, hn, hl⟩ := h.added
  obtain ⟨more, hm, hl'⟩ := h'.added
  refine ⟨h'.base.trans h.base, names ++ more, ?_, ?_⟩
  · rw [hm, hn, List.map_append, List.append_assoc]
  · intro name hname
    rcases List.mem_append.mp hname with hname | hname
    · obtain ⟨hk, q, hq, hloc⟩ := hl name hname
      exact ⟨hk, q, hq, h'.extends.locate hloc⟩
    · obtain ⟨hk, q, hq, hloc⟩ := hl' name hname
      exact ⟨h.extends.kind?_eq_none hk, q, hq, hloc⟩

theorem Laid.of_parent {p : HostPath} {t t' : FileTree}
    (h : Laid p.parent t t') : Laid p t t' := by
  obtain ⟨names, hn, hl⟩ := h.added
  refine ⟨h.base, names, hn, ?_⟩
  intro name hname
  obtain ⟨hk, q, hq, hloc⟩ := hl name hname
  exact ⟨hk, q, hq.of_parent, hloc⟩

theorem laid_ensureDirectory (t : FileTree) (p : HostPath) :
    Laid p t (t.ensureDirectory p).1 := by
  rw [ensureDirectory]
  cases h : t.makeDirectory p with
  | error e =>
    dsimp only
    split <;> exact .refl p t
  | ok t' =>
    obtain ⟨name, rfl, hk, hloc⟩ := of_makeDirectory h
    refine ⟨rfl, [name], rfl, ?_⟩
    intro n hn
    obtain rfl := List.mem_singleton.mp hn
    exact ⟨hk, p, .refl p, hloc⟩

theorem laid_ensureDirectories (t : FileTree) (p : HostPath) :
    Laid p t (t.ensureDirectories p).1 := by
  fun_induction ensureDirectories t p with
  | case1 => exact .refl _ _
  | case2 p _ _ t' _ hparent ih =>
    rw [hparent] at ih
    exact ih.of_parent
  | case3 p _ _ t' hparent ih =>
    rw [hparent] at ih
    exact ih.of_parent.trans (laid_ensureDirectory t' p)
  | case4 p => exact laid_ensureDirectory t p

theorem isDirectory_ensureDirectory {t : FileTree} {p : HostPath}
    (h : (t.ensureDirectory p).2 = none) :
    (t.ensureDirectory p).1.isDirectory p = true := by
  rw [ensureDirectory] at h ⊢
  cases hm : t.makeDirectory p with
  | ok t' =>
    obtain ⟨name, rfl, hk, hloc⟩ := of_makeDirectory hm
    rw [isDirectory, hloc]
    exact decide_eq_true (kind?_add hk .directory)
  | error e =>
    rw [hm] at h
    dsimp only at h ⊢
    by_cases hd : (decide (e ≠ .missing) && t.isDirectory p) = true
    · rw [if_pos hd]
      exact (Bool.and_eq_true_iff.mp hd).2
    · rw [if_neg hd] at h
      exact nomatch h

theorem isDirectory_ensureDirectories {t : FileTree} {p : HostPath}
    (h : (t.ensureDirectories p).2 = none) :
    (t.ensureDirectories p).1.isDirectory p = true := by
  fun_induction ensureDirectories t p with
  | case1 => exact nomatch h
  | case2 => exact nomatch h
  | case3 p _ _ t' => exact isDirectory_ensureDirectory h
  | case4 p => exact isDirectory_ensureDirectory h

/-! ## Where no directory can be made -/

theorem isTooLong_of_parent {p : HostPath} (h : isTooLong p.parent = true) :
    isTooLong p = true := by
  have hparent : maxPathBytes < p.parent.toString.utf8ByteSize :=
    of_decide_eq_true h
  have hle := HostPath.utf8ByteSize_parent p
  refine decide_eq_true ?_
  rw [maxPathBytes] at hparent ⊢
  omega

theorem locate_eq_ok_iff {t : FileTree} {p : HostPath} {name : List String} :
    t.locate p = .ok name ↔
      isTooLong p = false ∧ t.walk (t.start p) p.parts = .ok name := by
  rw [locate, check_eq_ok_iff, Bool.not_eq_true]

theorem isDirectory_parent {t : FileTree} {p : HostPath}
    (h : t.isDirectory p = true) (hp : p.parts ≠ []) :
    t.isDirectory p.parent = true := by
  rw [isDirectory] at h
  split at h
  case h_2 => cases h
  case h_1 name hl =>
    obtain ⟨hlong, hw⟩ := locate_eq_ok_iff.mp hl
    have hparts : p.parts = p.parent.parts ++ [p.parts.getLast hp] :=
      (List.dropLast_append_getLast hp).symm
    rw [hparts, walk_append] at hw
    cases hw' : t.walk (t.start p) p.parent.parts with
    | error e =>
      rw [hw'] at hw
      cases hw
    | ok place =>
      rw [hw'] at hw
      have hshort : isTooLong p.parent = false := by
        rw [← Bool.not_eq_true]
        intro hlong'
        exact Bool.false_ne_true (hlong.symm.trans (isTooLong_of_parent hlong'))
      have hl' : t.locate p.parent = .ok place :=
        locate_eq_ok_iff.mpr ⟨hshort, hw'⟩
      have hplace : t.walk place [p.parts.getLast hp] = .ok name := hw
      rw [walk, check_eq_ok_iff] at hplace
      rw [isDirectory, hl']
      simpa using hplace.1

/-- Where the directory above is missing there is no directory. -/
theorem isDirectory_of_missing {t : FileTree} {p : HostPath}
    (h : t.makeDirectory p = .error .missing) :
    t.isDirectory p = false := by
  rw [← Bool.not_eq_true]
  intro hd
  rw [isDirectory] at hd
  split at hd
  case h_2 => cases hd
  case h_1 name hl =>
    obtain ⟨hlong, hw⟩ := locate_eq_ok_iff.mp hl
    rw [makeDirectory, if_neg (ne_of_eq_of_ne hlong Bool.false_ne_true)] at h
    split at h
    · cases h
    next part hlast =>
    have hparts : p.parts = p.parent.parts ++ [part] :=
      (List.dropLast_append_getLast? part hlast).symm
    rw [hparts, walk_append] at hw
    cases hw' : t.walk (t.start p) p.parent.parts with
    | error e =>
      rw [hw'] at hw
      cases hw
    | ok place =>
      -- whatever is wrong with the place itself, it is not that it is missing
      rw [hw'] at h
      dsimp only at h
      repeat' split at h
      all_goals cases h

theorem not_isDirectory_ensureDirectory {t : FileTree} {p : HostPath}
    {problem : FileProblem × HostPath}
    (h : (t.ensureDirectory p).2 = some problem) :
    (t.ensureDirectory p).1.isDirectory p = false := by
  rw [ensureDirectory] at h ⊢
  cases hm : t.makeDirectory p with
  | ok t' =>
    rw [hm] at h
    cases h
  | error e =>
    rw [hm] at h
    dsimp only at h ⊢
    by_cases hd : (decide (e ≠ .missing) && t.isDirectory p) = true
    · rw [if_pos hd] at h
      cases h
    · rw [if_neg hd]
      by_cases he : e = .missing
      · exact isDirectory_of_missing (he ▸ hm)
      · simpa [he] using hd

theorem not_isDirectory_ensureDirectories {t : FileTree} {p : HostPath}
    {problem : FileProblem × HostPath}
    (h : (t.ensureDirectories p).2 = some problem) :
    (t.ensureDirectories p).1.isDirectory p = false := by
  fun_induction ensureDirectories t p generalizing problem with
  | case1 p hm => exact isDirectory_of_missing hm
  | case2 p _ hp t' e hparent ih =>
    rw [hparent] at ih
    rw [← Bool.not_eq_true]
    intro hd
    exact Bool.false_ne_true ((ih rfl).symm.trans (isDirectory_parent hd hp))
  | case3 p _ _ t' => exact not_isDirectory_ensureDirectory h
  | case4 p => exact not_isDirectory_ensureDirectory h

end FileTree

namespace Machine

/-- Holds if the text of a path can be given to the system. -/
def IsNamable (p : HostPath) : Prop := p.toString.toList.contains '\x00' = false

/-- What making directories ends with, given the problem with them. -/
def madeOr (problem : Option (FileProblem × HostPath)) : Except Failure Unit :=
  match problem with
  | some (e, place) => .error (.file e place.toString)
  | none => .ok ()

theorem run_ensureDirectories {p : HostPath} (h : IsNamable p) (m : Machine) :
    (ensureDirectories p).run m =
      ⟨[], { m with tree := (m.tree.ensureDirectories p).1 },
        madeOr (m.tree.ensureDirectories p).2⟩ := by
  have hp : requirePath p = pure () :=
    if_neg (ne_of_eq_of_ne h Bool.false_ne_true)
  rw [ensureDirectories, hp, pure_bind, Act.run_bind_ok (Act.run_get m)]
  rcases m.tree.ensureDirectories p with ⟨tree, _ | ⟨e, place⟩⟩ <;> rfl

theorem run_ensureDirectories_of_not {p : HostPath} (h : ¬IsNamable p)
    (m : Machine) :
    (ensureDirectories p).run m =
      ⟨[], m, .error (.plain .value (some "embedded null byte"))⟩ := by
  have hp :
      requirePath p = Act.fail (.plain .value (some "embedded null byte")) :=
    if_pos ((Bool.not_eq_false _).mp h)
  rw [ensureDirectories, hp]
  rfl

/-- Making directories changes the tree at most by them. -/
theorem laid_run_ensureDirectories (p : HostPath) (m : Machine) :
    ((ensureDirectories p).run m).events = [] ∧
      ∃ tree, FileTree.Laid p m.tree tree ∧
        ((ensureDirectories p).run m).state = { m with tree } := by
  by_cases h : IsNamable p
  · rw [run_ensureDirectories h]
    exact ⟨rfl, _, FileTree.laid_ensureDirectories m.tree p, rfl⟩
  · rw [run_ensureDirectories_of_not h]
    exact ⟨rfl, m.tree, .refl p m.tree, rfl⟩

end Machine

end SingleNode
