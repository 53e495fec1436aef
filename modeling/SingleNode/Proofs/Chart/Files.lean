/-
# The files that are looked for

Before anything is done the files that the options name must be there.
`Machine.fileFailure?` is what is said of a file, and looking for all of them
ends with what is said of the first file of which anything is said
(`run_requireFiles`).  Looking for files does nothing.

A file is missed if its path does not lead to a regular file.  There is one path
for which that cannot even be told: a path with a part that is too long for the
system leads to an error of the system instead of a fault of the installation.
-/
import SingleNode.Chart.Installation
import SingleNode.Proofs.Act.Deeds

namespace SingleNode

namespace HostPath

theorem splitList_of_notMem {mark : Char} {cs : List Char} (h : mark ∉ cs) :
    Text.splitList mark cs = [cs] := by
  induction cs with
  | nil => rfl
  | cons c rest ih =>
    rw [List.mem_cons, not_or] at h
    rw [Text.splitList, if_neg (Ne.symm h.1), ih h.2]

theorem ofString_part {part : List Char} (hs : '/' ∉ part) (he : part ≠ [])
    (hd : part ≠ ['.']) :
    ofString (String.ofList part) = ⟨"", [String.ofList part]⟩ := by
  have hroot : (part.takeWhile (· == '/')).length = 0 := by
    cases part with
    | nil => rfl
    | cons c rest =>
      have hc : c ≠ '/' := fun h => hs (h ▸ List.mem_cons_self)
      simp [hc]
  have hkeep : String.ofList part ≠ "" ∧ String.ofList part ≠ "." := by
    constructor
    · intro h
      exact he (by simpa using congrArg String.toList h)
    · intro h
      exact hd (by simpa using congrArg String.toList h)
  simp only [ofString, Text.split, String.toList_ofList, hroot, rootOf,
    splitList_of_notMem hs]
  simp [hkeep.1, hkeep.2]

theorem toString_part (part : String) :
    HostPath.toString ⟨"", [part]⟩ = part := by
  simp [HostPath.toString]

end HostPath

namespace Machine

/-- Holds if a path leads to a regular file. -/
def hasFile (m : Machine) (p : HostPath) : Bool :=
  !p.toString.toList.contains '\x00' &&
    match m.tree.isFile p with
    | .ok found => found
    | .error _ => false

/-- Holds if the path is one for which the system refuses to look. -/
def refusesPath (m : Machine) (p : HostPath) : Bool :=
  !p.toString.toList.contains '\x00' &&
    match m.tree.isFile p with
    | .ok _ => false
    | .error _ => true

theorem isFile_error {t : FileTree} {p : HostPath} {e : FileProblem}
    (h : t.isFile p = .error e) : e = .nameTooLong := by
  simp only [FileTree.isFile] at h
  split at h
  · exact nomatch h
  · exact (Except.error.inj h).symm
  · exact nomatch h

theorem hasFile_of_refusesPath (m : Machine) {p : HostPath}
    (h : m.refusesPath p = true) :
    m.hasFile p = false := by
  simp only [refusesPath, Bool.and_eq_true] at h
  obtain ⟨hp, h⟩ := h
  simp only [hasFile, hp, Bool.true_and]
  cases hm : m.tree.isFile p with
  | ok found => simp [hm] at h
  | error e => rfl

theorem run_isFile (m : Machine) (p : HostPath) :
    (isFile p).run m =
      ⟨[], m,
        if m.refusesPath p then .error (.file .nameTooLong p.toString)
        else .ok (m.hasFile p)⟩ := by
  cases hp : p.toString.toList.contains '\x00' with
  | true =>
    simp only [isFile, hp, if_true, refusesPath, hasFile, Bool.not_true,
      Bool.false_and]
    rfl
  | false =>
    simp only [isFile, hp, Bool.false_eq_true, if_false, Act.run_bind,
      Act.run_get, refusesPath, hasFile, Bool.not_false, Bool.true_and]
    cases h : m.tree.isFile p with
    | ok found => rfl
    | error e =>
      rw [isFile_error h]
      rfl

theorem refusesPath_of_long {m : Machine} {part : List Char}
    (hb : m.tree.isDirectoryName m.tree.base = true) (hs : '/' ∉ part)
    (hn : '\x00' ∉ part)
    (hl : FileTree.maxPartBytes < (String.ofList part).utf8ByteSize) :
    m.refusesPath (HostPath.ofString (String.ofList part)) = true := by
  have hne (cs : List Char)
      (hcs : (String.ofList cs).utf8ByteSize ≤ FileTree.maxPartBytes) :
      part ≠ cs := by
    rintro rfl
    exact absurd hl (Nat.not_lt.mpr hcs)
  have hp :=
    HostPath.ofString_part hs (hne [] (by decide +kernel))
    (hne ['.'] (by decide +kernel))
  have hdd : String.ofList part ≠ ".." := by
    intro h
    exact hne ['.', '.'] (by decide +kernel)
      (by simpa using congrArg String.toList h)
  have hw :
      m.tree.walk m.tree.base [String.ofList part] = .error .nameTooLong := by
    rw [FileTree.walk, if_neg (by simp [hb]), if_neg hdd, if_pos hl]
  have hi : m.tree.isFile ⟨"", [String.ofList part]⟩ = .error .nameTooLong := by
    simp only [FileTree.isFile, FileTree.locate, FileTree.start,
      HostPath.isAbsolute]
    by_cases ht : FileTree.isTooLong ⟨"", [String.ofList part]⟩ = true
    · simp [ht]
    · simp [ht, hw]
  simp [refusesPath, hp, HostPath.toString_part, hi, hn]

end Machine

namespace Chart.Target

/-- What is said of a named file that is not there. -/
def fileFailure (m : Machine) (file : String) : Failure :=
  if m.refusesPath (HostPath.ofString file) then
    .file .nameTooLong (HostPath.ofString file).toString
  else .ofFault .install ("file " ++ file ++ " does not exist")

/-- The first named file that is not there. -/
def missingFile? (m : Machine) (o : Installation.Options) : Option String :=
  (namedFiles o).find? fun file => !m.hasFile (HostPath.ofString file)

/-- Looking for the files ends with what is said of the first that is not
there. -/
theorem run_requireFiles (o : Installation.Options) (m : Machine) :
    (requireFiles o).run m =
      ⟨[], m,
        match missingFile? m o with
        | some file => .error (fileFailure m file)
        | none => .ok ()⟩ := by
  simp only [requireFiles, missingFile?]
  induction namedFiles o with
  | nil => rfl
  | cons file rest ih =>
    rw [Act.forEach, Act.run_bind, Act.run_bind, Machine.run_isFile,
      List.find?_cons]
    cases hr : m.refusesPath (HostPath.ofString file) with
    | true => simp [m.hasFile_of_refusesPath hr, fileFailure, hr]
    | false =>
      cases hf : m.hasFile (HostPath.ofString file) with
      | true =>
        simp only [Bool.false_eq_true, if_false, Bool.not_true, Act.run_pure]
        rw [ih]
        rfl
      | false => simp [fileFailure, hr]

end Chart.Target

end SingleNode
