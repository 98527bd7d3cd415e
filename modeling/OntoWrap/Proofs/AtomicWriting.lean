import OntoWrap.Proofs.FileTrees
import OntoWrap.Proofs.FileWork

/-!
# A file is written as a whole or not at all

Writing makes folders, fills a temporary file under a free name and moves it into place.  Each of
these steps can be hindered, and each can fail on what it finds.  Whatever happens, the file of the
path holds what it held before or all of the new bytes, at every moment, and no other file changes
but the temporary one (`FileTree.Replacing`).  In the end the temporary file is gone: either the new
bytes can be read at the path and all else is as before, or everything is as before but for new
folders (`FileAction.keeps_write`).  A file that has the wanted bytes already is not touched
(`FileAction.keeps_write_of_read`).
-/
namespace OntoWrap

variable {base tree : FileTree} {path : String} {bytes content : ByteArray} {temporary : Location}

/-! ## 1. Temporary files -/

/-- The name at a location is one for temporary files. -/
def IsTemporary (location : Location) : Prop :=
  ∃ folder n, location = folder ++ [FileAction.temporaryName n]

/-- A tree met while the file of a path is replaced: each file holds what it held, but for the file
of the path, which may hold the new bytes, and for a temporary file where none was. -/
def FileTree.Replacing (base : FileTree) (path : String) (bytes : ByteArray)
    (tree : FileTree) : Prop :=
  ∀ location, tree.fileAt? location = base.fileAt? location ∨
    (location = base.destination path ∧ tree.fileAt? location = some bytes) ∨
    IsTemporary location ∧ base.fileAt? location = none

/-- A temporary file stands where nothing was, and all else is as before but for new folders. -/
structure FileTree.Staged (base : FileTree) (temporary : Location) (content : ByteArray)
    (tree : FileTree) : Prop where
  named : IsTemporary temporary
  free : base.get? temporary = none
  same : base.SameBut (· = temporary) tree
  file : tree.get? temporary = some (.file content)

/-- The new bytes can be read at the path, and all else is as before but for new folders. -/
structure FileTree.Replaced (base : FileTree) (path : String) (bytes : ByteArray)
    (tree : FileTree) : Prop where
  same : base.SameBut (· = base.destination path) tree
  read : tree.read path = .ok bytes

namespace FileTree

theorem Within.replacing (h : base.Within tree) : base.Replacing path bytes tree :=
  fun location => .inl (h.files location id)

theorem Staged.replacing (h : base.Staged temporary content tree) :
    base.Replacing path bytes tree := by
  intro location
  by_cases hlocation : location = temporary
  · subst hlocation
    refine .inr (.inr ⟨h.named, ?_⟩)
    rw [fileAt?, h.free]
  · exact .inl (h.same.files location hlocation)

theorem Replaced.replacing (h : base.Replaced path bytes tree) :
    base.Replacing path bytes tree := by
  intro location
  by_cases hlocation : location = base.destination path
  · refine .inr (.inl ⟨hlocation, ?_⟩)
    rw [hlocation, ← h.same.destination]
    exact (read_eq_ok_iff.mp h.read).2.2
  · exact .inl (h.same.files location hlocation)

/-- A file under a free temporary name is staged. -/
theorem Within.staged (h : base.Within tree) (hnamed : IsTemporary temporary)
    (hfree : tree.get? temporary = none) :
    base.Staged temporary content (tree.put temporary (.file content)) := by
  have hbase : base.get? temporary = none := by
    cases hentry : base.get? temporary with
    | none => rfl
    | some entry =>
      cases entry with
      | folder => simp [h.folders temporary hentry] at hfree
      | file found =>
        have hfile := h.files temporary id
        rw [fileAt?, hfree, fileAt?, hentry] at hfile
        cases hfile
  refine ⟨hnamed, hbase, ?_, get?_put_self (ne_nil_of_free hfree)⟩
  exact (h.mono fun _ => False.elim).trans (sameBut_put_file (by simp [hfree]))

/-- A temporary file may get other bytes. -/
theorem Staged.put (h : base.Staged temporary content tree) :
    base.Staged temporary bytes (tree.put temporary (.file bytes)) :=
  ⟨h.named, h.free, h.same.trans (sameBut_put_file (by simp [h.file])),
    get?_put_self (ne_nil_of_free h.free)⟩

theorem Staged.remove (h : base.Staged temporary content tree) :
    base.Within (tree.remove temporary) :=
  h.same.remove h.free

/-- **A temporary file is moved into place.** -/
theorem Staged.replaced (h : base.Staged temporary bytes tree)
    (hlocate : tree.locate path = .ok (tree.destination path))
    (hslash : Path.endsInSlash path = false)
    (hfolder : tree.get? (tree.destination path) ≠ some .folder) :
    base.Replaced path bytes
      ((tree.remove temporary).put (tree.destination path) (.file bytes)) := by
  have hdestination := h.same.destination path
  have hroot : tree.destination path ≠ [] := by
    intro hroot
    exact hfolder (by rw [hroot]; rfl)
  have hcleared : (tree.remove temporary).get? (tree.destination path) ≠ some .folder := by
    rw [get?_remove, if_neg hroot]
    split_ifs
    · simp
    · exact hfolder
  have hput : (tree.remove temporary).SameBut (· = tree.destination path)
      ((tree.remove temporary).put (tree.destination path) (.file bytes)) :=
    sameBut_put_file hcleared
  -- no folder is lost on the way, so the path leads there still
  have hafter : tree.SameBut (fun _ => True)
      ((tree.remove temporary).put (tree.destination path) (.file bytes)) := by
    refine ⟨rfl, fun other hother => hput.folders other ?_, fun _ hkept => absurd trivial hkept⟩
    have hne : other ≠ temporary := by
      rintro rfl
      simp [h.file] at hother
    rw [get?_remove, if_neg hne, hother, ite_self]
  refine ⟨?_, read_eq_ok_iff.mpr ?_⟩
  · rw [← hdestination]
    exact (h.remove.mono fun _ => False.elim).trans hput
  · rw [hafter.destination]
    exact ⟨hafter.locate hlocate, hslash, fileAt?_eq_some_iff.mpr (get?_put_self hroot)⟩

end FileTree

/-! ## 2. Folders -/

namespace FileAction

open FileTree

theorem preserves_makeFolder (path : String) : (makeFolder path).Preserves base.Within := by
  intro tree h
  refine Keeps.bind (keeps_locate h (fun location _ => ?_) ⟨h, h⟩)
  refine Keeps.bind (keeps_lookAt h ?_)
  cases hfree : tree.get? location with
  | some entry => exact keeps_throw h h
  | none =>
    have hmade := h.trans (within_put_folder hfree)
    refine keeps_change (fun moment hduring => ?_) hmade fun _ => h
    cases hduring with
    | before => exact h
    | after => exact hmade

theorem preserves_ensureFolder (path : String) : (ensureFolder path).Preserves base.Within := by
  refine (preserves_makeFolder path).tryCatch fun fault => ?_
  refine (Preserves.isFolder path).bind fun folder => ?_
  split
  · exact Preserves.pure _
  · exact Preserves.throw _

/-- Making folders changes no file. -/
theorem preserves_ensureFolders (paths : List String) :
    (ensureFolders paths).Preserves base.Within := by
  induction paths with
  | nil => exact Preserves.pure _
  | cons path above ih =>
    refine (preserves_ensureFolder path).tryCatch fun fault => ?_
    dsimp only
    split
    · exact ih.bind fun _ => preserves_ensureFolder path
    · exact (Preserves.throw fault).bind fun _ => ih.bind fun _ => preserves_ensureFolder path

/-! ## 3. Replacing a file -/

theorem keeps_stage (h : base.Within tree) (folder : Location) :
    (stage folder).Keeps (base.Replacing path bytes)
      (fun temporary tree => ∃ content, base.Staged temporary content tree) base.Within tree := by
  refine keeps_look ?_
  dsimp only
  split
  · rename_i temporary hfound
    have hfree : tree.get? temporary = none := by simpa using List.find?_some hfound
    have hnamed : IsTemporary temporary := by
      obtain ⟨n, -, hn⟩ := List.mem_map.mp (List.mem_of_find?_eq_some hfound)
      exact ⟨folder, n, hn.symm⟩
    have hstaged : base.Staged temporary .empty (tree.put temporary (.file .empty)) :=
      h.staged hnamed hfree
    refine Keeps.bind (keeps_change (fun moment hduring => ?_) ?_ fun _ => ⟨h.replacing, h⟩)
    · cases hduring with
      | before => exact h.replacing
      | after => exact hstaged.replacing
    · exact keeps_pure hstaged.replacing ⟨_, hstaged⟩
  · exact keeps_throw h.replacing h

theorem keeps_commit (h : base.Staged temporary bytes tree) :
    (commit temporary path).Keeps (base.Replacing path bytes)
      (fun _ => base.Replaced path bytes)
      (fun tree => ∃ content, base.Staged temporary content tree)
      tree := by
  have hstart : base.Replacing path bytes tree := h.replacing
  have hfails : ∃ content, base.Staged temporary content tree := ⟨bytes, h⟩
  refine Keeps.bind (keeps_locate hstart (fun location hlocate => ?_) ⟨hstart, hfails⟩)
  obtain rfl := destination_of_locate hlocate
  dsimp only
  split
  · exact Keeps.bind (keeps_throw hstart ⟨hstart, hfails⟩)
  · rename_i hslash
    refine Keeps.bind (keeps_lookAt hstart ?_)
    split
    · exact keeps_throw hstart hfails
    · rename_i hfolder
      have hmoved : base.Replaced path bytes
          ((FileStep.move temporary (tree.destination path)).apply tree) := by
        rw [FileStep.apply, h.file]
        exact h.replaced hlocate (by simpa using hslash) fun hentry => hfolder hentry
      refine Keeps.bind (keeps_lookAt hstart ?_)
      rw [h.file]
      refine keeps_change (fun moment hduring => ?_) hmoved fun _ => hfails
      cases hduring with
      | before => exact hstart
      | after => exact hmoved.replacing

theorem keeps_install (h : base.Staged temporary content tree) :
    (install temporary path bytes).Keeps (base.Replacing path bytes)
      (fun _ => base.Replaced path bytes)
      (fun tree => ∃ content, base.Staged temporary content tree)
      tree := by
  refine Keeps.bind (keeps_change (fun moment hduring => ?_) ?_ fun filled => ?_)
  · cases hduring with
    | before => exact h.replacing
    | after => exact h.put.replacing
    | filling => exact h.put.replacing
  · refine Keeps.bind (keeps_change (fun moment hduring => ?_) ?_ fun _ => ?_)
    · cases hduring with
      | before => exact h.put.replacing
      | after => exact h.put.replacing
    · exact keeps_commit h.put
    · exact ⟨h.put.replacing, _, h.put⟩
  · exact ⟨h.put.replacing, _, h.put⟩

theorem keeps_replace (h : base.Within tree) (folder : Location) :
    (replace folder path bytes).Keeps (base.Replacing path bytes)
      (fun _ => base.Replaced path bytes) base.Within tree := by
  refine Keeps.bind ((keeps_stage h folder).mono (fun _ => id) ?_ fun _ hfailed =>
    ⟨hfailed.replacing, hfailed⟩)
  rintro temporary staged ⟨content, hstaged⟩
  refine Keeps.tryCatch ((keeps_install hstaged).mono (fun _ => id)
    (fun _ _ hdone => ⟨hdone.replacing, hdone⟩) ?_)
  rintro left ⟨rest, hleft⟩ fault
  refine Keeps.bind (keeps_discard (fun moment hduring => ?_) ?_)
  · cases hduring with
    | before => exact hleft.replacing
    | after => exact hleft.remove.replacing
  · exact keeps_throw hleft.remove.replacing hleft.remove

/-! ## 4. Writing -/

theorem bytes_beq_iff {found wanted : ByteArray} : (found == wanted) = true ↔ found = wanted := by
  obtain ⟨found⟩ := found
  obtain ⟨wanted⟩ := wanted
  have hdata : (found == wanted) = true ↔ found = wanted := beq_iff_eq
  rw [ByteArray.mk.injEq]
  exact hdata

/-- Looking at a file changes nothing, and a file is only taken for the wanted one if it can be read
and has the wanted bytes. -/
theorem keeps_holds {always fails : FileTree → Prop} {returns : Bool → FileTree → Prop}
    (halways : always tree) (htrue : tree.read path = .ok bytes → returns true tree)
    (hfalse : tree.read path ≠ .ok bytes → returns false tree) :
    (holds path bytes).Keeps always returns fails tree := by
  refine keeps_look ?_
  split
  · rename_i found hread
    refine keeps_pure halways ?_
    cases hsame : found == bytes with
    | true =>
      rw [bytes_beq_iff.mp hsame] at hread
      exact htrue hread
    | false =>
      refine hfalse fun hwanted => ?_
      rw [hread, Except.ok.injEq] at hwanted
      simp [bytes_beq_iff.mpr hwanted] at hsame
  · rename_i fault hread
    refine keeps_pure halways (hfalse fun hwanted => ?_)
    rw [hread] at hwanted
    cases hwanted

/-- **A file is written as a whole or not at all**, whatever hinders it: at every moment its path
leads to what it led to before or to all of the new bytes, and in the end nothing else has
changed. -/
theorem keeps_write (tree : FileTree) (path text : String) :
    (write path text).Keeps (tree.Replacing path text.toUTF8)
      (fun _ => tree.Replaced path text.toUTF8) tree.Within tree := by
  have hstart : tree.Within tree := .refl tree
  rw [write]
  refine Keeps.bind (keeps_holds hstart.replacing (fun hread => ?_) fun _ => ?_)
  · have hkept : tree.Replaced path text.toUTF8 tree := ⟨.refl tree, hread⟩
    exact keeps_pure hkept.replacing hkept
  · rw [if_neg Bool.false_ne_true]
    refine Keeps.bind ((preserves_ensureFolders _ tree hstart).mono (fun _ => Within.replacing) ?_
      fun _ hfailed => ⟨hfailed.replacing, hfailed⟩)
    intro _ made hmade
    refine Keeps.bind (keeps_locate hmade.replacing (fun folder _ => ?_) ⟨hmade.replacing, hmade⟩)
    refine Keeps.bind ((keeps_replace hmade folder).mono (fun _ => id) ?_
      fun _ hfailed => ⟨hfailed.replacing, hfailed⟩)
    intro _ written hwritten
    exact keeps_pure hwritten.replacing hwritten

/-- **A file that has the wanted bytes already is not touched.** -/
theorem keeps_write_of_read {text : String} (h : tree.read path = .ok text.toUTF8) :
    (write path text).Keeps (· = tree) (fun outcome after => outcome = .unchanged ∧ after = tree)
      (fun _ => False) tree := by
  rw [write]
  refine Keeps.bind (keeps_holds rfl (fun _ => ?_) fun hread => absurd h hread)
  exact keeps_pure rfl ⟨rfl, rfl⟩

end FileAction

end OntoWrap
