import OntoWrap.Proofs.JoinedPaths

/-!
# What stays in a file tree

A path leads to one location, whatever the tree holds (`FileTree.destination`): `locate` gives this
location or fails.  Two trees are the same but for some locations (`FileTree.SameBut`) if they have
the same files everywhere else and no folder of the first is missing in the second; new folders do
not count.  A path that leads somewhere in the first tree leads there in the second
(`SameBut.locate`), so a file that can be read at a path and is not at one of these locations can be
read there still (`SameBut.read`).
-/
namespace OntoWrap.FileTree

variable {tree after : FileTree} {location other : Location} {path : String} {bytes : ByteArray}

/-! ## 1. Files -/

/-- The bytes of the file at a location, if a file is there. -/
def fileAt? (tree : FileTree) (location : Location) : Option ByteArray :=
  match tree.get? location with
  | some (.file bytes) => some bytes
  | _ => none

theorem fileAt?_eq_some_iff : tree.fileAt? location = some bytes ↔
    tree.get? location = some (.file bytes) := by
  rw [fileAt?]
  split
  · rename_i found hfile
    rw [hfile, Option.some.injEq, Option.some.injEq, Entry.file.injEq]
  · rename_i hnone
    simp only [reduceCtorEq, false_iff]
    exact hnone bytes

/-- What is put at one location changes no other file. -/
theorem fileAt?_put_of_ne {entry : Entry} (h : other ≠ location) :
    (tree.put location entry).fileAt? other = tree.fileAt? other := by
  unfold fileAt?
  rw [get?_put]
  by_cases hroot : other = []
  · simp [hroot, get?]
  · simp [hroot, h]

theorem fileAt?_remove_of_ne (h : other ≠ location) :
    (tree.remove location).fileAt? other = tree.fileAt? other := by
  unfold fileAt?
  rw [get?_remove]
  by_cases hroot : other = []
  · simp [hroot, get?]
  · simp [hroot, h]

/-- What is not the root is free once it has been taken away. -/
theorem get?_remove_self (h : location ≠ []) : (tree.remove location).get? location = none := by
  rw [get?_remove, if_neg h, if_pos rfl]

theorem get?_put_self {entry : Entry} (h : location ≠ []) :
    (tree.put location entry).get? location = some entry := by
  rw [get?_put, if_neg h, if_pos rfl]

/-- The root is never free. -/
theorem ne_nil_of_free (h : tree.get? location = none) : location ≠ [] := by
  rintro rfl
  cases h

/-! ## 2. Where a path leads -/

/-- Where segments lead from a folder, if all folders on the way are there. -/
def resolve (start : Location) : List String → Location
  | [] => start
  | segment :: rest =>
    if segment = "." then resolve start rest
    else if segment = ".." then resolve start.dropLast rest
    else resolve (start ++ [segment]) rest

/-- The location that a path leads to, if all folders on the way are there. -/
def destination (tree : FileTree) (path : String) : Location :=
  resolve (if Path.isAbsolute path then [] else tree.home) (Path.segments path)

theorem resolve_append {start : Location} (l m : List String) :
    resolve start (l ++ m) = resolve (resolve start l) m := by
  induction l generalizing start with
  | nil => rfl
  | cons segment l ih =>
    rw [List.cons_append, resolve, resolve]
    split_ifs
    · exact ih
    · exact ih
    · exact ih

/-- Names other than dots lead down. -/
theorem resolve_names {start : Location} {names : List String}
    (h : ∀ name ∈ names, name ≠ "." ∧ name ≠ "..") : resolve start names = start ++ names := by
  induction names generalizing start with
  | nil => rw [resolve, List.append_nil]
  | cons name names ih =>
    obtain ⟨hdot, hdots⟩ := h name List.mem_cons_self
    rw [resolve, if_neg hdot, if_neg hdots,
      ih fun other hother => h other (List.mem_cons_of_mem _ hother), List.append_assoc,
      List.singleton_append]

/-- A path of names leads down from where the folder is that it is joined to. -/
theorem destination_join {base relative : String} (hrelative : Path.isAbsolute relative = false)
    (hnames : ∀ name ∈ Path.segments relative, name ≠ "." ∧ name ≠ "..") :
    tree.destination (Path.join base relative) =
      tree.destination base ++ Path.segments relative := by
  rw [destination, Path.isAbsolute_join hrelative, Path.segments_join hrelative, resolve_append,
    resolve_names hnames, destination]

theorem resolve_of_follow {start : Location} {segments : List String}
    (h : tree.follow start segments = .ok location) : location = resolve start segments := by
  induction segments generalizing start with
  | nil => exact (Except.ok.inj h).symm
  | cons segment rest ih =>
    rw [follow] at h
    rw [resolve]
    split at h
    · cases h
    · cases h
    · split_ifs at h ⊢
      · exact ih h
      · exact ih h
      · exact ih h

/-- **A path leads to one location**, if it leads anywhere. -/
theorem destination_of_locate (h : tree.locate path = .ok location) :
    location = tree.destination path := by
  rw [locate] at h
  split at h
  · cases h
  · split at h
    · cases h
    · exact resolve_of_follow h

/-! ## 3. Trees that differ at some locations -/

/-- The second tree has the files of the first one everywhere but at the changed locations, and all
its folders. -/
structure SameBut (changed : Location → Prop) (tree after : FileTree) : Prop where
  home : after.home = tree.home
  folders : ∀ location, tree.get? location = some .folder → after.get? location = some .folder
  files : ∀ location, ¬ changed location → after.fileAt? location = tree.fileAt? location

/-- The second tree has the files of the first one and all its folders. -/
abbrev Within (tree after : FileTree) : Prop := tree.SameBut (fun _ => False) after

namespace SameBut

variable {changed changed' : Location → Prop} {third : FileTree}

theorem refl (tree : FileTree) : tree.SameBut changed tree := ⟨rfl, fun _ => id, fun _ _ => rfl⟩

theorem mono (h : tree.SameBut changed after)
    (hchanged : ∀ location, changed location → changed' location) : tree.SameBut changed' after :=
  ⟨h.home, h.folders, fun location hkept => h.files location fun hc => hkept (hchanged location hc)⟩

theorem trans (h : tree.SameBut changed after) (h' : after.SameBut changed third) :
    tree.SameBut changed third where
  home := h'.home.trans h.home
  folders := fun location hfolder => h'.folders location (h.folders location hfolder)
  files := fun location hkept => (h'.files location hkept).trans (h.files location hkept)

theorem destination (h : tree.SameBut changed after) (path : String) :
    after.destination path = tree.destination path := by
  rw [FileTree.destination, FileTree.destination, h.home]

theorem follow (h : tree.SameBut changed after) {start : Location} {segments : List String}
    (hfollow : tree.follow start segments = .ok location) :
    after.follow start segments = .ok location := by
  induction segments generalizing start with
  | nil => exact hfollow
  | cons segment rest ih =>
    rw [FileTree.follow] at hfollow ⊢
    split at hfollow
    · cases hfollow
    · cases hfollow
    · rename_i hfolder
      rw [h.folders start hfolder]
      split_ifs at hfollow ⊢
      · exact ih hfollow
      · exact ih hfollow
      · exact ih hfollow

/-- **A path that leads somewhere leads there still.** -/
theorem locate (h : tree.SameBut changed after) (hlocate : tree.locate path = .ok location) :
    after.locate path = .ok location := by
  rw [FileTree.locate] at hlocate ⊢
  rw [h.home]
  split at hlocate
  · cases hlocate
  · rename_i hname
    split at hlocate
    · cases hlocate
    · rename_i hshort
      rw [if_neg hname, if_neg hshort]
      exact h.follow hlocate

end SameBut

/-- What it takes to read a file at a path. -/
theorem read_eq_ok_iff : tree.read path = .ok bytes ↔
    tree.locate path = .ok (tree.destination path) ∧ Path.endsInSlash path = false ∧
      tree.fileAt? (tree.destination path) = some bytes := by
  rw [read, bind_eq_ok_iff]
  constructor
  · rintro ⟨location, hlocate, hread⟩
    obtain rfl := destination_of_locate hlocate
    split at hread
    · cases hread
    · cases hread
    · rename_i found hfile
      split at hread
      · cases hread
      · rename_i hslash
        obtain rfl := Except.ok.inj hread
        exact ⟨hlocate, by simpa using hslash, fileAt?_eq_some_iff.mpr hfile⟩
  · rintro ⟨hlocate, hslash, hfile⟩
    refine ⟨_, hlocate, ?_⟩
    rw [fileAt?_eq_some_iff.mp hfile]
    simp [hslash]

/-- **A file that has not changed can be read still.** -/
theorem SameBut.read {changed : Location → Prop} (h : tree.SameBut changed after)
    (hkept : ¬ changed (tree.destination path)) (hread : tree.read path = .ok bytes) :
    after.read path = .ok bytes := by
  obtain ⟨hlocate, hslash, hfile⟩ := read_eq_ok_iff.mp hread
  refine read_eq_ok_iff.mpr ?_
  rw [h.destination]
  exact ⟨h.locate hlocate, hslash, (h.files _ hkept).trans hfile⟩

/-! ## 4. Single changes -/

/-- A new folder is in nobody's way. -/
theorem within_put_folder (h : tree.get? location = none) :
    tree.Within (tree.put location .folder) := by
  have hne : location ≠ [] := ne_nil_of_free h
  refine ⟨rfl, fun other hfolder => ?_, fun other _ => ?_⟩
  · rw [get?_put, hfolder]
    split_ifs <;> rfl
  · by_cases hother : other = location
    · subst hother
      rw [fileAt?, get?_put_self hne, fileAt?, h]
    · exact fileAt?_put_of_ne hother

/-- A file that is put where no folder is changes nothing elsewhere. -/
theorem sameBut_put_file (h : tree.get? location ≠ some .folder) :
    tree.SameBut (· = location) (tree.put location (.file bytes)) := by
  refine ⟨rfl, fun other hfolder => ?_, fun other hother => fileAt?_put_of_ne hother⟩
  have hother : other ≠ location := by
    rintro rfl
    exact h hfolder
  rw [get?_put, if_neg hother, hfolder, ite_self]

/-- A file that was not there before can be taken away again. -/
theorem SameBut.remove (h : tree.SameBut (· = location) after) (hfree : tree.get? location = none) :
    tree.Within (after.remove location) := by
  have hne : location ≠ [] := ne_nil_of_free hfree
  refine ⟨h.home, fun other hfolder => ?_, fun other _ => ?_⟩
  · have hother : other ≠ location := by
      rintro rfl
      simp [hfree] at hfolder
    rw [get?_remove, if_neg hother, h.folders other hfolder, ite_self]
  · by_cases hother : other = location
    · subst hother
      rw [fileAt?, get?_remove_self hne, fileAt?, hfree]
    · rw [fileAt?_remove_of_ne hother, h.files other hother]

end OntoWrap.FileTree
