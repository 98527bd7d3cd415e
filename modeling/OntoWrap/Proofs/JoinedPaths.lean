import OntoWrap.Files.Tree
import OntoWrap.Proofs.Rendering

/-!
# Paths below a folder

The segments of a joined path are those of the folder and then those of what is below it
(`Path.segments_join`).  A path of names leads down from the folder that it is joined to, in every
file tree (`FileTree.locate_join`).
-/
namespace OntoWrap

/-! ## 1. Segments -/

namespace Path

theorem segments_slash (a b : String) : segments (a ++ "/" ++ b) = segments a ++ segments b := by
  have hchars : (a ++ "/" ++ b).toList = a.toList ++ '/' :: b.toList := by simp
  simp only [segments, hchars, List.splitOn_append_cons_self, List.filter_append, List.map_append]

theorem segments_join {base relative : String} (h : isAbsolute relative = false) :
    segments (join base relative) = segments base ++ segments relative := by
  have hempty : segments "" = [] := by decide
  rw [join, if_neg (by simp [h])]
  split
  · rename_i hopen
    rcases Bool.or_eq_true _ _ ▸ hopen with hbase | hbase
    · rw [String.isEmpty_iff.mp hbase, String.empty_append, hempty, List.nil_append]
    · obtain ⟨front, hfront⟩ := List.getLast?_eq_some_iff.mp (of_decide_eq_true hbase)
      have hbase : base = String.ofList front ++ "/" ++ "" :=
        String.toList_injective (by simp [hfront])
      rw [hbase, String.append_empty, segments_slash, ← String.append_empty (s := _ ++ "/"),
        segments_slash, hempty, List.append_nil]
  · rw [segments_slash]

theorem isAbsolute_join {base relative : String} (h : isAbsolute relative = false) :
    isAbsolute (join base relative) = isAbsolute base := by
  rw [join, if_neg (by simp [h])]
  by_cases hbase : base = ""
  · subst hbase
    simpa [isAbsolute] using h
  · obtain ⟨c, rest, hchars⟩ := List.exists_cons_of_ne_nil
      (fun hnil => hbase (String.toList_injective hnil))
    split <;> simp [isAbsolute, hchars]

end Path

/-! ## 2. Following -/

namespace FileTree

variable {tree : FileTree} {start location : Location}

/-- Segments are followed one after the other. -/
theorem follow_append (l m : List String) :
    tree.follow start (l ++ m) = tree.follow start l >>= fun folder => tree.follow folder m := by
  induction l generalizing start with
  | nil => rfl
  | cons segment l ih =>
    rw [List.cons_append, follow, follow]
    split
    · rfl
    · rfl
    · split_ifs
      · exact ih
      · exact ih
      · rfl
      · exact ih

/-- Names other than dots lead down. -/
theorem follow_names {names : List String} (h : ∀ name ∈ names, name ≠ "." ∧ name ≠ "..")
    (hfollow : tree.follow start names = .ok location) : location = start ++ names := by
  induction names generalizing start with
  | nil =>
    rw [follow, Except.ok.injEq] at hfollow
    rw [← hfollow, List.append_nil]
  | cons name names ih =>
    obtain ⟨hdot, hdots⟩ := h name List.mem_cons_self
    rw [follow] at hfollow
    split at hfollow
    · cases hfollow
    · cases hfollow
    · rw [if_neg hdot, if_neg hdots] at hfollow
      split at hfollow
      · cases hfollow
      · rw [ih (fun other hother => h other (List.mem_cons_of_mem _ hother)) hfollow,
          List.append_assoc, List.singleton_append]

/-- The location that the segments of a path lead to. -/
def target (tree : FileTree) (path : String) : Except IoFault Location :=
  tree.follow (if Path.isAbsolute path then [] else tree.home) (Path.segments path)

/-- **A path of names leads down from the folder that it is joined to.** -/
theorem locate_join {base relative : String} (hrelative : Path.isAbsolute relative = false)
    (hnames : ∀ name ∈ Path.segments relative, name ≠ "." ∧ name ≠ "..")
    (h : tree.locate (Path.join base relative) = .ok location) :
    ∃ folder, tree.target base = .ok folder ∧ location = folder ++ Path.segments relative := by
  have hfollow : tree.target (Path.join base relative) = .ok location := by
    rw [locate] at h
    split at h
    · cases h
    · split at h
      · cases h
      · exact h
  rw [target, Path.isAbsolute_join hrelative, Path.segments_join hrelative, follow_append,
    bind_eq_ok_iff] at hfollow
  obtain ⟨folder, hfolder, hlocation⟩ := hfollow
  exact ⟨folder, hfolder, follow_names hnames hlocation⟩

end FileTree

end OntoWrap
