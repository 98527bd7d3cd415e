import Mathlib.Data.List.Perm.Basic
import OntoWrap.Proofs.RustModules

/-!
# The module tree is complete

A compiler that starts from the index file of all modules comes to the files that this one declares,
and from the index file of each module to the files declared there (`treePaths`).  These are the
outputs, no more and no fewer.  Every class is re-exported by one module, no index file says
anything twice, and there is no module without classes (`moduleTree_renderAll`).  Class files and
index files are written from the same plans by different code: the former go by the path of each
class, and the latter regroup the classes by the names of their modules, in which several namespaces
may meet.  What joins the two is that the groups of the classes make up all of them
(`perm_flatMap_filter`).
-/
namespace OntoWrap.Rust

open Naming Text Text.Source

/-! ## 1. Grouping -/

/-- **Groups by a key make up the whole list**, if every key is among those that the groups are made
for.  The induction is on the keys: what has the first key comes first, and the others keep to the
rest. -/
theorem perm_flatMap_filter {α β : Type} [DecidableEq β] (key : α → β) {keys : List β}
    (hkeys : keys.Nodup) {l : List α} (h : ∀ a ∈ l, key a ∈ keys) :
    (keys.flatMap fun k => l.filter (key · == k)).Perm l := by
  induction keys generalizing l with
  | nil =>
    have hempty : l = [] := List.eq_nil_iff_forall_not_mem.mpr fun a ha => by simpa using h a ha
    rw [hempty, List.flatMap_nil]
  | cons first rest ih =>
    obtain ⟨hfirst, hrest⟩ := List.nodup_cons.mp hkeys
    have hothers : ∀ a ∈ l.filter (fun a => !(key a == first)), key a ∈ rest := by
      intro a ha
      obtain ⟨ha, hne⟩ := List.mem_filter.mp ha
      exact (List.mem_cons.mp (h a ha)).resolve_left (by simpa using hne)
    have hgroups : ∀ k ∈ rest, l.filter (key · == k) =
        (l.filter fun a => !(key a == first)).filter (key · == k) := by
      intro k hk
      rw [List.filter_filter]
      refine List.filter_congr fun a _ => ?_
      have hapart : key a = k → ¬ key a = first := fun hkey hsame => hfirst (hsame ▸ hkey ▸ hk)
      by_cases hkey : key a = k
      · simp [hkey, hkey ▸ hapart hkey]
      · simp [hkey]
    rw [List.flatMap_cons, List.flatMap_congr hgroups]
    exact ((ih hrest hothers).append_left _).trans (List.filter_append_perm _ l)

/-! ## 2. Lines about modules -/

/-- Whether a line begins as those do that declare a module or re-export a name. -/
def isModuleLine (line : String) : Bool :=
  "pub mod ".toList.isPrefixOf line.toList || "pub use ".toList.isPrefixOf line.toList

/-- The lines about modules. -/
def moduleLines (lines : List String) : List String := lines.filter isModuleLine

theorem moduleLines_append (l m : List String) :
    moduleLines (l ++ m) = moduleLines l ++ moduleLines m :=
  List.filter_append ..

theorem moduleLines_map {α : Type} {front : α → String} {l : List α}
    (h : ∀ a, isModuleLine (front a) = true) : moduleLines (l.map front) = l.map front := by
  refine List.filter_eq_self.mpr fun line hline => ?_
  obtain ⟨a, -, rfl⟩ := List.mem_map.mp hline
  exact h a

theorem isModuleLine_mod (stem : String) : isModuleLine ("pub mod " ++ stem ++ ";") = true := by
  simp [isModuleLine, List.isPrefixOf]

theorem isModuleLine_use (stem type : String) :
    isModuleLine ("pub use " ++ stem ++ "::" ++ type ++ ";") = true := by
  simp [isModuleLine, List.isPrefixOf]

/-- Above the lines about modules stand a title, which is a comment, and the note. -/
theorem moduleLines_header (title : String) (htitle : ∃ rest, title.toList = '/' :: rest) :
    moduleLines (title :: generatedNote) = [] := by
  have hnote : generatedNote.filter isModuleLine = [] := by decide
  obtain ⟨rest, hrest⟩ := htitle
  have hother : ¬ isModuleLine title = true := by simp [isModuleLine, hrest, List.isPrefixOf]
  rw [moduleLines, List.filter_cons_of_neg hother, hnote]

/-- A class file is written without lines about modules. -/
theorem moduleLines_classLines (runtime : String) (unit : ClassUnit) :
    moduleLines (classLines runtime unit) = [] := by
  refine List.filter_eq_nil_iff.mpr fun line hline hmodule => ?_
  have hpublic : line.toList.head? = some 'p' := by
    rcases Bool.or_eq_true_iff.mp hmodule with hmod | huse
    · obtain ⟨rest, hrest⟩ := List.isPrefixOf_iff_prefix.mp hmod
      rw [← hrest]
      rfl
    · obtain ⟨rest, hrest⟩ := List.isPrefixOf_iff_prefix.mp huse
      rw [← hrest]
      rfl
  have hmem : line ∈ publicLines (classLines runtime unit) :=
    List.mem_filter.mpr ⟨hline, by simp [hpublic]⟩
  rw [publicLines_classLines, List.mem_singleton] at hmem
  rw [hmem] at hmodule
  simp [isModuleLine, List.isPrefixOf] at hmodule

/-! ## 3. The tree -/

/-- The modules that the index file of all modules declares. -/
def declaredModules (rendering : Rendering) : List String :=
  submodules (linesAt rendering "mod.rs")

/-- The files that the index file of a module declares. -/
def declaredFiles (rendering : Rendering) (module : String) : List String :=
  submodules (linesAt rendering (Path.join module "mod.rs"))

/-- The paths of the index files. -/
def indexPaths (rendering : Rendering) : List String :=
  "mod.rs" :: (declaredModules rendering).map (Path.join · "mod.rs")

/-- The paths to which the declarations lead, from the index file of all modules on. -/
def treePaths (rendering : Rendering) : List String :=
  "mod.rs" :: (declaredModules rendering).flatMap fun module =>
    Path.join module "mod.rs" ::
      (declaredFiles rendering module).map fun file => Path.join module (file ++ ".rs")

/-- **The modules of a rendering make up a tree**, as its files are read. -/
structure ModuleTree (store : Store) (runtime : String) (rendering : Rendering) : Prop where
  /-- The outputs are the files to which the declarations lead. -/
  paths : (rendering.outputs.map (·.path)).Perm (treePaths rendering)
  paths_nodup : (treePaths rendering).Nodup
  /-- No index file has a line about modules twice, and class files are written without such
  lines. -/
  lines_nodup : ∀ path ∈ indexPaths rendering, (moduleLines (linesAt rendering path)).Nodup
  class_lines : ∀ unit ∈ rendering.units, moduleLines (classLines runtime unit) = []
  /-- Every class of the index is re-exported once under the name of its struct, by one module. -/
  exported_once : ∀ c ∈ (Index.ofStore store).classes, ∃ unit ∈ rendering.units,
    unit.self = .ofClass c ∧
    moduleName unit.self.group ∈ declaredModules rendering ∧
    exported runtime rendering (moduleName unit.self.group) (typeName unit.self) = [unit] ∧
    ∀ module ∈ declaredModules rendering, ∀ type, unit ∈ exported runtime rendering module type →
      module = moduleName unit.self.group ∧ type = typeName unit.self
  /-- Nothing but classes is re-exported, each from its file. -/
  reexports_classes : ∀ module ∈ declaredModules rendering,
    ∀ entry ∈ reexports (linesAt rendering (Path.join module "mod.rs")), ∃ unit ∈ rendering.units,
      exported runtime rendering module entry.2 = [unit] ∧
      relativePath unit.self = Path.join module (entry.1 ++ ".rs")
  /-- There is no module without classes. -/
  modules_inhabited : ∀ module ∈ declaredModules rendering,
    ∃ c ∈ (Index.ofStore store).classes, moduleName (ClassRef.ofClass c).group = module

section Rendered

variable {store : Store} {runtime : String} {rendering : Rendering}

theorem declaredModules_eq
    (h : renderAll (Index.ofStore store) (renderer runtime) = .ok rendering) :
    declaredModules rendering = modulesOf rendering :=
  submodules_linesAt_root h

theorem nodup_modulesOf (rendering : Rendering) : (modulesOf rendering).Nodup := nodup_ascending _

theorem declaredFiles_eq (h : renderAll (Index.ofStore store) (renderer runtime) = .ok rendering)
    {module : String} (hmodule : module ∈ modulesOf rendering) :
    declaredFiles rendering module = (moduleEntries (classesOf rendering module)).map Prod.fst := by
  obtain ⟨u, hu, hname⟩ := mem_modulesOf_iff.mp hmodule
  exact (read_linesAt_module h hu hname).1

/-! ## 4. Paths -/

/-- The files that a module declares are those of its classes. -/
theorem perm_declaredFiles
    (h : renderAll (Index.ofStore store) (renderer runtime) = .ok rendering) {module : String}
    (hmodule : module ∈ modulesOf rendering) :
    ((rendering.units.filter fun u => moduleName u.self.group == module).map
        fun u => relativePath u.self).Perm
      ((declaredFiles rendering module).map fun file => Path.join module (file ++ ".rs")) := by
  have hpaths : ((rendering.units.filter fun u => moduleName u.self.group == module).map
      fun u => relativePath u.self) =
        (classesOf rendering module).map fun c => Path.join module (fileStem c ++ ".rs") := by
    rw [classesOf, List.map_map]
    refine List.map_congr_left fun u hu => ?_
    rw [Function.comp_apply, relativePath, eq_of_beq (List.mem_filter.mp hu).2]
  have hentries := (perm_moduleEntries (classesOf rendering module)).map
    fun entry => Path.join module (entry.1 ++ ".rs")
  simp only [List.map_map, Function.comp_def] at hentries
  rw [hpaths, declaredFiles_eq h hmodule, List.map_map, Function.comp_def]
  exact hentries.symm

/-- **The outputs are the files to which the declarations lead.** -/
theorem perm_treePaths (h : renderAll (Index.ofStore store) (renderer runtime) = .ok rendering) :
    (rendering.outputs.map (·.path)).Perm (treePaths rendering) := by
  have hgroups : (rendering.units.map fun u => relativePath u.self).Perm
      ((modulesOf rendering).flatMap fun module =>
        (declaredFiles rendering module).map fun file => Path.join module (file ++ ".rs")) := by
    have hall : ((modulesOf rendering).flatMap fun module =>
        rendering.units.filter fun u => moduleName u.self.group == module).Perm rendering.units :=
      perm_flatMap_filter (fun u : ClassUnit => moduleName u.self.group) (nodup_modulesOf rendering)
        fun u hu => mem_modulesOf_iff.mpr ⟨u, hu, rfl⟩
    have hpaths := hall.symm.map fun u : ClassUnit => relativePath u.self
    rw [List.map_flatMap] at hpaths
    exact hpaths.trans (List.Perm.flatMap_left _ fun module hmodule => perm_declaredFiles h hmodule)
  have hpaths : rendering.outputs.map (·.path) =
      (rendering.units.map fun u => relativePath u.self) ++
        ((modulesOf rendering).map (Path.join · "mod.rs") ++ ["mod.rs"]) := by
    simp only [outputs_eq h, List.map_append, List.map_map, Function.comp_def, path_render,
      namespaceIndex, rootIndex, List.map_singleton]
  rw [hpaths, treePaths, declaredModules_eq h, ← List.append_assoc]
  refine (List.perm_append_singleton _ _).trans (List.Perm.cons _ ?_)
  refine List.perm_append_comm.trans ((hgroups.append_left _).trans ?_)
  exact List.map_append_flatMap_perm _ _ _

/-! ## 5. Lines -/

/-- The lines about modules in the index file of all modules. -/
theorem moduleLines_linesAt_root
    (h : renderAll (Index.ofStore store) (renderer runtime) = .ok rendering) :
    moduleLines (linesAt rendering "mod.rs")
      = (modulesOf rendering).map fun module => "pub mod " ++ module ++ ";" := by
  rw [linesAt_root h]
  rcases eq_or_ne (modulesOf rendering) [] with hnone | hne
  · rw [hnone, linesOf_rootIndex_nil, moduleLines_header _ ⟨_, rfl⟩, List.map_nil]
  have hempty : moduleLines [""] = [] := by decide
  have hmods : moduleLines ((modulesOf rendering).map fun module => "pub mod " ++ module ++ ";")
      = (modulesOf rendering).map fun module => "pub mod " ++ module ++ ";" :=
    moduleLines_map isModuleLine_mod
  rw [linesOf_rootIndex (identifierText_of_mem_modulesOf h) hne, moduleLines_append,
    moduleLines_append, moduleLines_header _ ⟨_, rfl⟩, hmods, hempty, List.nil_append,
    List.append_nil]

/-- The lines about modules in the index file of a module. -/
theorem moduleLines_linesAt_module
    (h : renderAll (Index.ofStore store) (renderer runtime) = .ok rendering) {module : String}
    (hmodule : module ∈ modulesOf rendering) :
    moduleLines (linesAt rendering (Path.join module "mod.rs"))
      = (moduleEntries (classesOf rendering module)).map (fun entry => "pub mod " ++ entry.1 ++ ";")
        ++ (moduleEntries (classesOf rendering module)).map
          fun entry => "pub use " ++ entry.1 ++ "::" ++ entry.2 ++ ";" := by
  have hempty : moduleLines [""] = [] := by decide
  have hheader := moduleLines_header ("//! `" ++ module ++ "` classes.")
    ⟨_, by simp only [String.toList_append]; rfl⟩
  have hmods := moduleLines_map (l := moduleEntries (classesOf rendering module))
    fun entry => isModuleLine_mod entry.1
  have huses := moduleLines_map (l := moduleEntries (classesOf rendering module))
    fun entry => isModuleLine_use entry.1 entry.2
  rw [linesAt_module h hmodule,
    linesOf_namespaceIndex (identifierText_of_mem_modulesOf h module hmodule)
      (wellNamed_of_mem_classesOf h) (classesOf_ne_nil hmodule)]
  simp only [moduleLines_append, hheader, hmods, huses, hempty, List.nil_append, List.append_nil]

theorem modLine_injective : Function.Injective fun stem : String => "pub mod " ++ stem ++ ";" :=
  fun _ _ hsame => (String.append_right_inj _).mp ((String.append_left_inj _).mp hsame)

/-- **No index file has a line about modules twice.** -/
theorem nodup_moduleLines (h : renderAll (Index.ofStore store) (renderer runtime) = .ok rendering) :
    ∀ path ∈ indexPaths rendering, (moduleLines (linesAt rendering path)).Nodup := by
  intro path hpath
  rw [indexPaths, declaredModules_eq h] at hpath
  rcases List.mem_cons.mp hpath with rfl | hpath
  · rw [moduleLines_linesAt_root h]
    exact (nodup_modulesOf rendering).map modLine_injective
  · obtain ⟨module, hmodule, rfl⟩ := List.mem_map.mp hpath
    have hnames : ∀ entry ∈ moduleEntries (classesOf rendering module),
        IdentifierText entry.1 ∧ IdentifierText entry.2 :=
      identifierText_moduleEntries (wellNamed_of_mem_classesOf h)
    have hstems := nodup_stems_moduleEntries h module
    rw [moduleLines_linesAt_module h hmodule]
    refine List.Nodup.append (hstems.of_map.map_on ?_) (hstems.of_map.map_on ?_) ?_
    · intro entry hentry other hother hsame
      exact List.inj_on_of_nodup_map hstems hentry hother (modLine_injective hsame)
    · -- what the lines re-export can be read back, so lines that agree are of one entry
      intro entry hentry other hother hsame
      have hread : ∀ e ∈ moduleEntries (classesOf rendering module),
          reexports ["pub use " ++ e.1 ++ "::" ++ e.2 ++ ";"] = [e] := fun e he =>
        reexports_map (List.forall_mem_singleton.mpr (hnames e he).1)
      exact List.singleton_inj.mp ((hread entry hentry).symm.trans (hsame ▸ hread other hother))
    · intro line hmod huse
      obtain ⟨entry, -, rfl⟩ := List.mem_map.mp hmod
      obtain ⟨other, -, hsame⟩ := List.mem_map.mp huse
      have hchars := congrArg String.toList hsame
      simp at hchars

/-! ## 6. Re-exports -/

/-- **Only its own module exports a class**, and under the name of its struct. -/
theorem eq_of_mem_exported (h : renderAll (Index.ofStore store) (renderer runtime) = .ok rendering)
    {unit : ClassUnit} {module type : String} (hmodule : module ∈ modulesOf rendering)
    (hunit : unit ∈ exported runtime rendering module type) :
    module = moduleName unit.self.group ∧ type = typeName unit.self := by
  obtain ⟨u, hu, rfl⟩ := mem_modulesOf_iff.mp hmodule
  obtain ⟨entry, hentry, hfound⟩ := List.mem_flatMap.mp hunit
  obtain ⟨hunit, hmatches⟩ := List.mem_filter.mp hfound
  obtain ⟨hstruct, hpath⟩ := Bool.and_eq_true_iff.mp hmatches
  rw [structs_classLines, List.contains_iff_mem, List.mem_singleton] at hstruct
  rw [(read_linesAt_module h hu rfl).2] at hentry
  obtain ⟨c, hc, rfl⟩ :=
    List.mem_map.mp ((perm_moduleEntries _).mem_iff.mp (List.mem_filter.mp hentry).1)
  obtain ⟨hfolder, -⟩ := join_inj (smallName_moduleName (wellNamed_self h hunit))
    (smallName_moduleName (wellNamed_self h hu)) (smallName_fileStem (wellNamed_self h hunit))
    (smallName_fileStem (wellNamed_of_mem_classesOf h c hc)) (eq_of_beq hpath)
  exact ⟨hfolder.symm, hstruct⟩

/-- Every entry of a module is that of a class. -/
theorem exists_unit_of_mem_reexports
    (h : renderAll (Index.ofStore store) (renderer runtime) = .ok rendering) {module : String}
    (hmodule : module ∈ modulesOf rendering) {entry : String × String}
    (hentry : entry ∈ reexports (linesAt rendering (Path.join module "mod.rs"))) :
    ∃ unit ∈ rendering.units, exported runtime rendering module entry.2 = [unit] ∧
      relativePath unit.self = Path.join module (entry.1 ++ ".rs") := by
  obtain ⟨u, hu, hname⟩ := mem_modulesOf_iff.mp hmodule
  rw [(read_linesAt_module h hu hname).2] at hentry
  obtain ⟨c, hc, rfl⟩ := List.mem_map.mp ((perm_moduleEntries _).mem_iff.mp hentry)
  obtain ⟨unit, hunit, rfl, rfl⟩ := mem_classesOf_iff.mp hc
  exact ⟨unit, hunit, exported_eq h hunit, rfl⟩

/-- **Every rendering is a module tree**: it is complete, and there is nothing else in it. -/
theorem moduleTree_renderAll
    (h : renderAll (Index.ofStore store) (renderer runtime) = .ok rendering) :
    ModuleTree store runtime rendering where
  paths := perm_treePaths h
  paths_nodup := (perm_treePaths h).nodup (nodup_paths h)
  lines_nodup := nodup_moduleLines h
  class_lines unit _ := moduleLines_classLines runtime unit
  exported_once c hc := by
    obtain ⟨unit, hunit, hplan⟩ := exists_plan_of_renderAll h hc
    refine ⟨unit, hunit, self_of_plan hplan, ?_, exported_eq h hunit, fun module hmodule type => ?_⟩
    · rw [declaredModules_eq h]
      exact mem_modulesOf_iff.mpr ⟨unit, hunit, rfl⟩
    · rw [declaredModules_eq h] at hmodule
      exact eq_of_mem_exported h hmodule
  reexports_classes module hmodule entry := by
    rw [declaredModules_eq h] at hmodule
    exact exists_unit_of_mem_reexports h hmodule
  modules_inhabited module hmodule := by
    rw [declaredModules_eq h] at hmodule
    obtain ⟨unit, hunit, hname⟩ := mem_modulesOf_iff.mp hmodule
    obtain ⟨c, hc, hplan⟩ := exists_class_of_renderAll h hunit
    exact ⟨c, hc, self_of_plan hplan ▸ hname⟩

theorem moduleTree_renderAll_media : ∃ rendering,
    renderAll (Index.ofStore media) (renderer "crate") = .ok rendering ∧
      ModuleTree media "crate" rendering := by
  obtain ⟨rendering, h, -⟩ := exists_rendering_media
  exact ⟨rendering, h, moduleTree_renderAll h⟩

end Rendered

end OntoWrap.Rust
