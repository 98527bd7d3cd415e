import OntoWrap.Proofs.OutputPaths
import OntoWrap.Proofs.SourceLines

/-!
# The module tree of the Rust output

A class file refers to another class by a path through the modules.  `resolve` follows such a path
as a compiler does, and reads nothing but the outputs: from the folder of the file it goes to the
index file of a module, looks there for a `pub use` line of the name, and from there to the class
file that declares the struct.  Every path that is written for a class leads to that class and to no
other (`resolve_classPath`).
-/
namespace OntoWrap.Rust

open Naming Text Text.Source

/-! ## 1. Reading paths and index files -/

/-- The two sides of the first `::`. -/
def segments? (path : List Char) : Option (String × String) :=
  match path.dropWhile (· != ':') with
  | ':' :: ':' :: rest => some (String.ofList (path.takeWhile (· != ':')), String.ofList rest)
  | _ => none

/-- Where a class is found, read from a path as it is written. -/
def ClassPath.ofText? (text : String) : Option ClassPath :=
  (afterText? "super::".toList text.toList).bind fun path =>
    match afterText? "super::".toList path with
    | none => some (.sibling (String.ofList path))
    | some path => (segments? path).map fun (module, type) => .elsewhere module type

/-- The modules that the lines of a file declare. -/
def submodules (lines : List String) : List String := lines.filterMap (between? "pub mod " ";")

/-- The names that the lines of a file re-export, each after the module that it comes from. -/
def reexports (lines : List String) : List (String × String) :=
  lines.filterMap fun line =>
    (between? "pub use " ";" line).bind fun path => segments? path.toList

theorem segments?_append {first : String} (hfirst : IdentifierText first) (rest : String) :
    segments? (first ++ "::" ++ rest).toList = some (first, rest) := by
  have hopen : ∀ c ∈ first.toList, (c != ':') = true := by
    intro c hc
    rw [bne_iff_ne]
    rintro rfl
    exact hfirst.notMem (by decide) hc
  simp only [segments?, String.toList_append, List.append_assoc,
    List.dropWhile_append_of_pos hopen, List.takeWhile_append_of_pos hopen]
  simp

@[simp]
theorem ClassPath.text_sibling (type : String) : (sibling type).text = "super::" ++ type := rfl

@[simp]
theorem ClassPath.text_elsewhere (module type : String) :
    (elsewhere module type).text = "super::super::" ++ module ++ "::" ++ type :=
  rfl

/-- **A path is read as it was written.** -/
theorem ofText?_text (path : ClassPath)
    (h : match path with
      | .sibling type => IdentifierText type
      | .elsewhere module _ => IdentifierText module) :
    ClassPath.ofText? path.text = some path := by
  cases path with
  | sibling type =>
    have hplain : afterText? "super::".toList type.toList = none := by
      rw [Option.eq_none_iff_forall_ne_some]
      intro rest hrest
      have hcolon : ':' ∈ type.toList := by simp [afterText?_eq_some_iff.mp hrest]
      exact IdentifierText.notMem h (by decide) hcolon
    have hread : afterText? "super::".toList (ClassPath.sibling type).text.toList
        = some type.toList :=
      afterText?_eq_some_iff.mpr (by rw [ClassPath.text_sibling, String.toList_append])
    rw [ClassPath.ofText?, hread, Option.bind_some, hplain]
    simp
  | elsewhere module type =>
    have hread : afterText? "super::".toList (ClassPath.elsewhere module type).text.toList
        = some ("super::" ++ (module ++ "::" ++ type)).toList :=
      afterText?_eq_some_iff.mpr (by simp)
    have hread' : afterText? "super::".toList ("super::" ++ (module ++ "::" ++ type)).toList
        = some (module ++ "::" ++ type).toList :=
      afterText?_eq_some_iff.mpr (by rw [String.toList_append])
    rw [ClassPath.ofText?, hread, Option.bind_some, hread']
    simp only [segments?_append h, Option.map_some]

/-! ## 2. What stands in index files -/

theorem submodules_append (l m : List String) :
    submodules (l ++ m) = submodules l ++ submodules m :=
  List.filterMap_append

theorem reexports_append (l m : List String) : reexports (l ++ m) = reexports l ++ reexports m :=
  List.filterMap_append

theorem submodules_map {α : Type} (stem : α → String) (l : List α) :
    submodules (l.map fun a => "pub mod " ++ stem a ++ ";") = l.map stem := by
  have hread : ∀ a, between? "pub mod " ";" ("pub mod " ++ stem a ++ ";") = some (stem a) :=
    fun a => between?_eq_some_iff.mpr rfl
  simp only [submodules, List.filterMap_map, Function.comp_def, hread]
  exact List.filterMap_eq_map ▸ rfl

theorem reexports_map {entries : List (String × String)}
    (h : ∀ entry ∈ entries, IdentifierText entry.1) :
    reexports (entries.map fun (stem, type) => "pub use " ++ stem ++ "::" ++ type ++ ";")
      = entries := by
  have hread : ∀ entry ∈ entries, (between? "pub use " ";"
      ("pub use " ++ entry.1 ++ "::" ++ entry.2 ++ ";")).bind (fun path => segments? path.toList)
        = some entry := by
    intro entry hentry
    have hline : between? "pub use " ";" ("pub use " ++ entry.1 ++ "::" ++ entry.2 ++ ";")
        = some (entry.1 ++ "::" ++ entry.2) :=
      between?_eq_some_iff.mpr (by simp only [String.append_assoc])
    rw [hline, Option.bind_some, segments?_append (h entry hentry)]
  rw [reexports, List.filterMap_map]
  calc entries.filterMap _ = entries.filterMap some := List.filterMap_congr hread
    _ = entries := List.filterMap_some

/-- Other lines are not read. -/
theorem submodules_reexports_eq_nil {lines : List String}
    (h : ∀ line ∈ lines, afterText? "pub ".toList line.toList = none) :
    submodules lines = [] ∧ reexports lines = [] := by
  have hother : ∀ keyword : String, ∀ line ∈ lines,
      between? ("pub " ++ keyword) ";" line = none := by
    intro keyword line hline
    refine between?_eq_none (Option.eq_none_iff_forall_ne_some.mpr fun rest hrest => ?_)
    have hfront := afterText?_eq_some_iff.mp hrest
    rw [String.toList_append, List.append_assoc] at hfront
    have hpub := afterText?_eq_some_iff.mpr hfront
    rw [h line hline] at hpub
    cases hpub
  refine ⟨List.filterMap_eq_nil_iff.mpr fun line hline => hother "mod " line hline,
    List.filterMap_eq_nil_iff.mpr fun line hline => ?_⟩
  rw [show between? "pub use " ";" line = none from hother "use " line hline]
  rfl

/-- The entries of an index file are those of its classes, in some order. -/
theorem perm_moduleEntries (classes : List ClassRef) :
    (moduleEntries classes).Perm (classes.map fun c => (fileStem c, typeName c)) :=
  List.mergeSort_perm _ _

theorem identifierText_moduleEntries {classes : List ClassRef} (h : ∀ c ∈ classes, c.WellNamed) :
    ∀ entry ∈ moduleEntries classes, IdentifierText entry.1 ∧ IdentifierText entry.2 := by
  intro entry hentry
  obtain ⟨c, hc, rfl⟩ := List.mem_map.mp ((perm_moduleEntries classes).mem_iff.mp hentry)
  exact ⟨(smallName_fileStem (h c hc)).identifier, (h c hc).name.escapeReserved⟩

/-- The title and the note of an index file are one line each and say nothing about modules. -/
theorem header_unread (title : String) (htitle : '\n' ∉ title.toList)
    (hcomment : ∃ rest, title.toList = '/' :: rest) :
    (∀ line ∈ title :: generatedNote, '\n' ∉ line.toList) ∧
      submodules (title :: generatedNote) = [] ∧ reexports (title :: generatedNote) = [] := by
  have hnote : ∀ line ∈ generatedNote,
      '\n' ∉ line.toList ∧ afterText? "pub ".toList line.toList = none := by decide
  have hread : afterText? "pub ".toList title.toList = none := by
    obtain ⟨rest, hrest⟩ := hcomment
    simp [hrest, afterText?]
  refine ⟨?_, submodules_reexports_eq_nil ?_⟩
  · intro line hline
    rcases List.mem_cons.mp hline with rfl | hline
    · exact htitle
    · exact (hnote line hline).1
  · intro line hline
    rcases List.mem_cons.mp hline with rfl | hline
    · exact hread
    · exact (hnote line hline).2

/-- The lines of the index file of a module. -/
theorem linesOf_namespaceIndex {module : String} (hmodule : IdentifierText module)
    {classes : List ClassRef} (hclasses : ∀ c ∈ classes, c.WellNamed) (hne : classes ≠ []) :
    linesOf (namespaceIndex module classes).contents =
      ("//! `" ++ module ++ "` classes.") :: generatedNote
        ++ (moduleEntries classes).map (fun entry => "pub mod " ++ entry.1 ++ ";")
        ++ [""]
        ++ (moduleEntries classes).map
          (fun entry => "pub use " ++ entry.1 ++ "::" ++ entry.2 ++ ";")
        ++ [""] := by
  have hnames := identifierText_moduleEntries hclasses
  have hbreak : isIdentifierChar '\n' = false := by decide
  refine linesOf_finish ?_ ?_
  · have hhead := (header_unread ("//! `" ++ module ++ "` classes.")
      (by simp [hmodule.notMem hbreak]) ⟨_, by simp only [String.toList_append]; rfl⟩).1
    simp only [List.forall_mem_append, List.singleton_append]
    refine ⟨⟨⟨hhead, ?_⟩, by simp⟩, ?_⟩
    · intro line hline
      obtain ⟨entry, hentry, rfl⟩ := List.mem_map.mp hline
      simp [(hnames entry hentry).1.notMem hbreak]
    · intro line hline
      obtain ⟨entry, hentry, rfl⟩ := List.mem_map.mp hline
      simp [(hnames entry hentry).1.notMem hbreak, (hnames entry hentry).2.notMem hbreak]
  · have hentries : moduleEntries classes ≠ [] := by
      simpa [← List.length_eq_zero_iff, (perm_moduleEntries classes).length_eq] using hne
    exact (endsPlain_map (c := ';') (by decide) (by decide) hentries).append_left _

/-- **The index file of a module declares the file of each class and re-exports its struct.** -/
theorem read_namespaceIndex {module : String} (hmodule : IdentifierText module)
    {classes : List ClassRef} (hclasses : ∀ c ∈ classes, c.WellNamed) (hne : classes ≠ []) :
    submodules (linesOf (namespaceIndex module classes).contents)
        = (moduleEntries classes).map Prod.fst ∧
      reexports (linesOf (namespaceIndex module classes).contents) = moduleEntries classes := by
  have hnames := identifierText_moduleEntries hclasses
  obtain ⟨-, hheadMods, hheadUses⟩ := header_unread ("//! `" ++ module ++ "` classes.")
    (by simp [hmodule.notMem (c := '\n') (by decide)])
    ⟨_, by simp only [String.toList_append]; rfl⟩
  have hmods : reexports ((moduleEntries classes).map fun entry => "pub mod " ++ entry.1 ++ ";")
      = [] := by
    refine List.filterMap_eq_nil_iff.mpr fun line hline => ?_
    obtain ⟨entry, -, rfl⟩ := List.mem_map.mp hline
    rw [between?_eq_none (by simp [afterText?])]
    rfl
  have huses : submodules ((moduleEntries classes).map fun entry =>
      "pub use " ++ entry.1 ++ "::" ++ entry.2 ++ ";") = [] := by
    refine List.filterMap_eq_nil_iff.mpr fun line hline => ?_
    obtain ⟨entry, -, rfl⟩ := List.mem_map.mp hline
    exact between?_eq_none (by simp [afterText?])
  have hempty : submodules [""] = [] ∧ reexports [""] = [] := by decide
  rw [linesOf_namespaceIndex hmodule hclasses hne]
  simp only [submodules_append, reexports_append, hheadMods, hheadUses, hmods, huses, hempty]
  rw [submodules_map, reexports_map fun entry hentry => (hnames entry hentry).1]
  simp

/-- The lines of the index file of all modules, if there are any. -/
theorem linesOf_rootIndex {modules : List String} (h : ∀ module ∈ modules, IdentifierText module)
    (hne : modules ≠ []) : linesOf (rootIndex modules).contents =
      "//! Resource classes generated from ontologies." :: generatedNote
        ++ modules.map (fun module => "pub mod " ++ module ++ ";") ++ [""] := by
  have hbreak : isIdentifierChar '\n' = false := by decide
  refine linesOf_finish ?_ ((endsPlain_map (c := ';') (by decide) (by decide) hne).append_left _)
  have hhead :=
    (header_unread "//! Resource classes generated from ontologies." (by decide) ⟨_, rfl⟩).1
  simp only [List.forall_mem_append, List.singleton_append]
  refine ⟨hhead, fun line hline => ?_⟩
  obtain ⟨module, hmodule, rfl⟩ := List.mem_map.mp hline
  simp [(h module hmodule).notMem hbreak]

/-- Without modules the note is the end of the file. -/
theorem linesOf_rootIndex_nil : linesOf (rootIndex []).contents =
    "//! Resource classes generated from ontologies." :: generatedNote := by
  let written : List String :=
    ["//! Resource classes generated from ontologies.", "//!",
      "//! Generated by resgen. Do not edit."]
  have hcontents : (rootIndex []).contents = finish (written ++ [""]) := rfl
  have hlast : EndsPlain written := ⟨written.dropLast, _, '.', rfl, by decide⟩
  rw [hcontents, finish_append_empty, linesOf_finish (by decide) hlast]
  rfl

/-- **The index file of all modules declares each of them.** -/
theorem submodules_rootIndex {modules : List String}
    (h : ∀ module ∈ modules, IdentifierText module) :
    submodules (linesOf (rootIndex modules).contents) = modules := by
  obtain ⟨-, hheadMods, -⟩ :=
    header_unread "//! Resource classes generated from ontologies." (by decide) ⟨_, rfl⟩
  rcases eq_or_ne modules [] with rfl | hne
  · rw [linesOf_rootIndex_nil, hheadMods]
  have hempty : submodules [""] = [] := by decide
  rw [linesOf_rootIndex h hne, submodules_append, submodules_append, hheadMods, hempty,
    submodules_map (fun module => module) modules]
  simp

/-! ## 3. What stands in class files -/

/-- Lines that begin with the first letter of `pub`. -/
def publicLines (lines : List String) : List String := lines.filter (·.toList.head? == some 'p')

/-- The structs that the lines of a file declare. -/
def structs (lines : List String) : List String :=
  lines.filterMap (between? "pub struct " " \x7b")

theorem publicLines_append (l m : List String) :
    publicLines (l ++ m) = publicLines l ++ publicLines m :=
  List.filter_append ..

theorem publicLines_eq_nil {lines : List String}
    (h : ∀ line ∈ lines, line.toList.head? ≠ some 'p') : publicLines lines = [] :=
  List.filter_eq_nil_iff.mpr fun line hline => by simpa using h line hline

/-- Structs are declared in public lines. -/
theorem structs_publicLines (lines : List String) :
    structs (publicLines lines) = structs lines := by
  rw [structs, publicLines, List.filterMap_filter, structs]
  refine List.filterMap_congr fun line _ => ?_
  split
  · rfl
  · rename_i hother
    refine (between?_eq_none
      (Option.eq_none_iff_forall_ne_some.mpr fun rest hrest => hother ?_)).symm
    rw [afterText?_eq_some_iff.mp hrest]
    rfl

/-- A block has no public line but its head. -/
theorem publicLines_block (head : String) (body : List String) :
    publicLines (block head body) = publicLines [head ++ " \x7b"] := by
  have hbody : publicLines (indent body) = [] :=
    publicLines_eq_nil (head?_indent (by decide))
  have hclose : publicLines ["\x7d"] = [] := by decide
  rw [block, List.cons_append, ← List.singleton_append, publicLines_append, publicLines_append,
    hbody, hclose]
  simp

/-- The lines above a struct are comments. -/
theorem head?_structComment {unit : ClassUnit} :
    ∀ line ∈ structComment unit, line.toList.head? = some '/' := by
  have hcomment : ∀ text, ∀ line ∈ comment "/// " text, line.toList.head? = some '/' := by
    intro text line hline
    obtain ⟨inner, -, rfl⟩ := List.mem_map.mp hline
    simp
  have hlabel : ∀ line ∈ ["/// " ++ unit.label ++ "."], line.toList.head? = some '/' := by simp
  have hparents : ∀ paths, ∀ line ∈ ["///", "/// Converts into " ++ paths ++ "."],
      line.toList.head? = some '/' := by simp
  intro line hline
  delta structComment at hline
  rcases List.mem_append.mp hline with hline | hline
  · split at hline
    · split at hline
      · exact hlabel line hline
      · exact hcomment _ line hline
    · exact hlabel line hline
  · split at hline
    · cases hline
    · exact hparents _ line hline

theorem publicLines_structComment (unit : ClassUnit) : publicLines (structComment unit) = [] :=
  publicLines_eq_nil fun line hline => by simp [head?_structComment line hline]

theorem publicLines_conversion (name target result : String) :
    publicLines (conversion name target result) = [] := by
  rw [conversion, publicLines_block]
  exact publicLines_eq_nil (by simp)

theorem publicLines_conversions (unit : ClassUnit) : publicLines (conversions unit) = [] := by
  have hempty : publicLines [""] = [] := by decide
  have hdefault : publicLines ["impl Default for " ++ typeName unit.self ++ " \x7b"] = [] :=
    publicLines_eq_nil (by simp)
  have hasRef :
      publicLines ["impl AsRef<rt::SimpleResource> for " ++ typeName unit.self ++ " \x7b"] = [] :=
    publicLines_eq_nil (by simp)
  have hparents : publicLines (unit.parents.flatMap fun parent =>
      [""] ++ conversion (typeName unit.self) (classPath unit.self parent).text
        ((classPath unit.self parent).text ++ "::wrap(value.resource)")) = [] := by
    rw [publicLines, List.filter_flatMap, List.flatMap_eq_nil_iff]
    intro parent _
    exact (publicLines_append _ _).trans (by rw [hempty, publicLines_conversion]; rfl)
  delta conversions
  simp only [publicLines_append, publicLines_block, hdefault, hasRef, hempty, hparents,
    List.nil_append, List.append_nil]
  split
  · rw [publicLines_append, hempty, publicLines_conversion]
    rfl
  · rfl

/-- **A class file has one public line**, the one that declares its struct. -/
theorem publicLines_classLines (runtime : String) (unit : ClassUnit) :
    publicLines (classLines runtime unit) = ["pub struct " ++ typeName unit.self ++ " \x7b"] := by
  have htitle : publicLines ["//! `" ++ unit.label ++ "`: <" ++ unit.self.iri ++ ">."] = [] :=
    publicLines_eq_nil (by simp)
  have hnote : publicLines generatedNote = [] := by decide
  have huse : publicLines ["use " ++ runtime ++ " as rt;", ""] = [] := publicLines_eq_nil (by simp)
  have hderive : publicLines ["#[derive(Debug, Clone)]"] = [] := by decide
  have hempty : publicLines [""] = [] := by decide
  have himpl : publicLines ["impl " ++ typeName unit.self ++ " \x7b"] = [] :=
    publicLines_eq_nil (by simp)
  have hstruct : publicLines ["pub struct " ++ typeName unit.self ++ " \x7b"]
      = ["pub struct " ++ typeName unit.self ++ " \x7b"] := List.filter_cons_of_pos (by simp)
  delta classLines
  simp only [publicLines_append, publicLines_block, htitle, hnote, huse, hderive, hempty, himpl,
    hstruct, publicLines_structComment, publicLines_conversions, List.nil_append, List.append_nil]

/-- **A class file declares one struct**, that of its class. -/
theorem structs_classLines (runtime : String) (unit : ClassUnit) :
    structs (classLines runtime unit) = [typeName unit.self] := by
  rw [← structs_publicLines, publicLines_classLines, structs,
    List.filterMap_cons_some (between?_eq_some_iff.mpr rfl)]
  rfl

/-! ## 4. Following a path -/

/-- The lines of the output with a path. -/
def linesAt (rendering : Rendering) (path : String) : List String :=
  (rendering.outputs.filter (·.path == path)).flatMap fun out => linesOf out.contents

/-- The classes that a module re-exports under a name, each from a file of the module that declares
a struct of the name. -/
def exported (runtime : String) (rendering : Rendering) (module type : String) : List ClassUnit :=
  let lines := linesAt rendering (Path.join module "mod.rs")
  let entries := (reexports lines).filter fun entry =>
    entry.2 == type && (submodules lines).contains entry.1
  entries.flatMap fun entry => rendering.units.filter fun unit =>
    (structs (classLines runtime unit)).contains type
      && relativePath unit.self == Path.join module (entry.1 ++ ".rs")

/-- The module that a file is in: the folder that its path begins with. -/
def enclosing (file : String) : String := String.ofList (file.toList.takeWhile (· != '/'))

/-- The classes that a path in a file leads to. -/
def resolve (runtime : String) (rendering : Rendering) (file path : String) : List ClassUnit :=
  match ClassPath.ofText? path with
  | some (.sibling type) => exported runtime rendering (enclosing file) type
  | some (.elsewhere module type) =>
    if (submodules (linesAt rendering "mod.rs")).contains module then
      exported runtime rendering module type
    else []
  | none => []

section Rendered

variable {store : Store} {runtime : String} {rendering : Rendering} {unit target : ClassUnit}

/-- The classes of a module. -/
def classesOf (rendering : Rendering) (module : String) : List ClassRef :=
  (rendering.units.filter fun u => moduleName u.self.group == module).map (·.self)

theorem mem_classesOf_iff {module : String} {r : ClassRef} : r ∈ classesOf rendering module ↔
    ∃ u ∈ rendering.units, moduleName u.self.group = module ∧ u.self = r := by
  simp [classesOf, and_assoc]

theorem linesAt_of_mem {index : Index} {renderer : Renderer}
    (h : renderAll index renderer = .ok rendering) {out : OutputUnit}
    (hout : out ∈ rendering.outputs) {path : String} (hpath : out.path = path) :
    linesAt rendering path = linesOf out.contents := by
  rw [linesAt, filter_path_eq_singleton h hout hpath, List.flatMap_singleton]

/-- The modules of a rendering. -/
def modulesOf (rendering : Rendering) : List String :=
  ascending (rendering.units.map fun u => moduleName u.self.group)

theorem mem_modulesOf_iff {module : String} : module ∈ modulesOf rendering ↔
    ∃ u ∈ rendering.units, moduleName u.self.group = module := by
  rw [modulesOf, mem_ascending, List.mem_map]

/-- The index files are among the outputs. -/
theorem outputs_eq (h : renderAll (Index.ofStore store) (renderer runtime) = .ok rendering) :
    rendering.outputs = rendering.units.map (renderer runtime).render
      ++ ((modulesOf rendering).map (fun module =>
          namespaceIndex module (classesOf rendering module))
        ++ [rootIndex (modulesOf rendering)]) :=
  (renderAll_eq_ok_iff.mp h).2.1

theorem identifierText_of_mem_modulesOf
    (h : renderAll (Index.ofStore store) (renderer runtime) = .ok rendering) :
    ∀ module ∈ modulesOf rendering, IdentifierText module := by
  intro module hmodule
  obtain ⟨u, hu, rfl⟩ := mem_modulesOf_iff.mp hmodule
  exact (smallName_moduleName (wellNamed_self h hu)).identifier

theorem linesAt_root (h : renderAll (Index.ofStore store) (renderer runtime) = .ok rendering) :
    linesAt rendering "mod.rs" = linesOf (rootIndex (modulesOf rendering)).contents := by
  have hout : rootIndex (modulesOf rendering) ∈ rendering.outputs := by
    rw [outputs_eq h]
    simp
  exact linesAt_of_mem h hout rfl

/-- The index file of all modules declares the modules of the classes. -/
theorem submodules_linesAt_root
    (h : renderAll (Index.ofStore store) (renderer runtime) = .ok rendering) :
    submodules (linesAt rendering "mod.rs") = modulesOf rendering := by
  rw [linesAt_root h, submodules_rootIndex (identifierText_of_mem_modulesOf h)]

theorem contains_submodules_root
    (h : renderAll (Index.ofStore store) (renderer runtime) = .ok rendering)
    (htarget : target ∈ rendering.units) :
    (submodules (linesAt rendering "mod.rs")).contains (moduleName target.self.group) = true := by
  rw [submodules_linesAt_root h]
  exact List.contains_iff_mem.mpr (mem_modulesOf_iff.mpr ⟨target, htarget, rfl⟩)

theorem linesAt_module (h : renderAll (Index.ofStore store) (renderer runtime) = .ok rendering)
    {module : String} (hmodule : module ∈ modulesOf rendering) :
    linesAt rendering (Path.join module "mod.rs")
      = linesOf (namespaceIndex module (classesOf rendering module)).contents := by
  have hout : namespaceIndex module (classesOf rendering module) ∈ rendering.outputs := by
    rw [outputs_eq h]
    exact List.mem_append_right _ (List.mem_append_left _ (List.mem_map_of_mem hmodule))
  exact linesAt_of_mem h hout rfl

theorem wellNamed_of_mem_classesOf
    (h : renderAll (Index.ofStore store) (renderer runtime) = .ok rendering) {module : String} :
    ∀ r ∈ classesOf rendering module, r.WellNamed := by
  intro r hr
  obtain ⟨u, hu, -, rfl⟩ := mem_classesOf_iff.mp hr
  exact wellNamed_self h hu

/-- A module has a class. -/
theorem classesOf_ne_nil {module : String} (hmodule : module ∈ modulesOf rendering) :
    classesOf rendering module ≠ [] := by
  obtain ⟨u, hu, hname⟩ := mem_modulesOf_iff.mp hmodule
  exact List.ne_nil_of_mem (mem_classesOf_iff.mpr ⟨u, hu, hname, rfl⟩)

/-- The index file of a module declares the files of its classes and re-exports their structs. -/
theorem read_linesAt_module
    (h : renderAll (Index.ofStore store) (renderer runtime) = .ok rendering)
    (htarget : target ∈ rendering.units) {module : String}
    (hmodule : moduleName target.self.group = module) :
    submodules (linesAt rendering (Path.join module "mod.rs"))
        = (moduleEntries (classesOf rendering module)).map Prod.fst ∧
      reexports (linesAt rendering (Path.join module "mod.rs"))
        = moduleEntries (classesOf rendering module) := by
  have hmem : module ∈ modulesOf rendering := mem_modulesOf_iff.mpr ⟨target, htarget, hmodule⟩
  rw [linesAt_module h hmem]
  exact read_namespaceIndex (identifierText_of_mem_modulesOf h module hmem)
    (wellNamed_of_mem_classesOf h) (classesOf_ne_nil hmem)

/-- Entries of a module differ in whatever tells its classes apart. -/
theorem nodup_map_moduleEntries {α : Type}
    (h : renderAll (Index.ofStore store) (renderer runtime) = .ok rendering) {module : String}
    {key : String × String → α}
    (hkey : ∀ u ∈ rendering.units, ∀ v ∈ rendering.units, moduleName u.self.group = module →
      moduleName v.self.group = module →
      key (fileStem u.self, typeName u.self) = key (fileStem v.self, typeName v.self) → u = v) :
    ((moduleEntries (classesOf rendering module)).map key).Nodup := by
  have hunits : (rendering.units.map (·.self.iri)).Nodup := by
    rw [map_iri_units h]
    exact (Index.wellFormed_ofStore store).distinct
  rw [((perm_moduleEntries _).map key).nodup_iff, List.map_map, classesOf, List.map_map]
  refine List.Nodup.map_on ?_ (hunits.of_map.filter _)
  intro u hu v hv hsame
  obtain ⟨hu, hmodule⟩ := List.mem_filter.mp hu
  obtain ⟨hv, hmodule'⟩ := List.mem_filter.mp hv
  exact hkey u hu v hv (beq_iff_eq.mp hmodule) (beq_iff_eq.mp hmodule') hsame

/-- No two classes of a module have structs of one name. -/
theorem nodup_types_moduleEntries
    (h : renderAll (Index.ofStore store) (renderer runtime) = .ok rendering) (module : String) :
    ((moduleEntries (classesOf rendering module)).map Prod.snd).Nodup :=
  nodup_map_moduleEntries h fun _ hu _ hv hmodule hmodule' htype =>
    unit_eq_of_typeName_eq h hu hv (hmodule.trans hmodule'.symm) htype

/-- No two classes of a module have files of one name. -/
theorem nodup_stems_moduleEntries
    (h : renderAll (Index.ofStore store) (renderer runtime) = .ok rendering) (module : String) :
    ((moduleEntries (classesOf rendering module)).map Prod.fst).Nodup := by
  refine nodup_map_moduleEntries h fun u hu v hv hmodule hmodule' hstem => ?_
  have hstem : fileStem u.self = fileStem v.self := hstem
  refine unit_eq_of_relativePath_eq h hu hv ?_
  rw [renderer_relativePath, relativePath, relativePath, hmodule, hmodule', hstem]

/-- One entry of a module has the name of a class. -/
theorem filter_moduleEntries
    (h : renderAll (Index.ofStore store) (renderer runtime) = .ok rendering)
    (htarget : target ∈ rendering.units) {module : String}
    (hmodule : moduleName target.self.group = module) :
    (moduleEntries (classesOf rendering module)).filter (fun entry =>
        entry.2 == typeName target.self
          && ((moduleEntries (classesOf rendering module)).map Prod.fst).contains entry.1)
      = [(fileStem target.self, typeName target.self)] := by
  have hentry : (fileStem target.self, typeName target.self)
      ∈ moduleEntries (classesOf rendering module) := by
    refine (perm_moduleEntries _).mem_iff.mpr (List.mem_map.mpr ⟨target.self, ?_, rfl⟩)
    exact mem_classesOf_iff.mpr ⟨target, htarget, hmodule, rfl⟩
  rw [← filter_key_eq_singleton Prod.snd (nodup_types_moduleEntries h module) hentry]
  refine List.filter_congr fun entry hmem => ?_
  rw [List.contains_iff_mem.mpr (List.mem_map_of_mem hmem), Bool.and_true]

/-- The classes have different paths. -/
theorem nodup_classPaths (h : renderAll (Index.ofStore store) (renderer runtime) = .ok rendering) :
    (rendering.units.map fun unit => relativePath unit.self).Nodup := by
  have hpaths := nodup_relativePaths h
  rwa [renderer_relativePath] at hpaths

/-- One class has the path of a class. -/
theorem filter_relativePath
    (hpaths : (rendering.units.map fun unit => relativePath unit.self).Nodup)
    (htarget : target ∈ rendering.units) :
    rendering.units.filter (fun unit => relativePath unit.self == relativePath target.self)
      = [target] :=
  filter_key_eq_singleton (fun unit : ClassUnit => relativePath unit.self) hpaths htarget

/-- **A module exports the struct of a class from the file of the class**, and from no other. -/
theorem exported_eq (h : renderAll (Index.ofStore store) (renderer runtime) = .ok rendering)
    (htarget : target ∈ rendering.units) :
    exported runtime rendering (moduleName target.self.group) (typeName target.self)
      = [target] := by
  obtain ⟨hmods, huses⟩ := read_linesAt_module h htarget rfl
  have hstruct : (structs (classLines runtime target)).contains (typeName target.self) = true := by
    rw [structs_classLines]
    simp
  have hfile : rendering.units.filter (fun unit =>
      (structs (classLines runtime unit)).contains (typeName target.self)
        && relativePath unit.self == relativePath target.self) = [target] := by
    rw [← List.filter_filter, filter_relativePath (nodup_classPaths h) htarget]
    exact List.filter_cons_of_pos hstruct
  simp only [exported, hmods, huses, filter_moduleEntries h htarget rfl, List.flatMap_singleton]
  exact hfile

theorem enclosing_relativePath {r : ClassRef} (h : r.WellNamed) :
    enclosing (relativePath r) = moduleName r.group := by
  have hopen : ∀ c ∈ (moduleName r.group).toList, (c != '/') = true := by
    intro c hc
    rw [bne_iff_ne]
    rintro rfl
    exact (smallName_moduleName h).identifier.notMem (by decide) hc
  rw [enclosing, relativePath, join_eq (smallName_moduleName h) (smallName_fileStem h)]
  simp only [String.toList_append, List.append_assoc, List.takeWhile_append_of_pos hopen]
  simp

/-- **The path that is written for a class leads to the class**, and to no other. -/
theorem resolve_classPath (h : renderAll (Index.ofStore store) (renderer runtime) = .ok rendering)
    (hunit : unit ∈ rendering.units) (htarget : target ∈ rendering.units) :
    resolve runtime rendering (relativePath unit.self) (classPath unit.self target.self).text
      = [target] := by
  have hnames := wellNamed_self h htarget
  by_cases hgroup : unit.self.group = target.self.group
  · have hread : ClassPath.ofText? (classPath unit.self target.self).text
        = some (.sibling (typeName target.self)) := by
      rw [classPath, if_pos hgroup]
      exact ofText?_text (.sibling _) hnames.name.escapeReserved
    rw [resolve, hread]
    simp only [enclosing_relativePath (wellNamed_self h hunit), hgroup, exported_eq h htarget]
  · have hread : ClassPath.ofText? (classPath unit.self target.self).text
        = some (.elsewhere (moduleName target.self.group) (typeName target.self)) := by
      rw [classPath, if_neg hgroup]
      exact ofText?_text (.elsewhere _ _) (smallName_moduleName hnames).identifier
    rw [resolve, hread]
    simp only [contains_submodules_root h htarget, if_true, exported_eq h htarget]

end Rendered

end OntoWrap.Rust
