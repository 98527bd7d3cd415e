import OntoWrap.Proofs.JoinedPaths
import OntoWrap.Proofs.OutputPaths
import OntoWrap.Settings

/-!
# Where outputs go

Names of classes and namespaces come from IRIs and abbreviations of any characters.  An output
nevertheless goes to a file directly in a folder below the output folder, both with small names, or
it is the index of all Rust modules (`Settings.Places`).  No two outputs of a rendering are told
apart by letter case alone, and none stands where another needs a folder (`Rendering.Safe`).  When a
rendering is refused since two outputs share a path, these are the files of two classes: an index
file is never concerned, because the reserved word `mod` is no stem (`output_paths_safe`).
-/
namespace OntoWrap

open Naming

/-! ## 1. A file in a folder -/

/-- The path of a file in a folder: both have small names, and the file has an extension. -/
structure Placed (extension path folder stem : String) : Prop where
  smallFolder : SmallName folder
  smallStem : SmallName stem
  spelled : path = folder ++ "/" ++ (stem ++ "." ++ extension)

/-- A text that begins with a small name does not begin with a dot. -/
theorem Naming.SmallName.head?_append_ne {s : String} (h : SmallName s) (t : String) :
    (s ++ t).toList.head? ≠ some '.' := by
  obtain ⟨c, rest, hchars⟩ := h.exists_cons
  have hc : c ≠ '.' := by
    rintro rfl
    exact h.identifier.notMem (by decide) (hchars ▸ List.mem_cons_self : '.' ∈ s.toList)
  simpa [hchars] using hc

/-- ...so it is neither of the names that lead elsewhere. -/
theorem Naming.SmallName.ne_dots {s : String} (h : SmallName s) (t : String) :
    s ++ t ≠ "." ∧ s ++ t ≠ ".." := by
  have hhead := h.head?_append_ne t
  constructor
  · intro heq
    exact hhead (by rw [heq]; rfl)
  · intro heq
    exact hhead (by rw [heq]; rfl)

namespace Placed

variable {extension path folder stem : String}

theorem isAbsolute (h : Placed extension path folder stem) : Path.isAbsolute path = false := by
  obtain ⟨c, rest, hchars⟩ := h.smallFolder.exists_cons
  have hc : c ≠ '/' := by
    rintro rfl
    exact h.smallFolder.identifier.notMem (by decide)
      (hchars ▸ List.mem_cons_self : '/' ∈ folder.toList)
  simp [Path.isAbsolute, h.spelled, hchars, hc]

theorem segments (h : Placed extension path folder stem) (hextension : IdentifierText extension) :
    Path.segments path = [folder, stem ++ "." ++ extension] := by
  have hslash : isIdentifierChar '/' = false := by decide
  have hfolder := h.smallFolder.identifier.notMem hslash
  have hfile : '/' ∉ (stem ++ "." ++ extension).toList := by
    simp [h.smallStem.identifier.notMem hslash, hextension.notMem hslash]
  have hfolderNe : folder.toList ≠ [] := fun hnil =>
    h.smallFolder.nonempty (String.toList_injective hnil)
  have hchars : path.toList = folder.toList ++ '/' :: (stem ++ "." ++ extension).toList := by
    rw [h.spelled]
    simp
  rw [Path.segments, hchars, List.splitOn_append_cons_self_of_not_mem hfolder,
    List.splitOn_eq_singleton hfile, List.filter_eq_self.mpr (by simp [hfolderNe])]
  simp only [List.map_cons, List.map_nil, String.ofList_toList]

theorem ne_dots (h : Placed extension path folder stem) (hextension : IdentifierText extension) :
    ∀ name ∈ Path.segments path, name ≠ "." ∧ name ≠ ".." := by
  have hfolder := h.smallFolder.ne_dots ""
  have hfile := h.smallStem.ne_dots ("." ++ extension)
  rw [String.append_empty] at hfolder
  rw [← String.append_assoc] at hfile
  rw [h.segments hextension, List.forall_mem_cons, List.forall_mem_singleton]
  exact ⟨hfolder, hfile⟩

theorem components (h : Placed extension path folder stem) (hextension : IdentifierText extension) :
    Path.components path = Path.segments path := by
  have hdots := h.ne_dots hextension
  rw [h.segments hextension, List.forall_mem_cons, List.forall_mem_singleton] at hdots
  obtain ⟨⟨hfolder, -⟩, hfile, -⟩ := hdots
  rw [Path.components, h.segments hextension]
  simp [hfolder, hfile]

theorem folders (h : Placed extension path folder stem) (hextension : IdentifierText extension) :
    Path.folders path = [folder] := by
  rw [Path.folders, h.components hextension, h.segments hextension, h.isAbsolute]
  simp [Path.startsOf, Path.startsOf.descend, Path.ofComponents]

/-- A path without capitals is its own lower-case form. -/
theorem lowerText (h : Placed extension path folder stem) (hextension : SmallName extension) :
    Text.Case.lowerText path = path := by
  refine lowerText_eq_self fun c hc => ?_
  rw [h.spelled] at hc
  simp only [String.toList_append, List.mem_append] at hc
  rcases hc with (hc | hc) | (hc | hc) | hc
  · exact ⟨h.smallFolder.identifier.isAscii c hc, h.smallFolder.small c hc⟩
  · rw [List.mem_singleton.mp hc]
    decide
  · exact ⟨h.smallStem.identifier.isAscii c hc, h.smallStem.small c hc⟩
  · rw [List.mem_singleton.mp hc]
    decide
  · exact ⟨hextension.identifier.isAscii c hc, hextension.small c hc⟩

end Placed

/-! ## 2. The paths of outputs -/

/-- Where outputs go: to a file in a folder, or, in Rust, to the index of all modules. -/
def Settings.Places (settings : Settings) (path : String) : Prop :=
  (∃ folder stem, Placed settings.renderer.extension path folder stem) ∨
    settings.target = .rust ∧ path = "mod.rs"

/-- A file joined to a folder stands in it. -/
theorem placed_join {extension folder stem dotted : String} (hfolder : SmallName folder)
    (hstem : SmallName stem) (hdotted : dotted = "." ++ extension) :
    Placed extension (Path.join folder (stem ++ dotted)) folder stem where
  smallFolder := hfolder
  smallStem := hstem
  spelled := by
    rw [join_eq hfolder hstem, hdotted]
    simp only [String.append_assoc]

theorem smallName_of_all {s : String}
    (h : (s.toList.all fun c => Naming.isIdentifierChar c && !c.isUpper) = true) (hne : s ≠ "") :
    SmallName s := by
  have hchars : ∀ c ∈ s.toList, Naming.isIdentifierChar c = true ∧ c.isUpper = false := by
    simpa using h
  exact ⟨fun c hc => (hchars c hc).1, fun c hc => (hchars c hc).2, hne⟩

namespace Rust

theorem smallName_mod : SmallName "mod" := smallName_of_all (by decide) (by decide)

theorem placed_relativePath {r : ClassRef} (h : r.WellNamed) :
    Placed "rs" (relativePath r) (moduleName r.group) (fileStem r) :=
  placed_join (smallName_moduleName h) (smallName_fileStem h) (by decide)

theorem placed_namespaceIndex {module : String} (h : SmallName module) (classes : List ClassRef) :
    Placed "rs" (namespaceIndex module classes).path module "mod" :=
  placed_join h smallName_mod (by decide : ".rs" = "." ++ "rs")

theorem path_of_mem_indexes {units : List ClassUnit} {out : OutputUnit} (h : out ∈ indexes units) :
    (∃ u ∈ units, out.path = Path.join (moduleName u.self.group) "mod.rs") ∨
      out.path = "mod.rs" := by
  rcases List.mem_append.mp h with h | h
  · obtain ⟨module, hmodule, rfl⟩ := List.mem_map.mp h
    obtain ⟨u, hu, rfl⟩ := List.mem_map.mp (mem_ascending.mp hmodule)
    exact .inl ⟨u, hu, rfl⟩
  · rw [List.mem_singleton.mp h]
    exact .inr rfl

/-- **No index file has the path of a class file**, whatever the namespaces are called. -/
theorem path_ne_of_mem_indexes {units : List ClassUnit} {out : OutputUnit} (h : out ∈ indexes units)
    {r : ClassRef} (hr : r.WellNamed) : out.path ≠ relativePath r := by
  have hindex : (Path.segments out.path).getLast? = some "mod.rs" := by
    have hlast : Path.segments "mod.rs" = ["mod.rs"] := by decide
    rcases path_of_mem_indexes h with ⟨u, -, hpath⟩ | hpath
    · rw [hpath, Path.segments_join (by decide), hlast, List.getLast?_concat]
    · rw [hpath, hlast, List.getLast?_singleton]
  intro hsame
  rw [hsame, (placed_relativePath hr).segments (by decide)] at hindex
  have hstem : fileStem r ++ ("." ++ "rs") = "mod" ++ ("." ++ "rs") := by
    rw [← String.append_assoc]
    exact Option.some.inj hindex
  have hreserved : escapeReserved (Text.Case.lowerText r.name) = "mod" :=
    (String.append_left_inj _).mp hstem
  have hmod : "mod" ∈ reservedWords := by decide
  rw [← hreserved] at hmod
  exact escapeReserved_notMem _ hmod

/-- The index files have different paths. -/
theorem nodup_paths_indexes {units : List ClassUnit} (h : ∀ u ∈ units, u.self.WellNamed) :
    ((indexes units).map (·.path)).Nodup := by
  have hsmall : ∀ module ∈ ascending (units.map fun u => moduleName u.self.group),
      SmallName module := by
    intro module hmodule
    obtain ⟨u, hu, rfl⟩ := List.mem_map.mp (mem_ascending.mp hmodule)
    exact smallName_moduleName (h u hu)
  have hroot : Path.segments "mod.rs" = ["mod.rs"] := by decide
  simp only [indexes, List.map_append, List.map_map, List.map_singleton]
  refine List.nodup_append.mpr ⟨?_, List.nodup_singleton _, ?_⟩
  · refine (nodup_ascending _).map_on fun module hmodule other hother hsame => ?_
    have hpaths : Path.join module ("mod" ++ ".rs") = Path.join other ("mod" ++ ".rs") := hsame
    exact (join_inj (hsmall module hmodule) (hsmall other hother) smallName_mod smallName_mod
      hpaths).1
  · intro path hpath root hmem hsame
    obtain ⟨module, hmodule, rfl⟩ := List.mem_map.mp hpath
    obtain rfl := List.mem_singleton.mp hmem
    have hsegments := congrArg Path.segments hsame
    rw [Function.comp_apply, (placed_namespaceIndex (hsmall module hmodule) _).segments (by decide)]
      at hsegments
    exact absurd (hsegments.trans hroot) (by simp)

end Rust

theorem Rust.renderer_extension (runtime : String) : (renderer runtime).extension = "rs" := by
  rw [renderer]

theorem Rust.renderer_renderIndexes (runtime : String) :
    (renderer runtime).renderIndexes = indexes := by
  rw [renderer]

theorem Qt.renderer_extension (outer : String) : (renderer outer).extension = "h" := by
  rw [renderer]

theorem Qt.renderer_renderIndexes (outer : String) (units : List ClassUnit) :
    (renderer outer).renderIndexes units = [] := by
  rw [renderer]

theorem Qt.placed_relativePath {r : ClassRef} (h : r.WellNamed) :
    Placed "h" (Qt.relativePath r) r.group (Qt.fileStem r) :=
  placed_join h.group (h.name.smallName_lowerText h.name_ne) (by decide)

section Targets

variable (settings : Settings)

theorem smallName_extension : SmallName settings.renderer.extension := by
  rw [Settings.renderer]
  split
  · rw [Rust.renderer_extension]
    exact smallName_of_all (by decide) (by decide)
  · rw [Qt.renderer_extension]
    exact smallName_of_all (by decide) (by decide)

/-- A class file goes to a file in a folder. -/
theorem exists_placed {r : ClassRef} (h : r.WellNamed) :
    ∃ folder stem,
      Placed settings.renderer.extension (settings.renderer.relativePath r) folder stem := by
  rw [Settings.renderer]
  split
  · rw [Rust.renderer_extension, Rust.renderer_relativePath]
    exact ⟨_, _, Rust.placed_relativePath h⟩
  · rw [Qt.renderer_extension, Qt.renderer_relativePath]
    exact ⟨_, _, Qt.placed_relativePath h⟩

theorem places_of_mem_renderIndexes {units : List ClassUnit} (h : ∀ u ∈ units, u.self.WellNamed)
    {out : OutputUnit} (hout : out ∈ settings.renderer.renderIndexes units) :
    settings.Places out.path := by
  rw [Settings.Places]
  rw [Settings.renderer] at hout ⊢
  split at hout
  · rename_i htarget
    rw [Rust.renderer_renderIndexes] at hout
    rcases Rust.path_of_mem_indexes hout with ⟨u, hu, hpath⟩ | hpath
    · refine .inl ⟨Rust.moduleName u.self.group, "mod", ?_⟩
      rw [hpath, Rust.renderer_extension]
      exact Rust.placed_namespaceIndex (Rust.smallName_moduleName (h u hu)) []
    · exact .inr ⟨htarget, hpath⟩
  · rw [Qt.renderer_renderIndexes] at hout
    cases hout

/-- **No index file has the path of a class file**, whatever the namespaces are called. -/
theorem path_ne_of_mem_renderIndexes {units : List ClassUnit} {out : OutputUnit}
    (hout : out ∈ settings.renderer.renderIndexes units) {r : ClassRef} (h : r.WellNamed) :
    out.path ≠ settings.renderer.relativePath r := by
  rw [Settings.renderer] at hout ⊢
  split at hout
  · rw [Rust.renderer_renderIndexes] at hout
    rw [Rust.renderer_relativePath]
    exact Rust.path_ne_of_mem_indexes hout h
  · rw [Qt.renderer_renderIndexes] at hout
    cases hout

theorem nodup_paths_renderIndexes {units : List ClassUnit} (h : ∀ u ∈ units, u.self.WellNamed) :
    ((settings.renderer.renderIndexes units).map (·.path)).Nodup := by
  rw [Settings.renderer]
  split
  · rw [Rust.renderer_renderIndexes]
    exact Rust.nodup_paths_indexes h
  · rw [Qt.renderer_renderIndexes]
    exact .nil

end Targets

/-! ## 3. Outputs that share a path -/

/-- One step after another fails if the first does or the second does on its result. -/
theorem bind_eq_error_iff {α β ε : Type} {x : Except ε α} {f : α → Except ε β} {fault : ε} :
    (x >>= f) = .error fault ↔ x = .error fault ∨ ∃ a, x = .ok a ∧ f a = .error fault := by
  cases x <;> simp [bind, Except.bind]

/-- A list of steps fails as one of its steps does. -/
theorem exists_of_mapM_eq_error {α β ε : Type} {f : α → Except ε β} {l : List α} {fault : ε}
    (h : l.mapM f = .error fault) : ∃ a ∈ l, f a = .error fault := by
  induction l with
  | nil => cases h
  | cons a l ih =>
    rw [List.mapM_cons, bind_eq_error_iff] at h
    rcases h with ha | ⟨b, -, h⟩
    · exact ⟨a, List.mem_cons_self, ha⟩
    · rcases bind_eq_error_iff.mp h with hl | ⟨bs, -, hnone⟩
      · obtain ⟨other, hother, hfault⟩ := ih hl
        exact ⟨other, List.mem_cons_of_mem _ hother, hfault⟩
      · cases hnone

/-- Planning a class says nothing about outputs. -/
theorem plan_ne_duplicateOutput {index : Index} {declare : String → String} {c : ClassInfo}
    {path : String} {origins : List String} :
    index.plan declare c ≠ .error (.duplicateOutput path origins) := by
  unfold Index.plan
  cases index.ancestors c with
  | error fault => exact fun h => by cases h
  | ok ancestors =>
    cases Naming.disambiguate c.iri declare (index.effectiveProperties c) with
    | error collision => exact fun h => by cases h
    | ok named => exact fun h => by cases h

/-- The output at which a path occurs again, and the one that has it first. -/
theorem exists_of_sharedPath?_eq_some {earlier outputs : List OutputUnit} {fault : PlanFault}
    (h : sharedPath? earlier outputs = some fault) :
    ∃ before out after, outputs = before ++ out :: after ∧ ∃ first ∈ earlier ++ before,
      first.path = out.path ∧ fault = .duplicateOutput out.path [first.origin, out.origin] := by
  induction outputs generalizing earlier with
  | nil => cases h
  | cons out rest ih =>
    rw [sharedPath?] at h
    split at h
    · rename_i first hfirst
      refine ⟨[], out, rest, rfl, first, ?_, ?_, (Option.some.inj h).symm⟩
      · exact List.mem_append_left _ (List.mem_of_find?_eq_some hfirst)
      · simpa using List.find?_some hfirst
    · obtain ⟨before, later, after, rfl, first, hfirst, hsame⟩ := ih h
      rw [List.append_assoc] at hfirst
      exact ⟨out :: before, later, after, rfl, first, hfirst, hsame⟩

/-- A rendering is refused for a shared path once all classes have a plan. -/
theorem renderAll_eq_duplicateOutput_iff {index : Index} {renderer : Renderer} {path : String}
    {origins : List String} :
    renderAll index renderer = .error (.duplicateOutput path origins) ↔
      ∃ units, List.Forall₂ (fun c unit => index.plan renderer.methodName c = .ok unit)
          index.classes units ∧
        sharedPath? [] (renderer.outputs units) = some (.duplicateOutput path origins) := by
  have hplans : index.classes.mapM (index.plan renderer.methodName) ≠
      .error (.duplicateOutput path origins) := by
    intro h
    obtain ⟨c, -, hfault⟩ := exists_of_mapM_eq_error h
    exact plan_ne_duplicateOutput hfault
  simp only [renderAll, bind_eq_error_iff, mapM_eq_ok_iff, hplans, false_or]
  refine exists_congr fun units => and_congr_right fun _ => ?_
  cases sharedPath? [] (renderer.outputs units) with
  | none => simp [pure, Except.pure]
  | some fault => simp [throw, throwThe, MonadExceptOf.throw]

/-- A key that occurs again in two lists, one after the other, does so in the first one, if the keys
of the second one are different and none of them is a key of the first one. -/
theorem exists_eq_of_repeated_key {α β : Type} (key : α → β) {l m before after : List α}
    {a first : α} (hm : (m.map key).Nodup) (hapart : ∀ b ∈ m, ∀ c ∈ l, key b ≠ key c)
    (h : l ++ m = before ++ a :: after) (hfirst : first ∈ before) (hsame : key first = key a) :
    ∃ rest, l = before ++ a :: rest := by
  rcases List.append_eq_append_iff.mp h with ⟨others, rfl, rfl⟩ | ⟨rest, rfl, hrest⟩
  · rcases List.mem_append.mp hfirst with hfirst | hfirst
    · exact absurd hsame.symm (hapart a (by simp) first hfirst)
    · rw [List.map_append] at hm
      exact absurd hsame ((List.nodup_append.mp hm).2.2 _ (List.mem_map_of_mem hfirst) _ (by simp))
  · cases rest with
    | nil =>
      have ha : a ∈ m := by
        rw [← List.nil_append m, ← hrest]
        exact List.mem_cons_self
      exact absurd hsame.symm (hapart a ha first (List.mem_append_left _ hfirst))
    | cons b rest =>
      obtain ⟨rfl, -⟩ := List.cons.inj hrest
      exact ⟨rest, rfl⟩

section Planned

variable {index : Index} {declare : String → String} {c : ClassInfo} {unit : ClassUnit}

/-- Plans are made in the order of the classes. -/
theorem map_self_of_plans {classes : List ClassInfo} {units : List ClassUnit}
    (h : List.Forall₂ (fun c unit => index.plan declare c = .ok unit) classes units) :
    units.map (·.self) = classes.map .ofClass := by
  induction h with
  | nil => rfl
  | cons hplan _ ih => rw [List.map_cons, List.map_cons, self_of_plan hplan, ih]

theorem exists_class_of_mem_plans {classes : List ClassInfo} {units : List ClassUnit}
    (h : List.Forall₂ (fun c unit => index.plan declare c = .ok unit) classes units) :
    ∀ unit ∈ units, ∃ c ∈ classes, unit.self = .ofClass c := by
  intro unit hunit
  have hself : unit.self ∈ classes.map .ofClass := by
    rw [← map_self_of_plans h]
    exact List.mem_map_of_mem hunit
  obtain ⟨c, hc, hsame⟩ := List.mem_map.mp hself
  exact ⟨c, hc, hsame.symm⟩

theorem wellNamed_of_plans {classes : List ClassInfo} {units : List ClassUnit}
    (h : List.Forall₂ (fun c unit => index.plan declare c = .ok unit) classes units) :
    ∀ unit ∈ units, unit.self.WellNamed := by
  intro unit hunit
  obtain ⟨c, -, hself⟩ := exists_class_of_mem_plans h unit hunit
  rw [hself]
  exact wellNamed_ofClass c

end Planned

/-- **A path is shared by the files of two classes**: an index file is never concerned. -/
theorem classes_of_duplicateOutput {index : Index} (hindex : index.WellFormed) {settings : Settings}
    {path : String} {origins : List String}
    (h : renderAll index settings.renderer = .error (.duplicateOutput path origins)) :
    ∃ c ∈ index.classes, ∃ d ∈ index.classes, c.iri ≠ d.iri ∧ origins = [c.iri, d.iri] ∧
      settings.renderer.relativePath (.ofClass c) = path ∧
      settings.renderer.relativePath (.ofClass d) = path := by
  obtain ⟨units, hplans, hshared⟩ := renderAll_eq_duplicateOutput_iff.mp h
  have hnamed := wellNamed_of_plans hplans
  obtain ⟨before, out, after, houtputs, first, hfirst, hsame, hfault⟩ :=
    exists_of_sharedPath?_eq_some hshared
  obtain ⟨rfl, rfl⟩ := PlanFault.duplicateOutput.inj hfault
  rw [List.nil_append] at hfirst
  -- an index file has a path of its own, so the later output is the file of a class
  obtain ⟨rest, hfiles⟩ := exists_eq_of_repeated_key (·.path)
    (nodup_paths_renderIndexes settings hnamed)
    (fun index hindex file hfile => by
      obtain ⟨unit, hunit, rfl⟩ := List.mem_map.mp hfile
      exact path_ne_of_mem_renderIndexes settings hindex (hnamed unit hunit))
    houtputs hfirst hsame
  obtain ⟨earlier, others, rfl, rfl, hlater⟩ := List.map_eq_append_iff.mp hfiles
  obtain ⟨unit, later, rfl, rfl, -⟩ := List.map_eq_cons_iff.mp hlater
  obtain ⟨other, hother, rfl⟩ := List.mem_map.mp hfirst
  have hiris : ((earlier ++ unit :: later).map (·.self.iri)).Nodup := by
    have hclasses : index.classes.map (·.iri)
        = (index.classes.map ClassRef.ofClass).map (·.iri) := by
      rw [List.map_map]
      rfl
    have hdistinct := hindex.distinct
    rwa [hclasses, ← map_self_of_plans hplans, List.map_map] at hdistinct
  obtain ⟨c, hc, hother_self⟩ := exists_class_of_mem_plans hplans other (by simp [hother])
  obtain ⟨d, hd, hunit_self⟩ := exists_class_of_mem_plans hplans unit (by simp)
  refine ⟨c, hc, d, hd, ?_, ?_, ?_, ?_⟩
  · rw [List.map_append] at hiris
    have happart := (List.nodup_append.mp hiris).2.2 other.self.iri (List.mem_map_of_mem hother)
      unit.self.iri (by simp)
    rwa [hother_self, hunit_self] at happart
  · rw [Renderer.render, Renderer.render, hother_self, hunit_self]
    rfl
  · rw [← hother_self]
    exact hsame
  · rw [← hunit_self]
    rfl

/-! ## 4. Safe outputs -/

namespace Settings.Places

variable {settings : Settings} {path other : String}

theorem isAbsolute (h : settings.Places path) : Path.isAbsolute path = false := by
  rcases h with ⟨folder, stem, hplaced⟩ | ⟨-, rfl⟩
  · exact hplaced.isAbsolute
  · decide

theorem ne_dots (h : settings.Places path) :
    ∀ name ∈ Path.segments path, name ≠ "." ∧ name ≠ ".." := by
  rcases h with ⟨folder, stem, hplaced⟩ | ⟨-, rfl⟩
  · exact hplaced.ne_dots (smallName_extension settings).identifier
  · decide

theorem lowerText (h : settings.Places path) : Text.Case.lowerText path = path := by
  rcases h with ⟨folder, stem, hplaced⟩ | ⟨-, rfl⟩
  · exact hplaced.lowerText (smallName_extension settings)
  · decide +kernel

theorem dot_mem (h : settings.Places path) : '.' ∈ path.toList := by
  rcases h with ⟨folder, stem, hplaced⟩ | ⟨-, rfl⟩
  · simp [hplaced.spelled]
  · decide

theorem dot_notMem_folders (h : settings.Places path) :
    ∀ folder ∈ Path.folders path, '.' ∉ folder.toList := by
  rcases h with ⟨folder, stem, hplaced⟩ | ⟨-, rfl⟩
  · rw [hplaced.folders (smallName_extension settings).identifier, List.forall_mem_singleton]
    exact hplaced.smallFolder.identifier.notMem (by decide)
  · decide

/-- No output stands where another one needs a folder: files have an extension, folders have
none. -/
theorem notMem_folders (h : settings.Places path) (hother : settings.Places other) :
    path ∉ Path.folders other :=
  fun hmem => hother.dot_notMem_folders path hmem h.dot_mem

end Settings.Places

/-- **The outputs of a rendering are safe.**  Each goes to a file in a folder or is the index of all
Rust modules, and so leads to a place below the output folder in every file tree.  No two paths are
told apart by letter case alone, and none is that of a folder that another output needs. -/
structure Rendering.Safe (settings : Settings) (rendering : Rendering) : Prop where
  places : ∀ out ∈ rendering.outputs, settings.Places out.path
  below : ∀ out ∈ rendering.outputs, ∀ (tree : FileTree) (location : Location),
    tree.locate (Path.join settings.outputDir out.path) = .ok location →
      ∃ folder, tree.target settings.outputDir = .ok folder ∧
        location = folder ++ Path.segments out.path
  apart : (rendering.outputs.map fun out => Text.Case.lowerText out.path).Nodup
  noFolder : ∀ out ∈ rendering.outputs, ∀ other ∈ rendering.outputs,
    out.path ∉ Path.folders other.path

theorem safe_of_renderAll {index : Index} {settings : Settings} {rendering : Rendering}
    (h : renderAll index settings.renderer = .ok rendering) : rendering.Safe settings := by
  obtain ⟨hplans, houtputs, -⟩ := renderAll_eq_ok_iff.mp h
  have hnamed := wellNamed_of_plans hplans
  have hplaces : ∀ out ∈ rendering.outputs, settings.Places out.path := by
    intro out hout
    rw [houtputs] at hout
    rcases List.mem_append.mp hout with hout | hout
    · obtain ⟨unit, hunit, rfl⟩ := List.mem_map.mp hout
      exact .inl (exists_placed settings (hnamed unit hunit))
    · exact places_of_mem_renderIndexes settings hnamed hout
  constructor
  · exact hplaces
  · intro out hout tree location hlocate
    exact FileTree.locate_join (hplaces out hout).isAbsolute (hplaces out hout).ne_dots hlocate
  · rw [List.map_congr_left fun out hout => (hplaces out hout).lowerText]
    exact nodup_paths h
  · intro out hout other hother
    exact (hplaces out hout).notMem_folders (hplaces other hother)

/-- **Outputs are safe**, for every store and all settings.  If a rendering is refused since a path
is shared, the origins are two classes with this path; an index file never has the path of a class
file. -/
theorem outputs_safe (store : Store) (settings : Settings) :
    (∀ rendering, renderAll (Index.ofStore store) settings.renderer = .ok rendering →
      rendering.Safe settings) ∧
    (∀ path origins,
      renderAll (Index.ofStore store) settings.renderer = .error (.duplicateOutput path origins) →
        ∃ c ∈ (Index.ofStore store).classes, ∃ d ∈ (Index.ofStore store).classes,
          c.iri ≠ d.iri ∧ origins = [c.iri, d.iri] ∧
          settings.renderer.relativePath (.ofClass c) = path ∧
          settings.renderer.relativePath (.ofClass d) = path ∧ settings.Places path) ∧
    ∀ (units : List ClassUnit) (c : ClassInfo), ∀ out ∈ settings.renderer.renderIndexes units,
      out.path ≠ settings.renderer.relativePath (.ofClass c) := by
  refine ⟨fun _ => safe_of_renderAll, fun path origins h => ?_, fun _ c _ hout =>
    path_ne_of_mem_renderIndexes settings hout (wellNamed_ofClass c)⟩
  obtain ⟨c, hc, d, hd, hiri, horigins, hcpath, hdpath⟩ :=
    classes_of_duplicateOutput (Index.wellFormed_ofStore store) h
  have hplaces : settings.Places path :=
    hcpath ▸ .inl (exists_placed settings (wellNamed_ofClass c))
  exact ⟨c, hc, d, hd, hiri, horigins, hcpath, hdpath, hplaces⟩

/-- Two classes whose names are told apart by letter case alone. -/
def twins : Store := .ofList [Index.declaration "x:Cell", Index.declaration "x:cell"]

theorem ofStore_twins : Index.ofStore twins =
    { classes := [⟨"x:Cell", "Cell", none, "x", []⟩, ⟨"x:cell", "cell", none, "x", []⟩]
      properties := [] } :=
  (Index.inserted.property _).trans (by decide +kernel)

/-- The plans of the two classes. -/
def twinUnits : List ClassUnit := [
  ⟨⟨"x:Cell", "Cell", "x", true⟩, "Cell", none, [], [], []⟩,
  ⟨⟨"x:cell", "cell", "x", true⟩, "cell", none, [], [], []⟩]

theorem renderAll_twins : renderAll (Index.ofStore twins) (Settings.renderer {}) =
    .error (.duplicateOutput "x/cell.rs" ["x:Cell", "x:cell"]) := by
  refine renderAll_eq_duplicateOutput_iff.mpr ⟨twinUnits, ?_, ?_⟩
  · have hnames : ∀ onClass, disambiguate onClass (Settings.renderer {}).methodName [] = .ok [] :=
      fun onClass => disambiguate_eq_ok_iff.mpr ⟨rfl, .nil, .nil⟩
    rw [ofStore_twins]
    refine .cons ?_ (.cons ?_ .nil)
    · exact plan_eq_ok_iff.mpr ⟨[], by cbv, [], hnames _, rfl⟩
    · exact plan_eq_ok_iff.mpr ⟨[], by cbv, [], hnames _, rfl⟩
  · decide +kernel

theorem outputs_safe_media_twins :
    (∃ rendering, renderAll (Index.ofStore media) (Rust.renderer "crate") = .ok rendering ∧
      rendering.Safe { rustRuntime := "crate" }) ∧
    (∃ rendering, renderAll (Index.ofStore media) (Qt.renderer "Onto") = .ok rendering ∧
      rendering.Safe { target := .qt, qtNamespace := "Onto" }) ∧
    (∃ c ∈ (Index.ofStore twins).classes, ∃ d ∈ (Index.ofStore twins).classes, c.iri ≠ d.iri ∧
      ["x:Cell", "x:cell"] = [c.iri, d.iri]) ∧
    ∃ out ∈ (Settings.renderer {}).renderIndexes mediaUnits,
      out.path ≠ (Settings.renderer {}).relativePath
        (.ofClass ⟨"x:mod", "mod", none, "x", []⟩) := by
  obtain ⟨rust, hrust, -⟩ := Rust.exists_rendering_media
  obtain ⟨qt, hqt, -⟩ := Qt.exists_rendering_media
  obtain ⟨c, hc, d, hd, hiri, horigins, -⟩ := (outputs_safe twins {}).2.1 _ _ renderAll_twins
  have hindex : Rust.rootIndex (ascending (mediaUnits.map fun u => Rust.moduleName u.self.group)) ∈
      (Settings.renderer {}).renderIndexes mediaUnits := by
    rw [Settings.renderer, Rust.renderer_renderIndexes]
    exact List.mem_append_right _ List.mem_cons_self
  exact ⟨⟨rust, hrust, (outputs_safe media { rustRuntime := "crate" }).1 rust hrust⟩,
    ⟨qt, hqt, (outputs_safe media { target := .qt, qtNamespace := "Onto" }).1 qt hqt⟩,
    ⟨c, hc, d, hd, hiri, horigins⟩, _, hindex, (outputs_safe media {}).2.2 mediaUnits _ _ hindex⟩

end OntoWrap
