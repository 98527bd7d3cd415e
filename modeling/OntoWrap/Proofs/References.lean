import OntoWrap.Proofs.RustPaths

/-!
# References between generated files

Every reference from one generated file to another leads to the class that is meant.  In Rust this
is a path through the modules, read where it is written and followed through the index files
(`Rust.Linked`), in Qt the quoted path of a header (`Qt.Linked`), and headers never include one
another in a circle.  Both hold whenever an index is rendered (`linked_of_renderAll`), since files
that are told apart by their paths have different names.
-/
namespace OntoWrap

open Text Text.Source

namespace Qt

/-! ## 1. What a header includes -/

/-- The headers that some lines include by a quoted path. -/
def quotedIncludes (lines : List String) : List String :=
  lines.filterMap (between? "#include \"" "\"")

theorem quotedIncludes_append (l m : List String) :
    quotedIncludes (l ++ m) = quotedIncludes l ++ quotedIncludes m :=
  List.filterMap_append

/-- Lines that begin otherwise include no header by a quoted path. -/
theorem quotedIncludes_eq_nil {lines : List String}
    (h : ∀ line ∈ lines, afterText? "#include \"".toList line.toList = none) :
    quotedIncludes lines = [] :=
  List.filterMap_eq_nil_iff.mpr fun line hline => between?_eq_none (h line hline)

theorem quotedIncludes_cons {line : String}
    (h : afterText? "#include \"".toList line.toList = none) (l : List String) :
    quotedIncludes (line :: l) = quotedIncludes l :=
  List.filterMap_cons_none (between?_eq_none h)

theorem quotedIncludes_indent (body : List String) : quotedIncludes (indent body) = [] :=
  quotedIncludes_eq_nil fun line hline =>
    afterText?_eq_none_of_head? rfl (head?_indent (by decide) line hline)

theorem quotedIncludes_blockComment (text : String) : quotedIncludes (blockComment text) = [] := by
  have hopen : quotedIncludes ["/**"] = [] := by decide
  have hempty : quotedIncludes [" *"] = [] := by decide
  have hclose : quotedIncludes [" */"] = [] := by decide
  have hwords : ∀ words : List String, quotedIncludes (words.map (" * " ++ ·)) = [] := by
    intro words
    refine quotedIncludes_eq_nil fun line hline => ?_
    obtain ⟨inner, -, rfl⟩ := List.mem_map.mp hline
    simp [afterText?]
  simp only [blockComment, quotedIncludes_append, hopen, hclose]
  split
  · rw [hempty]
    rfl
  · rw [hwords]
    rfl

theorem quotedIncludes_members (unit : ClassUnit) : quotedIncludes (members unit) = [] := by
  have hpublic : quotedIncludes ["public:"] = [] := by decide
  have hprotected : quotedIncludes ["protected:"] = [] := by decide
  simp only [members, quotedIncludes_append, quotedIncludes_indent, hpublic, hprotected,
    List.append_nil]

/-- The path of a header as it is included is the one under which the header is written. -/
theorem included_eq {r : ClassRef} (h : r.WellNamed) :
    r.group ++ "/" ++ fileStem r ++ ".h" = relativePath r := by
  have hstem : Naming.SmallName (fileStem r) := h.name.smallName_lowerText h.name_ne
  rw [relativePath, join_eq h.group hstem, String.append_assoc]

theorem quotedIncludes_parentIncludes {unit : ClassUnit} (h : ∀ p ∈ unit.parents, p.WellNamed) :
    quotedIncludes (parentIncludes unit) = unit.parents.map relativePath := by
  have hempty : quotedIncludes [""] = [] := by decide
  unfold parentIncludes
  split
  · rename_i hroot
    rw [ClassUnit.isRootLevel, List.isEmpty_iff] at hroot
    rw [hroot]
    rfl
  · rw [quotedIncludes_append, hempty, List.append_nil, quotedIncludes, List.filterMap_map]
    calc unit.parents.filterMap _
        = unit.parents.filterMap (fun p => some (relativePath p)) := by
          refine List.filterMap_congr fun p hp => ?_
          rw [Function.comp_apply, ← included_eq (h p hp)]
          exact between?_eq_some_iff.mpr (by simp only [String.append_assoc]; rfl)
      _ = unit.parents.map relativePath := by rw [List.filterMap_eq_map']

/-- **A class file includes the headers of the parents by quoted paths**, and no others. -/
theorem quotedIncludes_classLines {outer : String} {unit : ClassUnit}
    (h : ∀ p ∈ unit.parents, p.WellNamed) :
    quotedIncludes (classLines outer unit) = unit.parents.map relativePath := by
  have hguard : ∀ guardName, quotedIncludes ["#ifndef " ++ guardName, "#define " ++ guardName, ""]
      = [] := by
    intro guardName
    rw [quotedIncludes_cons (by simp [afterText?]), quotedIncludes_cons (by simp [afterText?])]
    decide
  have hlibrary : quotedIncludes (libraryHeaders.map fun header =>
      "#include <QtCore/" ++ header ++ ">") = [] := by decide
  have hruntime : ∀ folder, quotedIncludes ["", "#include <" ++ folder ++ "/simpleresource.h>", ""]
      = [] := by
    intro folder
    rw [quotedIncludes_cons (by decide), quotedIncludes_cons (by simp [afterText?])]
    decide
  have hopen : ∀ name, quotedIncludes ["namespace " ++ outer ++ " \x7b",
      "namespace " ++ name ++ " \x7b"] = [] := by
    intro name
    rw [quotedIncludes_cons (by simp [afterText?]), quotedIncludes_cons (by simp [afterText?])]
    rfl
  have hclass : ∀ bases, quotedIncludes ["class " ++ unit.self.name ++ " : " ++ bases, "\x7b"]
      = [] := by
    intro bases
    rw [quotedIncludes_cons (by simp [afterText?])]
    decide
  have hclose : quotedIncludes ["\x7d;", "\x7d", "\x7d", "", "#endif"] = [] := by decide
  delta classLines
  simp only [quotedIncludes_append, hguard, hlibrary, hruntime, hopen, hclass, hclose,
    quotedIncludes_blockComment, quotedIncludes_members, quotedIncludes_parentIncludes h,
    List.nil_append, List.append_nil]

/-! ## 2. References in Qt -/

/-- A header includes that of another class. -/
def Includes (outer : String) (rendering : Rendering) (unit target : ClassUnit) : Prop :=
  unit ∈ rendering.units ∧ target ∈ rendering.units ∧
    relativePath target.self ∈ quotedIncludes (classLines outer unit)

/-- **The headers of a rendering are linked.**  A header includes those of the parents of its class
by the paths under which they are written, classes have different qualified names, and no header
includes itself, on whatever way. -/
structure Linked (outer : String) (rendering : Rendering) : Prop where
  includes : ∀ unit ∈ rendering.units,
    quotedIncludes (classLines outer unit) = unit.parents.map relativePath ∧
    ∀ parent ∈ unit.parents, ∃ target ∈ rendering.units, target.self = parent ∧
      rendering.outputs.filter (·.path == relativePath parent) = [(renderer outer).render target]
  distinct : ∀ u ∈ rendering.units, ∀ v ∈ rendering.units, u.self.iri ≠ v.self.iri →
    qualified u.self ≠ qualified v.self
  acyclic : ∀ unit, ¬ Relation.TransGen (Includes outer rendering) unit unit

section Rendered

variable {store : Store} {outer : String} {rendering : Rendering} {unit target : ClassUnit}

/-- A header is included by classes directly below its own. -/
theorem parent_of_includes (h : renderAll (Index.ofStore store) (renderer outer) = .ok rendering)
    (hincludes : Includes outer rendering unit target) :
    (Index.ofStore store).Parent unit.self.iri target.self.iri := by
  obtain ⟨hunit, htarget, hpath⟩ := hincludes
  rw [quotedIncludes_classLines (wellNamed_of_mem_parents h hunit)] at hpath
  obtain ⟨parent, hparent, hsame⟩ := List.mem_map.mp hpath
  obtain ⟨other, hother, rfl, hstep⟩ := exists_unit_of_mem_parents h hunit hparent
  rwa [← unit_eq_of_header_eq h hother htarget hsame]

theorem linked_of_renderAll
    (h : renderAll (Index.ofStore store) (renderer outer) = .ok rendering) :
    Linked outer rendering where
  includes := by
    intro unit hunit
    refine ⟨quotedIncludes_classLines (wellNamed_of_mem_parents h hunit), fun parent hparent => ?_⟩
    obtain ⟨target, htarget, rfl, -⟩ := exists_unit_of_mem_parents h hunit hparent
    exact ⟨target, htarget, rfl,
      filter_path_eq_singleton h (mem_outputs_of_mem_units h htarget) (path_render outer target)⟩
  distinct := by
    intro u hu v hv hiri hname
    exact hiri (by rw [unit_eq_of_qualified_eq h hu hv hname])
  acyclic := by
    intro unit hcircle
    have hclimb : ∀ {target}, Relation.TransGen (Includes outer rendering) unit target →
        (Index.ofStore store).Above unit.self.iri target.self.iri := by
      intro target hpath
      induction hpath with
      | single hincludes => exact .single (parent_of_includes h hincludes)
      | tail _ hincludes ih => exact ih.tail (parent_of_includes h hincludes)
    exact not_above_self h _ (hclimb hcircle)

end Rendered

end Qt

/-! ## 3. References in Rust -/

namespace Rust

/-- **Paths in the file of a class lead to some classes**, in their order: each to one generated
class alone, the one that is meant. -/
def LeadTo (runtime : String) (rendering : Rendering) (unit : ClassUnit) (paths : List String)
    (meant : List ClassRef) : Prop :=
  List.Forall₂ (fun path c => ∃ target ∈ rendering.units, target.self = c ∧
    resolve runtime rendering (relativePath unit.self) path = [target]) paths meant

/-- **The modules of a rendering are linked.**  The paths that a class file writes in the links of
its comment and in its conversions lead to the parents of the class, those that it writes in calls
of `init_type` to its ancestors, and no two classes have a struct of one name in one module. -/
structure Linked (runtime : String) (rendering : Rendering) : Prop where
  links : ∀ unit ∈ rendering.units, ∃ paths, links? (classLines runtime unit) = some paths ∧
    LeadTo runtime rendering unit paths unit.parents
  conversions : ∀ unit ∈ rendering.units, ∃ paths,
    conversionsIn (classLines runtime unit)
      = (if unit.isRootLevel then [rootConversion unit] else [])
        ++ paths.map (parentConversion unit) ∧
    LeadTo runtime rendering unit paths unit.parents
  calls : ∀ unit ∈ rendering.units, ∃ paths,
    callees? runtime unit = some ((if unit.isRootLevel then ["Self"] else []) ++ paths) ∧
    LeadTo runtime rendering unit paths unit.ancestors
  distinct : ∀ u ∈ rendering.units, ∀ v ∈ rendering.units, u.self.iri ≠ v.self.iri →
    (moduleName u.self.group, typeName u.self) ≠ (moduleName v.self.group, typeName v.self)

section Rendered

variable {store : Store} {runtime : String} {rendering : Rendering} {unit : ClassUnit}

/-- The paths of classes that are rendered lead to them. -/
theorem leadTo_classPath (h : renderAll (Index.ofStore store) (renderer runtime) = .ok rendering)
    (hunit : unit ∈ rendering.units) {meant : List ClassRef}
    (hmeant : ∀ c ∈ meant, ∃ target ∈ rendering.units, target.self = c) :
    LeadTo runtime rendering unit (meant.map fun c => (classPath unit.self c).text) meant := by
  rw [LeadTo, List.forall₂_map_left_iff, List.forall₂_same]
  intro c hc
  obtain ⟨target, htarget, rfl⟩ := hmeant c hc
  exact ⟨target, htarget, rfl, resolve_classPath h hunit htarget⟩

theorem leadTo_parents (h : renderAll (Index.ofStore store) (renderer runtime) = .ok rendering)
    (hunit : unit ∈ rendering.units) :
    LeadTo runtime rendering unit (unit.parents.map fun p => (classPath unit.self p).text)
      unit.parents := by
  refine leadTo_classPath h hunit fun parent hparent => ?_
  obtain ⟨target, htarget, hself, -⟩ := exists_unit_of_mem_parents h hunit hparent
  exact ⟨target, htarget, hself⟩

theorem leadTo_ancestors (h : renderAll (Index.ofStore store) (renderer runtime) = .ok rendering)
    (hunit : unit ∈ rendering.units) :
    LeadTo runtime rendering unit (unit.ancestors.map fun a => (classPath unit.self a).text)
      unit.ancestors := by
  refine leadTo_classPath h hunit fun ancestor hancestor => ?_
  obtain ⟨target, htarget, hself, -⟩ := exists_unit_of_mem_ancestors h hunit hancestor
  exact ⟨target, htarget, hself⟩

/-- A class calls itself if it has no parents, else its ancestors. -/
theorem callees?_eq_append
    (h : renderAll (Index.ofStore store) (renderer runtime) = .ok rendering)
    (hunit : unit ∈ rendering.units) :
    callees? runtime unit = some ((if unit.isRootLevel then ["Self"] else [])
      ++ unit.ancestors.map fun a => (classPath unit.self a).text) := by
  rw [callees?_eq, typeCalls]
  split
  · rename_i hroot
    rw [ancestors_eq_nil h hunit hroot]
    rfl
  · rw [List.map_map, List.nil_append]
    rfl

theorem linked_of_renderAll
    (h : renderAll (Index.ofStore store) (renderer runtime) = .ok rendering) :
    Linked runtime rendering where
  links := by
    intro unit hunit
    have hparents : ∀ p ∈ unit.parents, p.WellNamed := wellNamed_of_mem_parents h hunit
    exact ⟨_, links?_classLines runtime hparents, leadTo_parents h hunit⟩
  conversions := by
    intro unit hunit
    refine ⟨_, ?_, leadTo_parents h hunit⟩
    rw [conversionsIn_classLines runtime (wellNamed_self h hunit), List.map_map]
    rfl
  calls := fun unit hunit => ⟨_, callees?_eq_append h hunit, leadTo_ancestors h hunit⟩
  distinct := by
    intro u hu v hv hiri hpair
    obtain ⟨hmodule, htype⟩ := Prod.mk.inj hpair
    exact hiri (by rw [unit_eq_of_typeName_eq h hu hv hmodule htype])

end Rendered

end Rust

/-! ## 4. Both targets -/

/-- **References lead to the class that is meant**, for each target and every store that is
rendered. -/
theorem references_linked (store : Store) :
    (∀ runtime rendering, renderAll (Index.ofStore store) (Rust.renderer runtime) = .ok rendering →
      Rust.Linked runtime rendering) ∧
    ∀ outer rendering, renderAll (Index.ofStore store) (Qt.renderer outer) = .ok rendering →
      Qt.Linked outer rendering :=
  ⟨fun _ _ h => Rust.linked_of_renderAll h, fun _ _ h => Qt.linked_of_renderAll h⟩

theorem references_linked_media :
    (∃ rendering, renderAll (Index.ofStore media) (Rust.renderer "crate") = .ok rendering ∧
      Rust.Linked "crate" rendering) ∧
    ∃ rendering, renderAll (Index.ofStore media) (Qt.renderer "Onto") = .ok rendering ∧
      Qt.Linked "Onto" rendering := by
  obtain ⟨rust, hrust, -⟩ := Rust.exists_rendering_media
  obtain ⟨qt, hqt, -⟩ := Qt.exists_rendering_media
  obtain ⟨hmodules, hheaders⟩ := references_linked media
  exact ⟨⟨rust, hrust, hmodules _ rust hrust⟩, ⟨qt, hqt, hheaders _ qt hqt⟩⟩

end OntoWrap
