import Mathlib.Data.List.Basic
import OntoWrap.Proofs.Disambiguation
import OntoWrap.Proofs.PlannedHierarchy
import OntoWrap.Proofs.SmallNames
import OntoWrap.Wrapper.Render.Qt
import OntoWrap.Wrapper.Render.Rust

/-!
# What a path tells of its class

No two outputs of a rendering share a path (`nodup_paths`), and the path of a class file can be
taken apart into its folder and its stem (`join_inj`).  So whatever determines the path of a class
determines the class: in Rust the module and the name of the struct (`Rust.unit_eq_of_typeName_eq`),
in Qt the qualified name (`Qt.unit_eq_of_qualified_eq`).
-/
namespace OntoWrap

open Naming

/-! ## 1. Taking texts apart -/

/-- A list can be taken apart at the first occurrence of a member. -/
theorem append_cons_inj {α : Type} [DecidableEq α] {a : α} {l l' m m' : List α} (hl : a ∉ l)
    (hl' : a ∉ l') (h : l ++ a :: m = l' ++ a :: m') : l = l' ∧ m = m' := by
  have hfront : ∀ {l m : List α}, a ∉ l → (l ++ a :: m).takeWhile (· != a) = l := by
    intro l m hl
    have hpass : ∀ b ∈ l, (b != a) = true := by
      intro b hb
      rw [bne_iff_ne]
      rintro rfl
      exact hl hb
    rw [List.takeWhile_append_of_pos hpass, List.takeWhile_cons_of_neg (by simp), List.append_nil]
  have heq : l = l' := by rw [← hfront hl (m := m), h, hfront hl']
  subst heq
  exact ⟨rfl, (List.cons.inj (List.append_cancel_left h)).2⟩

/-- A text can be taken apart at a separator whose first character does not occur before it. -/
theorem append_separator_inj {separator s s' t t' : String} {c : Char} (rest : String)
    (hseparator : separator.toList = c :: rest.toList) (hs : c ∉ s.toList) (hs' : c ∉ s'.toList)
    (h : s ++ separator ++ t = s' ++ separator ++ t') : s = s' ∧ t = t' := by
  have hchars := congrArg String.toList h
  simp only [String.toList_append, hseparator, List.append_assoc, List.cons_append] at hchars
  obtain ⟨hfront, hback⟩ := append_cons_inj hs hs' hchars
  exact ⟨String.toList_injective hfront, String.toList_injective (List.append_cancel_left hback)⟩

/-- Members with different keys: a key finds one member. -/
theorem filter_key_eq_singleton {α β : Type} [DecidableEq β] (key : α → β) {l : List α} {a : α}
    (h : (l.map key).Nodup) (ha : a ∈ l) : l.filter (key · == key a) = [a] := by
  induction l with
  | nil => simp at ha
  | cons first rest ih =>
    obtain ⟨hfirst, hrest⟩ := List.nodup_cons.mp h
    have hapart : ∀ b ∈ rest, key b ≠ key first := fun b hb hsame =>
      hfirst (List.mem_map.mpr ⟨b, hb, hsame⟩)
    rcases List.mem_cons.mp ha with rfl | ha
    · have hnone : rest.filter (key · == key a) = [] :=
        List.filter_eq_nil_iff.mpr fun b hb => by simpa using hapart b hb
      simp [hnone]
    · have hskip : (key first == key a) = false := by
        simpa using (hapart a ha).symm
      simp [hskip, ih hrest ha]

/-- The path of a file in a folder, if both have small names. -/
theorem join_eq {folder stem : String} (hfolder : SmallName folder) (hstem : SmallName stem)
    (extension : String) :
    Path.join folder (stem ++ extension) = folder ++ "/" ++ (stem ++ extension) := by
  have hslash : isIdentifierChar '/' = false := by decide
  have hrelative : Path.isAbsolute (stem ++ extension) = false := by
    obtain ⟨c, rest, hchars⟩ := hstem.exists_cons
    have hc : c ≠ '/' := by
      rintro rfl
      exact hstem.identifier.notMem hslash (by simp [hchars])
    simp [Path.isAbsolute, String.toList_append, hchars, hc]
  have hopen : Path.endsInSlash folder = false := by
    rw [Path.endsInSlash, decide_eq_false_iff_not]
    exact fun hlast => hfolder.identifier.notMem hslash (List.mem_of_getLast? hlast)
  have hnamed : folder.isEmpty = false := by
    rw [← Bool.not_eq_true, String.isEmpty_iff]
    exact hfolder.nonempty
  simp [Path.join, hrelative, hopen, hnamed]

/-- **The path of a class file tells its folder and its stem.** -/
theorem join_inj {folder folder' stem stem' extension : String} (hfolder : SmallName folder)
    (hfolder' : SmallName folder') (hstem : SmallName stem) (hstem' : SmallName stem')
    (h : Path.join folder (stem ++ extension) = Path.join folder' (stem' ++ extension)) :
    folder = folder' ∧ stem = stem' := by
  have hslash : isIdentifierChar '/' = false := by decide
  rw [join_eq hfolder hstem, join_eq hfolder' hstem'] at h
  obtain ⟨hfolders, hfiles⟩ := append_separator_inj "" rfl
    (hfolder.identifier.notMem hslash) (hfolder'.identifier.notMem hslash) h
  exact ⟨hfolders, (String.append_left_inj _).mp hfiles⟩

/-! ## 2. No two outputs share a path -/

theorem sharedPath?_eq_none_iff {earlier outputs : List OutputUnit} :
    sharedPath? earlier outputs = none ↔
      (outputs.map (·.path)).Nodup ∧ ∀ out ∈ outputs, ∀ first ∈ earlier, first.path ≠ out.path := by
  induction outputs generalizing earlier with
  | nil => simp [sharedPath?]
  | cons out rest ih =>
    have hfind : earlier.find? (·.path == out.path) = none ↔
        ∀ first ∈ earlier, first.path ≠ out.path := by simp
    rw [sharedPath?]
    split
    · rename_i first hfirst
      have hmem := List.mem_of_find?_eq_some hfirst
      have hsame : first.path = out.path := by simpa using List.find?_some hfirst
      simp only [reduceCtorEq, false_iff]
      rintro ⟨-, hapart⟩
      exact hapart out List.mem_cons_self first hmem hsame
    · rename_i hnone
      rw [ih, List.map_cons, List.nodup_cons]
      have hout := hfind.mp hnone
      constructor
      · rintro ⟨hrest, hapart⟩
        refine ⟨⟨?_, hrest⟩, ?_⟩
        · intro hmem
          obtain ⟨later, hlater, hsame⟩ := List.mem_map.mp hmem
          exact hapart later hlater out (by simp) hsame.symm
        · intro later hlater first hfirst
          rcases List.mem_cons.mp hlater with rfl | hlater
          · exact hout first hfirst
          · exact hapart later hlater first (List.mem_append_left _ hfirst)
      · rintro ⟨⟨hnew, hrest⟩, hapart⟩
        refine ⟨hrest, fun later hlater first hfirst => ?_⟩
        rcases List.mem_append.mp hfirst with hfirst | hfirst
        · exact hapart later (List.mem_cons_of_mem _ hlater) first hfirst
        · rw [List.mem_singleton.mp hfirst]
          intro hsame
          exact hnew (hsame ▸ List.mem_map_of_mem hlater)

section Rendered

variable {store : Store} {renderer : Renderer} {rendering : Rendering} {u v : ClassUnit}

/-- **No two outputs of a rendering share a path.** -/
theorem nodup_paths {index : Index} (h : renderAll index renderer = .ok rendering) :
    (rendering.outputs.map (·.path)).Nodup :=
  (sharedPath?_eq_none_iff.mp (renderAll_eq_ok_iff.mp h).2.2).1

/-- Of a rendering, one output is found under its path. -/
theorem filter_path_eq_singleton {index : Index} (h : renderAll index renderer = .ok rendering)
    {out : OutputUnit} (hout : out ∈ rendering.outputs) {path : String} (hpath : out.path = path) :
    rendering.outputs.filter (·.path == path) = [out] := by
  subst hpath
  exact filter_key_eq_singleton (·.path) (nodup_paths h) hout

theorem mem_outputs_of_mem_units {index : Index} (h : renderAll index renderer = .ok rendering)
    (hu : u ∈ rendering.units) : renderer.render u ∈ rendering.outputs := by
  rw [(renderAll_eq_ok_iff.mp h).2.1]
  exact List.mem_append_left _ (List.mem_map_of_mem hu)

/-- The classes have different paths. -/
theorem nodup_relativePaths {index : Index} (h : renderAll index renderer = .ok rendering) :
    (rendering.units.map fun unit => renderer.relativePath unit.self).Nodup := by
  have hpaths := nodup_paths h
  rw [(renderAll_eq_ok_iff.mp h).2.1, Renderer.outputs, List.map_append, List.map_map] at hpaths
  exact hpaths.of_append_left

/-- **Classes with one path are one class.** -/
theorem unit_eq_of_relativePath_eq (h : renderAll (Index.ofStore store) renderer = .ok rendering)
    (hu : u ∈ rendering.units) (hv : v ∈ rendering.units)
    (hpath : renderer.relativePath u.self = renderer.relativePath v.self) : u = v :=
  List.inj_on_of_nodup_map (nodup_relativePaths h) hu hv hpath

end Rendered

/-! ## 3. How classes are named -/

/-- The names of a class are an identifier and, for its namespace, a small name. -/
structure ClassRef.WellNamed (r : ClassRef) : Prop where
  name : IdentifierText r.name
  name_ne : r.name ≠ ""
  group : SmallName r.group

theorem wellNamed_ofClass (c : ClassInfo) : (ClassRef.ofClass c).WellNamed where
  name := identifierText_sanitize _
  name_ne := sanitize_ne_empty _
  group := smallName_groupOf _

theorem wellNamed_self {store : Store} {renderer : Renderer} {rendering : Rendering}
    (h : renderAll (Index.ofStore store) renderer = .ok rendering) {unit : ClassUnit}
    (hunit : unit ∈ rendering.units) : unit.self.WellNamed := by
  obtain ⟨c, chain, hplan⟩ := exists_planOf_of_mem h hunit
  rw [hplan.self]
  exact wellNamed_ofClass c

theorem wellNamed_of_mem_parents {store : Store} {renderer : Renderer} {rendering : Rendering}
    (h : renderAll (Index.ofStore store) renderer = .ok rendering) {unit : ClassUnit}
    (hunit : unit ∈ rendering.units) : ∀ parent ∈ unit.parents, parent.WellNamed := by
  intro parent hparent
  obtain ⟨target, htarget, rfl, -⟩ := exists_unit_of_mem_parents h hunit hparent
  exact wellNamed_self h htarget

/-- **The accessors of a plan**: one for each property of the class, with the names that the
property has in the end. -/
theorem accessors_of_plan {index : Index} {declare : String → String} {c : ClassInfo}
    {unit : ClassUnit} (h : index.plan declare c = .ok unit) :
    unit.accessors = (index.effectiveProperties c).map fun p =>
      .ofProperty ⟨p, finalNames declare (index.effectiveProperties c) p⟩ := by
  obtain ⟨-, -, named, hnamed, rfl⟩ := plan_eq_ok_iff.mp h
  obtain ⟨rfl, -, -⟩ := disambiguate_eq_ok_iff.mp hnamed
  rw [secondRound_eq, List.map_map]
  rfl

/-- The accessors of a plan are identifiers. -/
theorem identifierText_of_plan {index : Index} {declare : String → String} {c : ClassInfo}
    {unit : ClassUnit} (h : index.plan declare c = .ok unit) :
    ∀ a ∈ unit.accessors, ∀ name ∈ a.names.accessors, IdentifierText name := by
  intro a ha
  rw [accessors_of_plan h] at ha
  obtain ⟨p, -, rfl⟩ := List.mem_map.mp ha
  exact identifierText_namesOf _ p

theorem identifierText_of_mem_units {index : Index} {renderer : Renderer} {rendering : Rendering}
    (h : renderAll index renderer = .ok rendering) {unit : ClassUnit}
    (hunit : unit ∈ rendering.units) :
    ∀ a ∈ unit.accessors, ∀ name ∈ a.names.accessors, IdentifierText name := by
  obtain ⟨c, -, hplan⟩ := exists_class_of_renderAll h hunit
  exact identifierText_of_plan hplan

/-! ## 4. Rust -/

namespace Rust

variable {r s : ClassRef}

theorem smallName_moduleName (h : r.WellNamed) : SmallName (moduleName r.group) :=
  h.group.escapeReserved

theorem smallName_fileStem (h : r.WellNamed) : SmallName (fileStem r) :=
  (h.name.smallName_lowerText h.name_ne).escapeReserved

theorem renderer_relativePath (runtime : String) :
    (renderer runtime).relativePath = relativePath := by
  rw [renderer]

theorem path_render (runtime : String) (unit : ClassUnit) :
    ((renderer runtime).render unit).path = relativePath unit.self := by
  rw [Renderer.render, renderer_relativePath]

/-- A module and the name of a struct in it tell the path of the file. -/
theorem relativePath_eq_of_typeName_eq (hmodule : moduleName r.group = moduleName s.group)
    (htype : typeName r = typeName s) : relativePath r = relativePath s := by
  have hstem : fileStem r = fileStem s := stem_eq_of_escapeReserved_eq htype
  rw [relativePath, relativePath, hmodule, hstem]

/-- **Classes with one module and one name are one class.** -/
theorem unit_eq_of_typeName_eq {store : Store} {runtime : String} {rendering : Rendering}
    (h : renderAll (Index.ofStore store) (renderer runtime) = .ok rendering) {u v : ClassUnit}
    (hu : u ∈ rendering.units) (hv : v ∈ rendering.units)
    (hmodule : moduleName u.self.group = moduleName v.self.group)
    (htype : typeName u.self = typeName v.self) : u = v := by
  refine unit_eq_of_relativePath_eq h hu hv ?_
  rw [renderer_relativePath]
  exact relativePath_eq_of_typeName_eq hmodule htype

end Rust

/-! ## 5. Qt -/

namespace Qt

variable {r s : ClassRef}

theorem renderer_relativePath (outer : String) : (renderer outer).relativePath = relativePath := by
  rw [renderer]

theorem path_render (outer : String) (unit : ClassUnit) :
    ((renderer outer).render unit).path = relativePath unit.self := by
  rw [Renderer.render, renderer_relativePath]

/-- **Classes with one header are one class.** -/
theorem unit_eq_of_header_eq {store : Store} {outer : String} {rendering : Rendering}
    (h : renderAll (Index.ofStore store) (renderer outer) = .ok rendering) {u v : ClassUnit}
    (hu : u ∈ rendering.units) (hv : v ∈ rendering.units)
    (hpath : relativePath u.self = relativePath v.self) : u = v := by
  rw [← renderer_relativePath outer] at hpath
  exact unit_eq_of_relativePath_eq h hu hv hpath

theorem identifierText_namespaceName (h : r.WellNamed) : IdentifierText (namespaceName r) :=
  h.group.identifier.upperText

/-- A qualified name tells the namespace and the name. -/
theorem qualified_inj (hr : r.WellNamed) (hs : s.WellNamed) (h : qualified r = qualified s) :
    r.group = s.group ∧ r.name = s.name := by
  have hcolon : isIdentifierChar ':' = false := by decide
  obtain ⟨hspaces, hnames⟩ := append_separator_inj ":" rfl
    ((identifierText_namespaceName hr).notMem hcolon)
    ((identifierText_namespaceName hs).notMem hcolon) h
  exact ⟨upperText_inj hr.group hs.group hspaces, hnames⟩

/-- **Classes with one qualified name are one class.** -/
theorem unit_eq_of_qualified_eq {store : Store} {outer : String} {rendering : Rendering}
    (h : renderAll (Index.ofStore store) (renderer outer) = .ok rendering) {u v : ClassUnit}
    (hu : u ∈ rendering.units) (hv : v ∈ rendering.units)
    (hname : qualified u.self = qualified v.self) : u = v := by
  obtain ⟨hgroup, hname⟩ := qualified_inj (wellNamed_self h hu) (wellNamed_self h hv) hname
  refine unit_eq_of_header_eq h hu hv ?_
  rw [relativePath, relativePath, fileStem, fileStem, hgroup, hname]

end Qt

/-! ## 6. Classes by themselves -/

/-- The plan of a class without parents and properties. -/
def ClassUnit.lone (c : ClassInfo) : ClassUnit where
  self := .ofClass c
  label := c.label
  comment := c.comment.map Text.normalize
  parents := []
  ancestors := []
  accessors := []

/-- Classes without parents and properties are rendered if no two outputs share a path. -/
theorem renderAll_lone {classes : List ClassInfo} (hparents : ∀ c ∈ classes, c.parents = [])
    {renderer : Renderer} (hpaths : ((renderer.outputs (classes.map .lone)).map (·.path)).Nodup) :
    renderAll { classes, properties := [] } renderer
      = .ok ⟨classes.map .lone, renderer.outputs (classes.map .lone)⟩ := by
  refine renderAll_eq_ok_iff.mpr ⟨?_, rfl, sharedPath?_eq_none_iff.mpr ⟨hpaths, by simp⟩⟩
  rw [List.forall₂_map_right_iff, List.forall₂_same]
  intro c hc
  have hancestors : Index.ancestors { classes, properties := [] } c = .ok [] := by
    simp [Index.ancestors, hparents c hc, Index.walk]
  have hnames : disambiguate c.iri renderer.methodName [] = .ok [] :=
    disambiguate_eq_ok_iff.mpr ⟨rfl, .nil, .nil⟩
  refine plan_eq_ok_iff.mpr ⟨[], hancestors, [], hnames, ?_⟩
  simp [Index.directParents, hparents c hc, ClassUnit.lone]

/-! ## 7. Three classes, rendered -/

/-- `x:Cell` is below `x:Phone`, and `x:Phone` is below `y:Medium`. -/
def media : Store := .ofList [
  Index.declaration "x:Cell", Index.declaration "x:Phone", Index.declaration "y:Medium",
  Index.parentage "x:Cell" "x:Phone", Index.parentage "x:Phone" "y:Medium"]

theorem ofStore_media : Index.ofStore media =
    { classes := [⟨"x:Cell", "Cell", none, "x", ["x:Phone"]⟩,
        ⟨"x:Phone", "Phone", none, "x", ["y:Medium"]⟩, ⟨"y:Medium", "Medium", none, "y", []⟩]
      properties := [] } :=
  (Index.inserted.property _).trans (by decide +kernel)

/-- How the three classes are referred to. -/
def cellRef : ClassRef := ⟨"x:Cell", "Cell", "x", false⟩
@[inherit_doc cellRef] def phoneRef : ClassRef := ⟨"x:Phone", "Phone", "x", false⟩
@[inherit_doc cellRef] def mediumRef : ClassRef := ⟨"y:Medium", "Medium", "y", true⟩

/-- The plans of the three classes. -/
def mediaUnits : List ClassUnit := [
  ⟨cellRef, "Cell", none, [phoneRef], [mediumRef, phoneRef], []⟩,
  ⟨phoneRef, "Phone", none, [mediumRef], [mediumRef], []⟩,
  ⟨mediumRef, "Medium", none, [], [], []⟩]

/-- The three classes are rendered if their files and what goes with them have different paths. -/
theorem renderAll_media {renderer : Renderer}
    (hpaths : ((renderer.outputs mediaUnits).map (·.path)).Nodup) :
    renderAll (Index.ofStore media) renderer = .ok ⟨mediaUnits, renderer.outputs mediaUnits⟩ := by
  refine renderAll_eq_ok_iff.mpr ⟨?_, rfl, sharedPath?_eq_none_iff.mpr ⟨hpaths, by simp⟩⟩
  rw [ofStore_media]
  have hnames : ∀ onClass, disambiguate onClass renderer.methodName [] = .ok [] := fun onClass =>
    disambiguate_eq_ok_iff.mpr ⟨rfl, .nil, .nil⟩
  refine .cons ?_ (.cons ?_ (.cons ?_ .nil))
  · exact plan_eq_ok_iff.mpr ⟨_, by cbv, [], hnames _, rfl⟩
  · exact plan_eq_ok_iff.mpr ⟨_, by cbv, [], hnames _, rfl⟩
  · exact plan_eq_ok_iff.mpr ⟨_, by cbv, [], hnames _, rfl⟩

theorem Rust.exists_rendering_media : ∃ rendering,
    renderAll (Index.ofStore media) (renderer "crate") = .ok rendering ∧
      rendering.units = mediaUnits := by
  refine ⟨_, renderAll_media ?_, rfl⟩
  simp only [Renderer.outputs, renderer, indexes, ascending_eq_foldr]
  decide +kernel

theorem Qt.exists_rendering_media : ∃ rendering,
    renderAll (Index.ofStore media) (renderer "Onto") = .ok rendering ∧
      rendering.units = mediaUnits :=
  ⟨_, renderAll_media (by decide +kernel), rfl⟩

end OntoWrap
