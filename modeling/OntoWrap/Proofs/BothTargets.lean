import OntoWrap.Proofs.Reruns

/-!
# Wrappers for both targets in one folder

Both targets put their files into the folders of the namespaces.  All that keeps these files apart
is how their names end: the outputs of a rendering have the extension of their target
(`Settings.Places.getLast?_segments`), and no name ends in both extensions.  So an output of one
target never goes where an output of the other goes (`FileTree.locationOf_ne`).

What two runs write, one after the other, is therefore what a single run over the outputs of both
would write (`FileTree.Wrote.append`), and the files that writing leaves behind do not depend on the
order of the outputs (`FileTree.Wrote.fileAt?_eq_of_perm`).  Hence the two targets may be generated
in either order (`targets_commute`).
-/
namespace OntoWrap

/-! ## 1. The two extensions -/

section Extensions

variable {settings other : Settings} {path : String}

/-- The extensions of the two targets differ in their last character. -/
theorem Settings.getLast?_extension_ne (h : settings.target ≠ other.target) :
    settings.renderer.extension.toList.getLast? ≠ other.renderer.extension.toList.getLast? := by
  have hends : "rs".toList.getLast? ≠ "h".toList.getLast? := by decide
  cases hself : settings.target <;> cases hother : other.target
  · exact absurd (hself.trans hother.symm) h
  · simp only [Settings.renderer, hself, hother, Rust.renderer_extension, Qt.renderer_extension]
    exact hends
  · simp only [Settings.renderer, hself, hother, Rust.renderer_extension, Qt.renderer_extension]
    exact hends.symm
  · exact absurd (hself.trans hother.symm) h

/-- The name of an output, which is the last one on the way to it, has the extension of its
target. -/
theorem Settings.Places.getLast?_segments (h : settings.Places path) :
    ∃ stem, (Path.segments path).getLast? = some (stem ++ "." ++ settings.renderer.extension) := by
  rcases h with ⟨folder, stem, hplaced⟩ | ⟨htarget, rfl⟩
  · refine ⟨stem, ?_⟩
    rw [hplaced.segments (smallName_extension settings).identifier]
    rfl
  · refine ⟨"mod", ?_⟩
    rw [Settings.renderer, htarget]
    simp only [Rust.renderer_extension]
    decide

/-- **Outputs of different targets have different names**, even in one folder. -/
theorem Settings.Places.segments_ne {path' : String} (h : settings.Places path)
    (h' : other.Places path') (htarget : settings.target ≠ other.target) :
    Path.segments path ≠ Path.segments path' := by
  obtain ⟨stem, hname⟩ := h.getLast?_segments
  obtain ⟨stem', hname'⟩ := h'.getLast?_segments
  intro hsame
  have hnames : stem ++ "." ++ settings.renderer.extension
      = stem' ++ "." ++ other.renderer.extension :=
    Option.some.inj (hname.symm.trans (hsame ▸ hname'))
  -- Neither extension is empty, so the names end as their extensions do.
  have hlast : ∀ (stem : String) (settings : Settings),
      (stem ++ "." ++ settings.renderer.extension).toList.getLast? =
        settings.renderer.extension.toList.getLast? := by
    intro stem settings
    have hextension : settings.renderer.extension.toList ≠ [] := fun hnil =>
      (smallName_extension settings).nonempty (String.toList_injective hnil)
    rw [String.toList_append, List.getLast?_append_of_ne_nil _ hextension]
  refine Settings.getLast?_extension_ne htarget ?_
  rw [← hlast stem settings, hnames, hlast]

end Extensions

namespace FileTree

variable {tree now after after' : FileTree} {outputDir : String}
  {outputs outputs' done todo : List OutputUnit} {out out' : OutputUnit}

/-- **Outputs of different targets go to different locations.** -/
theorem locationOf_ne {settings other : Settings} {rendering rendering' : Rendering}
    (h : rendering.Safe settings) (h' : rendering'.Safe other)
    (htarget : settings.target ≠ other.target) (hout : out ∈ rendering.outputs)
    (hout' : out' ∈ rendering'.outputs) :
    tree.locationOf outputDir out ≠ tree.locationOf outputDir out' := by
  rw [locationOf_eq h hout, locationOf_eq h' hout']
  intro hsame
  exact (h.places out hout).segments_ne (h'.places out' hout') htarget
    (List.append_cancel_left hsame)

/-! ## 2. Writing one after the other -/

/-- **What is written next leaves alone what is there**, if it goes elsewhere. -/
theorem Wrote.append (h : tree.Wrote outputDir done now) (hnext : now.Wrote outputDir todo after)
    (hapart : ∀ earlier ∈ done, ∀ later ∈ todo,
      tree.locationOf outputDir earlier ≠ tree.locationOf outputDir later) :
    tree.Wrote outputDir (done ++ todo) after := by
  constructor
  · refine (h.same.mono fun location => ?_).trans (hnext.same.mono fun location => ?_)
    · rintro ⟨earlier, hearlier, hsame⟩
      exact ⟨earlier, List.mem_append_left _ hearlier, hsame⟩
    · rintro ⟨later, hlater, hsame⟩
      exact ⟨later, List.mem_append_right _ hlater, hsame.trans (h.locationOf later)⟩
  · intro written hwritten
    rcases List.mem_append.mp hwritten with hearlier | hlater
    · refine hnext.same.read ?_ (h.contents written hearlier)
      rintro ⟨later, hlater, hsame⟩
      refine hapart written hearlier later hlater ?_
      rw [← h.locationOf, ← h.locationOf]
      exact hsame
    · exact hnext.contents written hlater

/-- **The order of outputs does not matter** for the files that are there once they are written. -/
theorem Wrote.fileAt?_eq_of_perm (h : tree.Wrote outputDir outputs after)
    (h' : tree.Wrote outputDir outputs' after') (hperm : outputs.Perm outputs')
    (location : Location) : after.fileAt? location = after'.fileAt? location := by
  by_cases hwritten : ∃ out ∈ outputs, location = tree.locationOf outputDir out
  · obtain ⟨out, hout, rfl⟩ := hwritten
    rw [h.fileAt? hout, h'.fileAt? (hperm.mem_iff.mp hout)]
  · have hwritten' : ¬ ∃ out ∈ outputs', location = tree.locationOf outputDir out := by
      rintro ⟨out, hout, hlocation⟩
      exact hwritten ⟨out, hperm.mem_iff.mpr hout, hlocation⟩
    rw [h.same.files location hwritten, h'.same.files location hwritten']

end FileTree

/-! ## 3. Runs that succeed -/

section Runs

variable {store : Store} {settings other : Settings} {tree now after : FileTree}

/-- A run that succeeds and leaves a tree behind, whatever stood in its way. -/
def Generates (store : Store) (settings : Settings) (tree after : FileTree) : Prop :=
  ∃ hindrances counts files,
    generateAmid hindrances tree store settings = (.ok counts, ⟨after, files⟩)

/-- A run that succeeds writes all outputs of a rendering. -/
theorem Generates.exists_wrote (h : Generates store settings tree after) :
    ∃ rendering, renderAll (.ofStore store) settings.renderer = .ok rendering ∧
      tree.Wrote settings.outputDir rendering.outputs after := by
  obtain ⟨hindrances, counts, files, hrun⟩ := h
  cases hrender : renderAll (.ofStore store) settings.renderer with
  | error fault =>
    rw [generateAmid_of_error hrender] at hrun
    cases hrun
  | ok rendering =>
    have hstopped := stopped_of_renderAll hrender hindrances tree
    rw [hrun] at hstopped
    cases hstopped with
    | complete _ _ hwrote _ => exact ⟨rendering, rfl, hwrote⟩

/-- A run for one target and a run for the other, into one folder, write the outputs of both. -/
theorem Generates.exists_wrote_append (h : Generates store settings tree now)
    (hnext : Generates store other now after) (htarget : settings.target ≠ other.target)
    (hdir : other.outputDir = settings.outputDir) :
    ∃ rendering rendering', renderAll (.ofStore store) settings.renderer = .ok rendering ∧
      renderAll (.ofStore store) other.renderer = .ok rendering' ∧
      tree.Wrote settings.outputDir (rendering.outputs ++ rendering'.outputs) after := by
  obtain ⟨rendering, hrender, hwrote⟩ := h.exists_wrote
  obtain ⟨rendering', hrender', hwrote'⟩ := hnext.exists_wrote
  rw [hdir] at hwrote'
  refine ⟨rendering, rendering', hrender, hrender', hwrote.append hwrote' ?_⟩
  intro earlier hearlier later hlater
  exact FileTree.locationOf_ne (safe_of_renderAll hrender) (safe_of_renderAll hrender') htarget
    hearlier hlater

end Runs

/-- **Generating for both targets into one folder commutes.**  If both runs succeed in either order,
then both orders leave the same files with the same bytes, at every location.  Each output of each
target can be read where it goes and has the contents that its own renderer has given it. -/
theorem targets_commute {store : Store} {rust qt : Settings} (hrust : rust.target = .rust)
    (hqt : qt.target = .qt) (hdir : qt.outputDir = rust.outputDir)
    {tree afterRust rustThenQt afterQt qtThenRust : FileTree}
    (hfirstRust : Generates store rust tree afterRust)
    (hthenQt : Generates store qt afterRust rustThenQt)
    (hfirstQt : Generates store qt tree afterQt)
    (hthenRust : Generates store rust afterQt qtThenRust) :
    ∃ rustRendering qtRendering, renderAll (.ofStore store) rust.renderer = .ok rustRendering ∧
      renderAll (.ofStore store) qt.renderer = .ok qtRendering ∧
      (∀ location, rustThenQt.fileAt? location = qtThenRust.fileAt? location) ∧
      (∀ location, (∀ out ∈ rustRendering.outputs ++ qtRendering.outputs,
          location ≠ tree.locationOf rust.outputDir out) →
        rustThenQt.fileAt? location = tree.fileAt? location) ∧
      ∀ out ∈ rustRendering.outputs ++ qtRendering.outputs,
        rustThenQt.read (Path.join rust.outputDir out.path) = .ok out.contents.toUTF8 ∧
        qtThenRust.read (Path.join rust.outputDir out.path) = .ok out.contents.toUTF8 := by
  have hne : rust.target ≠ qt.target := by simp [hrust, hqt]
  obtain ⟨rustRendering, qtRendering, hrender, hrender', hwrote⟩ :=
    hfirstRust.exists_wrote_append hthenQt hne hdir
  obtain ⟨qtRendering', rustRendering', hagain', hagain, hwrote'⟩ :=
    hfirstQt.exists_wrote_append hthenRust hne.symm hdir.symm
  -- Both orders render the same outputs, since nothing is read of the tree before they are written.
  obtain rfl : rustRendering' = rustRendering := Except.ok.inj (hagain.symm.trans hrender)
  obtain rfl : qtRendering' = qtRendering := Except.ok.inj (hagain'.symm.trans hrender')
  rw [hdir] at hwrote'
  have hperm : (rustRendering'.outputs ++ qtRendering'.outputs).Perm
      (qtRendering'.outputs ++ rustRendering'.outputs) := List.perm_append_comm
  refine ⟨rustRendering', qtRendering', hrender, hrender', hwrote.fileAt?_eq_of_perm hwrote' hperm,
    fun location hother => ?_, fun out hout => ?_⟩
  · refine hwrote.same.files location ?_
    rintro ⟨out, hout, hsame⟩
    exact hother out hout hsame
  · exact ⟨hwrote.contents out hout, hwrote'.contents out (hperm.mem_iff.mp hout)⟩

/-- Settings for C++ wrappers, into the folder that Rust wrappers go to by default. -/
def qtSettings : Settings := { target := .qt }

theorem renderAll_media_qt : renderAll (.ofStore media) qtSettings.renderer =
    .ok ⟨mediaUnits, qtSettings.renderer.outputs mediaUnits⟩ :=
  renderAll_media (by decide)

theorem generates_of_ok {store : Store} {settings : Settings} {tree : FileTree} {counts : Counts}
    (h : (generateAmid [] tree store settings).1 = .ok counts) :
    Generates store settings tree (generateAmid [] tree store settings).2.tree :=
  ⟨[], counts, _, Prod.ext h rfl⟩

/-- What the runs for one target after the other leave behind. -/
def mediaRust : FileTree := (generateAmid [] {} media {}).2.tree
@[inherit_doc mediaRust] def mediaQt : FileTree := (generateAmid [] {} media qtSettings).2.tree

/-- The runs for C++ wrappers, before and after those for Rust, succeed. -/
theorem generateAmid_bothTargets : (generateAmid [] {} media qtSettings).1 = .ok ⟨3, 0⟩ ∧
    (generateAmid [] mediaRust media qtSettings).1 = .ok ⟨3, 0⟩ ∧
    (generateAmid [] mediaQt media {}).1 = .ok ⟨3, 0⟩ := by
  refine ⟨?_, ?_, ?_⟩
  · rw [generateAmid, generate, renderAll_media_qt]
    decide +kernel
  · rw [mediaRust, generateAmid, generate, renderAll_media_qt, generateAmid, generate,
      renderAll_media_default]
    simp only [Settings.renderer, Renderer.outputs, Rust.renderer, Rust.indexes, ascending_eq_foldr]
    decide +kernel
  · rw [mediaQt, generateAmid, generate, renderAll_media_default, generateAmid, generate,
      renderAll_media_qt]
    simp only [Settings.renderer, Renderer.outputs, Rust.renderer, Rust.indexes, ascending_eq_foldr]
    decide +kernel

theorem targets_commute_media : ∃ rustThenQt qtThenRust,
    Generates media qtSettings mediaRust rustThenQt ∧ Generates media {} mediaQt qtThenRust ∧
      ∀ location, rustThenQt.fileAt? location = qtThenRust.fileAt? location := by
  have hfirstRust : Generates media {} {} mediaRust := by
    rw [mediaRust]
    exact generates_of_ok generateAmid_media
  obtain ⟨hqt, hrustThenQt, hqtThenRust⟩ := generateAmid_bothTargets
  have hfirstQt : Generates media qtSettings {} mediaQt := by
    rw [mediaQt]
    exact generates_of_ok hqt
  have hthenQt := generates_of_ok hrustThenQt
  have hthenRust := generates_of_ok hqtThenRust
  have hrust : ({} : Settings).target = .rust := rfl
  have hdir : qtSettings.outputDir = ({} : Settings).outputDir := rfl
  obtain ⟨-, -, -, -, hsame, -⟩ :=
    targets_commute hrust rfl hdir hfirstRust hthenQt hfirstQt hthenRust
  exact ⟨_, _, hthenQt, hthenRust, hsame⟩

end OntoWrap
