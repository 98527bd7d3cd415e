import OntoWrap.Proofs.AtomicGeneration

/-!
# A second run changes nothing

After a run that succeeds, every output can be read where it goes (`FileTree.Wrote`).  The next run
finds it there with the bytes that it would write, leaves it alone and goes on to the next one.  So
it takes no step at all: it succeeds whatever would hinder it, and the tree is the same at each of
its moments (`rerun_unchanged`).
-/
namespace OntoWrap

variable {store : Store} {settings : Settings} {rendering : Rendering} {tree : FileTree}
  {outputDir : String} {outputs : List OutputUnit} {files : List WrittenFile}

/-! ## 1. Runs that find all outputs -/

/-- What is told of outputs that were found as they should be. -/
def upToDate (outputs : List OutputUnit) : List WrittenFile :=
  outputs.map fun out => ⟨out.path, .unchanged⟩

theorem path_upToDate (outputs : List OutputUnit) :
    (upToDate outputs).map (·.path) = outputs.map (·.path) := by
  simp [upToDate]

/-- Every output that was found counts as one that has not changed. -/
theorem unchanged_upToDate (tree : FileTree) (outputs : List OutputUnit) :
    Progress.unchanged ⟨tree, upToDate outputs⟩ = (upToDate outputs).length := by
  refine List.countP_eq_length.mpr fun file hfile => ?_
  obtain ⟨out, -, rfl⟩ := List.mem_map.mp hfile
  rfl

/-- **Outputs that are there are not touched.**  The induction is on the outputs that are still to
come; the tree stays the same. -/
theorem keeps_writeOutputs_of_read
    (h : ∀ out ∈ outputs, tree.read (Path.join outputDir out.path) = .ok out.contents.toUTF8) :
    ((ExceptT.run (outputs.forM (writeOutput outputDir))).run files).Keeps (· = tree)
      (fun result after => result = (.ok (), files ++ upToDate outputs) ∧ after = tree) tree := by
  induction outputs generalizing files with
  | nil => exact FileWork.keeps_pure rfl ⟨by rw [upToDate, List.map_nil, List.append_nil], rfl⟩
  | cons out rest ih =>
    have htold : files ++ upToDate (out :: rest) =
        (files ++ [⟨out.path, .unchanged⟩]) ++ upToDate rest := by
      rw [List.append_assoc]
      rfl
    rw [htold, run_writeOutputs_cons]
    have hfound := FileAction.keeps_write_of_read (h out List.mem_cons_self)
    refine FileWork.Keeps.bind (hfound.work.mono (fun _ => id) fun result after hend => ?_)
    cases result with
    | ok outcome =>
      obtain ⟨rfl, rfl⟩ := hend
      exact ih fun later hlater => h later (List.mem_cons_of_mem out hlater)
    | error cause => exact hend.elim

/-- A run that finds all outputs does nothing. -/
theorem keeps_generate_of_read (h : renderAll (.ofStore store) settings.renderer = .ok rendering)
    (hread : ∀ out ∈ rendering.outputs,
      tree.read (Path.join settings.outputDir out.path) = .ok out.contents.toUTF8) :
    (generate store settings).work.Keeps (· = tree)
      (fun result after => result = (.ok ⟨rendering.units.length, rendering.accessorCount⟩,
        upToDate rendering.outputs) ∧ after = tree) tree := by
  rw [generate, h]
  dsimp only
  rw [GenerationAction.work, GenerationAction.run_bind]
  refine FileWork.Keeps.bind ((keeps_writeOutputs_of_read hread).mono (fun _ => id) ?_)
  rintro _ after ⟨rfl, rfl⟩
  exact FileWork.keeps_pure rfl ⟨rfl, rfl⟩

theorem generateAmid_of_read (h : renderAll (.ofStore store) settings.renderer = .ok rendering)
    (hread : ∀ out ∈ rendering.outputs,
      tree.read (Path.join settings.outputDir out.path) = .ok out.contents.toUTF8)
    (hindrances : Hindrances) :
    generateAmid hindrances tree store settings =
      (.ok ⟨rendering.units.length, rendering.accessorCount⟩,
        ⟨tree, upToDate rendering.outputs⟩) := by
  obtain ⟨hresult, hafter⟩ := (keeps_generate_of_read h hread).runAmid hindrances
  have hrun : (generate store settings).work.runAmid hindrances tree = (_, tree) :=
    Prod.ext hresult hafter
  rw [generateAmid, hrun]

/-! ## 2. Runs that succeed -/

/-- **A run that succeeds has written all outputs and nothing else, and the next run changes
nothing.**

- All outputs can be read where they go, all are told of in their order, and every other file is as
  it was.
- The next run, whatever hinders it, succeeds with the same counts and tells of the same outputs,
  all of them unchanged.  At each of its moments the tree is the one that the first run has left. -/
theorem rerun_unchanged {store : Store} {settings : Settings} {hindrances : Hindrances}
    {tree : FileTree} {counts : Counts} {progress : Progress}
    (h : generateAmid hindrances tree store settings = (.ok counts, progress)) :
    ∃ rendering, renderAll (.ofStore store) settings.renderer = .ok rendering ∧
      counts = ⟨rendering.units.length, rendering.accessorCount⟩ ∧
      progress.files.map (·.path) = rendering.outputs.map (·.path) ∧
      (∀ out ∈ rendering.outputs,
        progress.tree.read (Path.join settings.outputDir out.path) = .ok out.contents.toUTF8) ∧
      (∀ location, (∀ out ∈ rendering.outputs, location ≠ tree.locationOf settings.outputDir out) →
        progress.tree.fileAt? location = tree.fileAt? location) ∧
      ∀ later, ∃ again,
        generateAmid later progress.tree store settings = (.ok counts, again) ∧
        again.tree = progress.tree ∧ again.files.map (·.path) = progress.files.map (·.path) ∧
        again.unchanged = again.files.length ∧
        ∀ moment, (generate store settings).work.Meets moment later progress.tree →
          moment = progress.tree := by
  cases hrender : renderAll (.ofStore store) settings.renderer with
  | error fault =>
    rw [generateAmid_of_error hrender] at h
    cases h
  | ok rendering =>
    have hstopped := stopped_of_renderAll hrender hindrances tree
    rw [h] at hstopped
    cases hstopped with
    | complete _ _ hwrote htold =>
      refine ⟨rendering, rfl, rfl, htold, hwrote.contents, fun location hother => ?_, fun later =>
        ⟨_, generateAmid_of_read hrender hwrote.contents later, rfl, ?_,
          unchanged_upToDate _ _, ?_⟩⟩
      · refine hwrote.same.files location ?_
        rintro ⟨out, hout, hsame⟩
        exact hother out hout hsame
      · exact (path_upToDate rendering.outputs).trans htold.symm
      · exact fun moment hmeets => (keeps_generate_of_read hrender hwrote.contents).meets hmeets

theorem generateAmid_media : (generateAmid [] {} media {}).1 = .ok ⟨3, 0⟩ := by
  rw [generateAmid, generate, renderAll_media_default]
  simp only [Settings.renderer, Renderer.outputs, Rust.renderer, Rust.indexes, ascending_eq_foldr]
  decide +kernel

/-- What a run into an empty tree leaves behind. -/
def firstRun : Progress := (generateAmid [] {} media {}).2

theorem rerun_unchanged_media : ∃ again,
    generateAmid [] firstRun.tree media {} = (.ok ⟨3, 0⟩, again) ∧
      again.tree = firstRun.tree ∧ again.unchanged = again.files.length := by
  have hfirst : generateAmid [] {} media {} = (.ok ⟨3, 0⟩, firstRun) :=
    Prod.ext generateAmid_media rfl
  obtain ⟨-, -, -, -, -, -, hlater⟩ := rerun_unchanged hfirst
  obtain ⟨again, hagain, htree, -, hunchanged, -⟩ := hlater []
  exact ⟨again, hagain, htree, hunchanged⟩

end OntoWrap
