import OntoWrap.Proofs.AtomicWriting
import OntoWrap.Proofs.SafePaths

/-!
# Outputs are written as a whole or not at all

The outputs of a rendering go to different locations, and none of these has a temporary name
(`FileTree.nodup_locationsOf`, `FileTree.not_isTemporary_locationOf`).  So writing one leaves the
others alone, and a run that cannot write an output leaves those before it complete, and those
behind it as they were (`FileTree.Stopped`).  At every moment of a run the file of an output holds
what it held before the run or all of its new contents (`FileTree.Midway`).  A run that fails while
planning does nothing at all (`generation_atomic`).
-/
namespace OntoWrap

/-! ## 1. Where outputs go -/

namespace Settings.Places

variable {settings : Settings} {path other : String}

theorem eq_intercalate_segments (h : settings.Places path) :
    path = "/".intercalate (Path.segments path) := by
  rcases h with ⟨folder, stem, hplaced⟩ | ⟨-, rfl⟩
  · rw [hplaced.segments (smallName_extension settings).identifier]
    exact hplaced.spelled
  · decide

/-- The last name on the way to an output does not begin with a dot. -/
theorem not_isTemporary (h : settings.Places path) (folder : Location) :
    ¬ IsTemporary (folder ++ Path.segments path) := by
  have hlast : ∃ name, (Path.segments path).getLast? = some name ∧
      name.toList.head? ≠ some '.' := by
    rcases h with ⟨folder, stem, hplaced⟩ | ⟨-, rfl⟩
    · refine ⟨stem ++ "." ++ settings.renderer.extension, ?_, ?_⟩
      · rw [hplaced.segments (smallName_extension settings).identifier]
        rfl
      · rw [String.append_assoc]
        exact hplaced.smallStem.head?_append_ne _
    · exact ⟨"mod.rs", by decide, by decide⟩
  obtain ⟨name, hname, hhead⟩ := hlast
  rintro ⟨other, n, hsame⟩
  have hlast := congrArg List.getLast? hsame
  rw [List.getLast?_append, hname, List.getLast?_concat] at hlast
  obtain rfl : name = FileAction.temporaryName n := Option.some.inj hlast
  exact hhead (by simp [FileAction.temporaryName])

end Settings.Places

namespace FileTree

variable {tree now after moment : FileTree} {outputDir : String}
  {outputs done todo : List OutputUnit} {out : OutputUnit}

/-- The location that an output below a folder goes to. -/
def locationOf (tree : FileTree) (outputDir : String) (out : OutputUnit) : Location :=
  tree.destination (Path.join outputDir out.path)

section Safe

variable {settings : Settings} {rendering : Rendering} (h : rendering.Safe settings)
include h

theorem locationOf_eq (hout : out ∈ rendering.outputs) :
    tree.locationOf outputDir out = tree.destination outputDir ++ Path.segments out.path :=
  destination_join (h.places out hout).isAbsolute (h.places out hout).ne_dots

theorem not_isTemporary_locationOf (hout : out ∈ rendering.outputs) :
    ¬ IsTemporary (tree.locationOf outputDir out) := by
  rw [locationOf_eq h hout]
  exact (h.places out hout).not_isTemporary _

/-- **No two outputs go to one location.** -/
theorem nodup_locationsOf : (rendering.outputs.map (tree.locationOf outputDir)).Nodup := by
  have hpaths : (rendering.outputs.map (·.path)).Nodup := by
    have hlower := h.apart
    rw [List.map_congr_left fun out hout => (h.places out hout).lowerText] at hlower
    exact hlower
  refine List.Nodup.map_on (fun out hout other hother hsame => ?_) (List.Nodup.of_map _ hpaths)
  rw [locationOf_eq h hout, locationOf_eq h hother] at hsame
  refine List.inj_on_of_nodup_map hpaths hout hother ?_
  rw [(h.places out hout).eq_intercalate_segments, List.append_cancel_left hsame,
    ← (h.places other hother).eq_intercalate_segments]

end Safe

/-! ## 2. Writing outputs -/

/-- Some outputs can be read below a folder, and all else is as before but for new folders. -/
structure Wrote (tree : FileTree) (outputDir : String) (outputs : List OutputUnit)
    (after : FileTree) : Prop where
  same : tree.SameBut
    (fun location => ∃ out ∈ outputs, location = tree.locationOf outputDir out) after
  contents : ∀ out ∈ outputs, after.read (Path.join outputDir out.path) = .ok out.contents.toUTF8

/-- A tree met while outputs are written: each file holds what it held, but for the files of
outputs, which may hold all of their new contents, and for a temporary file where none was. -/
def Midway (tree : FileTree) (outputDir : String) (outputs : List OutputUnit) (moment : FileTree) :
    Prop :=
  ∀ location, moment.fileAt? location = tree.fileAt? location ∨
    (∃ out ∈ outputs, location = tree.locationOf outputDir out ∧
      moment.fileAt? location = some out.contents.toUTF8) ∨
    IsTemporary location ∧ tree.fileAt? location = none

/-- What the writing of outputs leaves behind: all of them are written, or those before the first
one that cannot be written. -/
inductive Stopped {α : Type} (tree : FileTree) (outputDir : String) (outputs : List OutputUnit)
    (value : α) : Except GenerationFault α × List WrittenFile → FileTree → Prop
  | complete (files : List WrittenFile) (after : FileTree)
      (wrote : tree.Wrote outputDir outputs after)
      (told : files.map (·.path) = outputs.map (·.path)) :
      Stopped tree outputDir outputs value (.ok value, files) after
  | unwritable (before : List OutputUnit) (out : OutputUnit) (rest : List OutputUnit)
      (cause : IoFault) (files : List WrittenFile) (after : FileTree)
      (split : outputs = before ++ out :: rest)
      (wrote : tree.Wrote outputDir before after)
      (told : files.map (·.path) = before.map (·.path)) :
      Stopped tree outputDir outputs value
        (.error (.unwritable (Path.join outputDir out.path) cause), files) after

theorem Wrote.nil (tree : FileTree) (outputDir : String) : tree.Wrote outputDir [] tree :=
  ⟨.refl tree, fun _ hout => absurd hout List.not_mem_nil⟩

theorem Wrote.within (h : tree.Wrote outputDir done now) (hafter : now.Within after) :
    tree.Wrote outputDir done after :=
  ⟨h.same.trans (hafter.mono fun _ => False.elim),
    fun out hout => hafter.read id (h.contents out hout)⟩

theorem Wrote.locationOf (h : tree.Wrote outputDir done now) (out : OutputUnit) :
    now.locationOf outputDir out = tree.locationOf outputDir out := h.same.destination _

theorem Wrote.fileAt? (h : tree.Wrote outputDir done now) (hout : out ∈ done) :
    now.fileAt? (tree.locationOf outputDir out) = some out.contents.toUTF8 := by
  rw [← h.locationOf]
  exact (read_eq_ok_iff.mp (h.contents out hout)).2.2

/-- **One more output is written**, and the earlier ones stay. -/
theorem Wrote.snoc (h : tree.Wrote outputDir done now)
    (hreplaced : now.Replaced (Path.join outputDir out.path) out.contents.toUTF8 after)
    (hapart : ∀ earlier ∈ done, tree.locationOf outputDir earlier ≠ tree.locationOf outputDir out) :
    tree.Wrote outputDir (done ++ [out]) after := by
  constructor
  · refine (h.same.mono fun location => ?_).trans (hreplaced.same.mono fun location => ?_)
    · rintro ⟨earlier, hearlier, hsame⟩
      exact ⟨earlier, List.mem_append_left _ hearlier, hsame⟩
    · rintro rfl
      exact ⟨out, by simp, h.locationOf out⟩
  · intro written hwritten
    rcases List.mem_append.mp hwritten with hearlier | hlast
    · refine hreplaced.same.read (fun hsame => hapart written hearlier ?_)
        (h.contents written hearlier)
      rw [← h.locationOf, ← h.locationOf]
      exact hsame
    · rw [List.mem_singleton.mp hlast]
      exact hreplaced.read

theorem Wrote.midway (h : tree.Wrote outputDir done now) (hdone : done ⊆ outputs) :
    tree.Midway outputDir outputs now := by
  intro location
  by_cases hwritten : ∃ out ∈ done, location = tree.locationOf outputDir out
  · obtain ⟨out, hout, rfl⟩ := hwritten
    exact .inr (.inl ⟨out, hdone hout, rfl, h.fileAt? hout⟩)
  · exact .inl (h.same.files location hwritten)

/-- While the next output is written, the earlier ones stay. -/
theorem Wrote.midway_of_replacing (h : tree.Wrote outputDir done now) (hdone : done ⊆ outputs)
    (hout : out ∈ outputs)
    (hreplacing : now.Replacing (Path.join outputDir out.path) out.contents.toUTF8 moment) :
    tree.Midway outputDir outputs moment := by
  intro location
  rcases hreplacing location with hsame | ⟨hlocation, hfile⟩ | ⟨hnamed, hfree⟩
  · rw [hsame]
    exact h.midway hdone location
  · exact .inr (.inl ⟨out, hout, hlocation.trans (h.locationOf out), hfile⟩)
  · rcases h.midway hdone location with hsame | ⟨written, -, -, hfile⟩ | htemporary
    · exact .inr (.inr ⟨hnamed, hsame ▸ hfree⟩)
    · rw [hfree] at hfile
      cases hfile
    · exact .inr (.inr htemporary)

section Safe

variable {settings : Settings} {rendering : Rendering} (h : rendering.Safe settings)
include h

/-- The outputs that are still to come are as they were. -/
theorem Wrote.fileAt?_later (hwrote : tree.Wrote outputDir done after)
    (hsplit : rendering.outputs = done ++ todo) (hout : out ∈ todo) :
    after.fileAt? (tree.locationOf outputDir out)
      = tree.fileAt? (tree.locationOf outputDir out) := by
  refine hwrote.same.files _ ?_
  rintro ⟨earlier, hearlier, hsame⟩
  have hapart : (rendering.outputs.map (tree.locationOf outputDir)).Nodup := nodup_locationsOf h
  rw [hsplit, List.map_append] at hapart
  exact (List.nodup_append.mp hapart).2.2 _ (List.mem_map_of_mem hearlier) _
    (List.mem_map_of_mem hout) hsame.symm

/-- No temporary file is left, and none is lost that was there before. -/
theorem Wrote.fileAt?_temporary {location : Location} (hwrote : tree.Wrote outputDir done after)
    (hdone : done ⊆ rendering.outputs) (hnamed : IsTemporary location) :
    after.fileAt? location = tree.fileAt? location := by
  refine hwrote.same.files location ?_
  rintro ⟨out, hout, rfl⟩
  exact not_isTemporary_locationOf h (hdone hout) hnamed

/-- At every moment the file of an output holds what it held or all of its new contents. -/
theorem Midway.fileAt?_output (hmidway : tree.Midway outputDir rendering.outputs moment)
    (hout : out ∈ rendering.outputs) :
    moment.fileAt? (tree.locationOf outputDir out) = tree.fileAt? (tree.locationOf outputDir out) ∨
      moment.fileAt? (tree.locationOf outputDir out) = some out.contents.toUTF8 := by
  rcases hmidway (tree.locationOf outputDir out) with hsame | ⟨other, hother, hlocation, hfile⟩ |
    ⟨hnamed, -⟩
  · exact .inl hsame
  · obtain rfl : out = other :=
      List.inj_on_of_nodup_map (nodup_locationsOf h) hout hother hlocation
    exact .inr hfile
  · exact absurd hnamed (not_isTemporary_locationOf h hout)

end Safe

/-- Where no output goes, only temporary files come and go. -/
theorem Midway.fileAt?_elsewhere {location : Location}
    (hmidway : tree.Midway outputDir outputs moment)
    (hother : ∀ out ∈ outputs, location ≠ tree.locationOf outputDir out) :
    moment.fileAt? location = tree.fileAt? location ∨
      IsTemporary location ∧ tree.fileAt? location = none := by
  rcases hmidway location with hsame | ⟨out, hout, hlocation, -⟩ | htemporary
  · exact .inl hsame
  · exact absurd hlocation (hother out hout)
  · exact .inr htemporary

end FileTree

/-! ## 3. The work of a run -/

namespace GenerationAction

variable {α β : Type}

/-- Work on files comes first in the work of an action. -/
theorem run_lift_bind (work : FileWork α) (f : α → GenerationAction β) (files : List WrittenFile) :
    (ExceptT.run (do f (← work) : GenerationAction β)).run files =
      work >>= fun result => (ExceptT.run (f result)).run files := by
  have hlift : (ExceptT.run (liftM work : GenerationAction α)).run files =
      work >>= fun result => pure (.ok result, files) :=
    FileWork.andThen_assoc work (fun result => .done (result, files)) fun result =>
      .done ((Except.ok result.1 : Except GenerationFault α), result.2)
  rw [ExceptT.run_bind, StateT.run_bind, hlift, bind_assoc]
  exact bind_congr fun result => by rw [pure_bind]

/-- An action that has failed is not gone on with. -/
theorem run_bind (action : GenerationAction α) (f : α → GenerationAction β)
    (files : List WrittenFile) :
    (ExceptT.run (action >>= f)).run files = (ExceptT.run action).run files >>= fun
      | (.ok value, files) => (ExceptT.run (f value)).run files
      | (.error fault, files) => pure (.error fault, files) := by
  rw [ExceptT.run_bind, StateT.run_bind]
  refine bind_congr fun result => ?_
  obtain ⟨_ | _, files⟩ := result
  · rfl
  · rfl

end GenerationAction

/-- Writing an output tells what has become of it, or why it cannot be written. -/
theorem run_writeOutput (outputDir : String) (out : OutputUnit) (files : List WrittenFile) :
    (ExceptT.run (writeOutput outputDir out)).run files =
      (FileAction.write (Path.join outputDir out.path) out.contents).work >>= fun
        | .ok outcome => pure (.ok (), files ++ [⟨out.path, outcome⟩])
        | .error cause =>
          pure (.error (.unwritable (Path.join outputDir out.path) cause), files) := by
  rw [writeOutput, GenerationAction.run_lift_bind]
  refine bind_congr fun result => ?_
  cases result with
  | ok outcome => rfl
  | error cause => rfl

/-- **Outputs are written one after the other**, up to the first one that cannot be written. -/
theorem run_writeOutputs_cons (outputDir : String) (out : OutputUnit) (rest : List OutputUnit)
    (files : List WrittenFile) :
    (ExceptT.run ((out :: rest).forM (writeOutput outputDir))).run files =
      (FileAction.write (Path.join outputDir out.path) out.contents).work >>= fun
        | .ok outcome =>
          (ExceptT.run (rest.forM (writeOutput outputDir))).run (files ++ [⟨out.path, outcome⟩])
        | .error cause =>
          pure (.error (.unwritable (Path.join outputDir out.path) cause), files) := by
  have hsteps : (out :: rest).forM (writeOutput outputDir) =
      writeOutput outputDir out >>= fun _ => rest.forM (writeOutput outputDir) := List.forM_cons
  rw [hsteps, GenerationAction.run_bind, run_writeOutput, bind_assoc]
  refine bind_congr fun result => ?_
  cases result with
  | ok outcome => rfl
  | error cause => rfl

section Writing

variable {tree now : FileTree} {outputDir : String} {outputs done todo : List OutputUnit}
  {files : List WrittenFile}

/-- **Each output is written as a whole or not at all**, up to the first one that cannot be written.
The induction is on the outputs that are still to come. -/
theorem keeps_writeOutputs (hapart : (outputs.map (tree.locationOf outputDir)).Nodup)
    (houtputs : outputs = done ++ todo) (hwrote : tree.Wrote outputDir done now)
    (htold : files.map (·.path) = done.map (·.path)) :
    ((ExceptT.run (todo.forM (writeOutput outputDir))).run files).Keeps
      (tree.Midway outputDir outputs) (tree.Stopped outputDir outputs ()) now := by
  induction todo generalizing done now files with
  | nil =>
    rw [List.append_nil] at houtputs
    subst houtputs
    exact FileWork.keeps_pure (hwrote.midway (List.Subset.refl _))
      (.complete files now hwrote htold)
  | cons out rest ih =>
    have hdone : done ⊆ outputs := houtputs ▸ List.subset_append_left _ _
    have hout : out ∈ outputs := by simp [houtputs]
    have hnext : outputs = (done ++ [out]) ++ rest := by simp [houtputs]
    have hearlier : ∀ earlier ∈ done,
        tree.locationOf outputDir earlier ≠ tree.locationOf outputDir out := by
      intro earlier hmem
      rw [houtputs, List.map_append] at hapart
      exact (List.nodup_append.mp hapart).2.2 _ (List.mem_map_of_mem hmem) _ (by simp)
    rw [run_writeOutputs_cons]
    refine FileWork.Keeps.bind ((FileAction.keeps_write now _ _).work.mono
      (fun _ => hwrote.midway_of_replacing hdone hout) fun result after hend => ?_)
    cases result with
    | ok outcome =>
      refine ih hnext (hwrote.snoc hend hearlier) ?_
      rw [List.map_append, List.map_append, htold]
      rfl
    | error cause =>
      have hkept := hwrote.within hend
      exact FileWork.keeps_pure (hkept.midway hdone)
        (.unwritable done out rest cause files after houtputs hkept htold)

end Writing

/-! ## 4. Runs -/

section Runs

variable {store : Store} {settings : Settings} {rendering : Rendering} {tree : FileTree}

/-- A run that fails while planning does nothing. -/
theorem work_generate_of_error {fault : PlanFault}
    (h : renderAll (.ofStore store) settings.renderer = .error fault) :
    (generate store settings).work = pure (.error (.plan fault), []) := by
  rw [generate, h]
  rfl

/-- **A run writes all outputs of a rendering, or those before the first that cannot be
written.** -/
theorem keeps_generate (h : renderAll (.ofStore store) settings.renderer = .ok rendering)
    (tree : FileTree) :
    (generate store settings).work.Keeps (tree.Midway settings.outputDir rendering.outputs)
      (tree.Stopped settings.outputDir rendering.outputs
        (⟨rendering.units.length, rendering.accessorCount⟩ : Counts)) tree := by
  have hsafe := safe_of_renderAll h
  rw [generate, h]
  dsimp only
  rw [GenerationAction.work, GenerationAction.run_bind]
  refine FileWork.Keeps.bind ((keeps_writeOutputs (FileTree.nodup_locationsOf hsafe) rfl
    (.nil tree settings.outputDir) rfl).mono (fun _ => id) ?_)
  intro result after hstopped
  cases hstopped with
  | complete files _ hwrote htold =>
    exact FileWork.keeps_pure (hwrote.midway (List.Subset.refl _))
      (.complete files after hwrote htold)
  | unwritable before out rest cause files _ hsplit hwrote htold =>
    refine FileWork.keeps_pure (hwrote.midway ?_)
      (.unwritable before out rest cause files after hsplit hwrote htold)
    exact hsplit ▸ List.subset_append_left _ _

/-- **What a run leaves behind** once the rendering has succeeded. -/
theorem stopped_of_renderAll (h : renderAll (.ofStore store) settings.renderer = .ok rendering)
    (hindrances : Hindrances) (tree : FileTree) :
    tree.Stopped settings.outputDir rendering.outputs
      (⟨rendering.units.length, rendering.accessorCount⟩ : Counts)
      ((generateAmid hindrances tree store settings).1,
        (generateAmid hindrances tree store settings).2.files)
      (generateAmid hindrances tree store settings).2.tree :=
  (keeps_generate h tree).runAmid hindrances

theorem generateAmid_of_error {fault : PlanFault}
    (h : renderAll (.ofStore store) settings.renderer = .error fault) (hindrances : Hindrances)
    (tree : FileTree) :
    generateAmid hindrances tree store settings = (.error (.plan fault), ⟨tree, []⟩) := by
  rw [generateAmid, work_generate_of_error h]
  rfl

end Runs

/-- **A run leaves every file as it was or writes it as a whole**, whatever hinders it.

- A run that fails while planning changes nothing at any moment.
- A run that cannot write an output has written those before it.  Its own file and those of the
  outputs behind it are as they were, and so is every other file; no temporary file is left.
- At every moment the file of an output holds what it held before the run or all of its new
  contents, and no other file changes but for a temporary one. -/
theorem generation_atomic (store : Store) (settings : Settings) (hindrances : Hindrances)
    (tree : FileTree) :
    (∀ fault progress,
      generateAmid hindrances tree store settings = (.error (.plan fault), progress) →
        progress = ⟨tree, []⟩ ∧
          ∀ moment, (generate store settings).work.Meets moment hindrances tree → moment = tree) ∧
    (∀ path cause progress,
      generateAmid hindrances tree store settings = (.error (.unwritable path cause), progress) →
        ∃ rendering before out rest,
          renderAll (.ofStore store) settings.renderer = .ok rendering ∧
          rendering.outputs = before ++ out :: rest ∧ path = Path.join settings.outputDir out.path ∧
          progress.files.map (·.path) = before.map (·.path) ∧
          tree.Wrote settings.outputDir before progress.tree ∧
          (∀ later ∈ out :: rest,
            progress.tree.fileAt? (tree.locationOf settings.outputDir later) =
              tree.fileAt? (tree.locationOf settings.outputDir later)) ∧
          ∀ location, IsTemporary location →
            progress.tree.fileAt? location = tree.fileAt? location) ∧
    ∀ rendering moment, renderAll (.ofStore store) settings.renderer = .ok rendering →
      (generate store settings).work.Meets moment hindrances tree →
        (∀ out ∈ rendering.outputs,
          moment.fileAt? (tree.locationOf settings.outputDir out) =
              tree.fileAt? (tree.locationOf settings.outputDir out) ∨
            moment.fileAt? (tree.locationOf settings.outputDir out) = some out.contents.toUTF8) ∧
        ∀ location, (∀ out ∈ rendering.outputs, location ≠ tree.locationOf settings.outputDir out) →
          moment.fileAt? location = tree.fileAt? location ∨
            IsTemporary location ∧ tree.fileAt? location = none := by
  refine ⟨fun fault progress hrun => ?_, fun path cause progress hrun => ?_,
    fun rendering moment h hmeets => ?_⟩
  · cases h : renderAll (.ofStore store) settings.renderer with
    | error planFault =>
      rw [generateAmid_of_error h] at hrun
      rw [work_generate_of_error h]
      exact ⟨(Prod.mk.inj hrun).2.symm, fun moment hmeets => hmeets⟩
    | ok rendering =>
      have hstopped := stopped_of_renderAll h hindrances tree
      rw [hrun] at hstopped
      cases hstopped
  · cases h : renderAll (.ofStore store) settings.renderer with
    | error planFault =>
      rw [generateAmid_of_error h] at hrun
      cases hrun
    | ok rendering =>
      have hstopped := stopped_of_renderAll h hindrances tree
      rw [hrun] at hstopped
      cases hstopped with
      | unwritable before out rest cause files after hsplit hwrote htold =>
        have hsafe := safe_of_renderAll h
        have hbefore : before ⊆ rendering.outputs := hsplit ▸ List.subset_append_left _ _
        exact ⟨rendering, before, out, rest, rfl, hsplit, rfl, htold, hwrote,
          fun later hlater => hwrote.fileAt?_later hsafe hsplit hlater,
          fun location hnamed => hwrote.fileAt?_temporary hsafe hbefore hnamed⟩
  · have hmidway := (keeps_generate h tree).meets hmeets
    exact ⟨fun out hout => hmidway.fileAt?_output (safe_of_renderAll h) hout,
      fun location hother => hmidway.fileAt?_elsewhere hother⟩

theorem renderAll_media_default : renderAll (.ofStore media) (Settings.renderer {}) =
    .ok ⟨mediaUnits, (Settings.renderer {}).outputs mediaUnits⟩ := by
  refine renderAll_media ?_
  simp only [Settings.renderer, Renderer.outputs, Rust.renderer, Rust.indexes, ascending_eq_foldr]
  decide +kernel

/-- The second output cannot be filled. -/
def secondHindered : Hindrances := List.replicate 6 none ++ [some ⟨.notFound, 3⟩]

theorem generateAmid_secondHindered : (generateAmid secondHindered {} media {}).1 =
    .error (.unwritable "./x/phone.rs" .notFound) := by
  rw [generateAmid, generate, renderAll_media_default]
  simp only [Settings.renderer, Renderer.outputs, Rust.renderer, Rust.indexes, ascending_eq_foldr]
  decide +kernel

/-- What this run leaves behind. -/
def halted : FileTree := (generateAmid secondHindered {} media {}).2.tree

theorem generation_atomic_secondHindered :
    (∀ moment, (generate twins {}).work.Meets moment [] {} → moment = {}) ∧
    (∃ before out rest, (Settings.renderer {}).outputs mediaUnits = before ++ out :: rest ∧
      "./x/phone.rs" = Path.join "." out.path ∧ FileTree.Wrote {} "." before halted) ∧
    ∀ out ∈ (Settings.renderer {}).outputs mediaUnits,
      halted.fileAt? (FileTree.locationOf {} "." out) =
          FileTree.fileAt? {} (FileTree.locationOf {} "." out) ∨
        halted.fileAt? (FileTree.locationOf {} "." out) = some out.contents.toUTF8 := by
  refine ⟨?_, ?_, ?_⟩
  · exact ((generation_atomic twins {} [] {}).1 _ _ (generateAmid_of_error renderAll_twins [] {})).2
  · obtain ⟨rendering, before, out, rest, h, hsplit, hpath, -, hwrote, -⟩ :=
      (generation_atomic media {} secondHindered {}).2.1 _ _ _
        (Prod.ext generateAmid_secondHindered rfl)
    obtain rfl := Except.ok.inj (renderAll_media_default.symm.trans h)
    exact ⟨before, out, rest, hsplit, hpath, hwrote⟩
  · exact ((generation_atomic media {} secondHindered {}).2.2 _ _ renderAll_media_default
      (FileWork.meets_runAmid _ secondHindered {})).1

end OntoWrap
