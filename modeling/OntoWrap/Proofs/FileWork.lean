import OntoWrap.Files.Writing

/-!
# What work on files keeps

`FileWork.Keeps` says of some work that one property holds of every tree that there is while the
work is done, and another one of its result and the last tree, *whatever hinders the work*.  It
follows the steps of the work, so it is shown for a piece of work from its parts:
`FileAction.Keeps.bind`, `FileAction.Keeps.tryCatch` and one rule for each kind of step.  A run amid
any hindrances then has both properties (`FileWork.Keeps.runAmid`, `FileWork.Keeps.meets`), and the
trees that it meets end with its last one (`FileWork.meets_runAmid`).
-/
namespace OntoWrap

/-! ## 1. Moments -/

/-- The trees that there may be while a step is under way: the one before it, the one after it, and
those with a part of a file that is being filled. -/
inductive FileStep.During (tree : FileTree) : FileStep → FileTree → Prop
  | before (step : FileStep) : During tree step tree
  | after (step : FileStep) : During tree step (step.apply tree)
  | filling (location : Location) (bytes : ByteArray) (filled : Nat) :
      During tree (.fill location bytes) (tree.put location (.file (bytes.extract 0 filled)))

namespace FileStep

variable {tree : FileTree} {step : FileStep}

theorem during_breakOff (filled : Nat) : step.During tree (step.breakOff tree filled) := by
  cases step with
  | fill location bytes => exact .filling location bytes filled
  | makeFolder => exact .before _
  | makeFile => exact .before _
  | permit => exact .before _
  | move => exact .before _
  | discard => exact .before _

/-- A step is done, or it breaks off with a fault. -/
theorem attempt_eq_or (hindrance : Option Hindrance) :
    step.attempt tree hindrance = (.ok (), step.apply tree) ∨
      ∃ fault filled, step.attempt tree hindrance = (.error fault, step.breakOff tree filled) := by
  cases hindrance with
  | none => cases step <;> exact .inl rfl
  | some h =>
    cases step with
    | discard => exact .inl rfl
    | makeFolder => exact .inr ⟨h.fault, h.filled, rfl⟩
    | makeFile => exact .inr ⟨h.fault, h.filled, rfl⟩
    | fill => exact .inr ⟨h.fault, h.filled, rfl⟩
    | permit => exact .inr ⟨h.fault, h.filled, rfl⟩
    | move => exact .inr ⟨h.fault, h.filled, rfl⟩

/-- Nothing hinders a file from being taken away. -/
theorem attempt_discard (location : Location) (hindrance : Option Hindrance) :
    (discard location).attempt tree hindrance = (.ok (), tree.remove location) := by
  cases hindrance <;> rfl

end FileStep

namespace FileWork

variable {α β : Type}

/-- There is this tree at some moment while some work is done amid hindrances. -/
def Meets (moment : FileTree) : FileWork α → Hindrances → FileTree → Prop
  | done _, _, tree => moment = tree
  | look next, hindrances, tree => (next tree).Meets moment hindrances tree
  | change step next, hindrances, tree =>
    step.During tree moment ∨
      let (outcome, after) := step.attempt tree (hindrances.headD none)
      (next outcome).Meets moment hindrances.tail after

/-- There is the last tree of a run. -/
theorem meets_runAmid (work : FileWork α) (hindrances : Hindrances) (tree : FileTree) :
    work.Meets (work.runAmid hindrances tree).2 hindrances tree := by
  induction work generalizing hindrances tree with
  | done result => rfl
  | look next ih => exact ih tree hindrances tree
  | change step next ih => exact .inr (ih _ hindrances.tail _)

/-! ## 2. The rule of work -/

/-- Whatever hinders some work on a tree, `always` holds of every tree that it meets, and `ends` of
its result and the last tree. -/
def Keeps (always : FileTree → Prop) (ends : α → FileTree → Prop) : FileWork α → FileTree → Prop
  | done result, tree => always tree ∧ ends result tree
  | look next, tree => (next tree).Keeps always ends tree
  | change step next, tree =>
    (∀ moment, step.During tree moment → always moment) ∧
      ∀ hindrance, (next (step.attempt tree hindrance).1).Keeps always ends
        (step.attempt tree hindrance).2

variable {always always' : FileTree → Prop} {ends ends' : α → FileTree → Prop} {tree : FileTree}
  {work : FileWork α}

/-- **What work keeps holds at the end of every run.** -/
theorem Keeps.runAmid (h : work.Keeps always ends tree) (hindrances : Hindrances) :
    ends (work.runAmid hindrances tree).1 (work.runAmid hindrances tree).2 := by
  induction work generalizing hindrances tree with
  | done result => exact h.2
  | look next ih => exact ih tree h hindrances
  | change step next ih => exact ih _ (h.2 _) hindrances.tail

/-- **...and at every moment of it.** -/
theorem Keeps.meets (h : work.Keeps always ends tree) {hindrances : Hindrances} {moment : FileTree}
    (hmeets : work.Meets moment hindrances tree) : always moment := by
  induction work generalizing hindrances tree with
  | done result =>
    obtain rfl : moment = tree := hmeets
    exact h.1
  | look next ih => exact ih tree h hmeets
  | change step next ih =>
    rcases hmeets with hduring | hlater
    · exact h.1 moment hduring
    · exact ih _ (h.2 _) hlater

theorem Keeps.mono (h : work.Keeps always ends tree) (halways : ∀ tree, always tree → always' tree)
    (hends : ∀ result tree, ends result tree → ends' result tree) :
    work.Keeps always' ends' tree := by
  induction work generalizing tree with
  | done result => exact ⟨halways tree h.1, hends result tree h.2⟩
  | look next ih => exact ih tree h
  | change step next ih =>
    exact ⟨fun moment hduring => halways moment (h.1 moment hduring),
      fun hindrance => ih _ (h.2 hindrance)⟩

theorem Keeps.bind {f : α → FileWork β} {ends : β → FileTree → Prop}
    (h : work.Keeps always (fun result tree => (f result).Keeps always ends tree) tree) :
    (work >>= f).Keeps always ends tree := by
  induction work generalizing tree with
  | done result => exact h.2
  | look next ih => exact ih tree h
  | change step next ih => exact ⟨h.1, fun hindrance => ih _ (h.2 hindrance)⟩

theorem keeps_pure {result : α} (halways : always tree) (hends : ends result tree) :
    (pure result : FileWork α).Keeps always ends tree := ⟨halways, hends⟩

theorem andThen_done (work : FileWork α) : work.andThen .done = work := by
  induction work with
  | done result => rfl
  | look next ih => exact congrArg look (funext ih)
  | change step next ih => exact congrArg (change step) (funext ih)

theorem andThen_assoc {γ : Type} (work : FileWork α) (f : α → FileWork β) (g : β → FileWork γ) :
    (work.andThen f).andThen g = work.andThen fun result => (f result).andThen g := by
  induction work with
  | done result => rfl
  | look next ih => exact congrArg look (funext ih)
  | change step next ih => exact congrArg (change step) (funext ih)

instance : LawfulMonad FileWork :=
  .mk' FileWork andThen_done (fun _ _ => rfl) andThen_assoc

end FileWork

/-! ## 3. The rules of actions -/

namespace FileAction

variable {α β : Type}

/-- Whatever hinders an action on a tree, `always` holds of every tree that it meets, `returns` of
its value and the last tree, and `fails` of the last tree if it gives no value. -/
def Keeps (always : FileTree → Prop) (returns : α → FileTree → Prop) (fails : FileTree → Prop)
    (action : FileAction α) (tree : FileTree) : Prop :=
  action.work.Keeps always (fun
    | .ok value, tree => returns value tree
    | .error _, tree => fails tree) tree

variable {always always' fails fails' : FileTree → Prop} {returns returns' : α → FileTree → Prop}
  {tree : FileTree} {action : FileAction α} {step : FileStep}

theorem Keeps.mono (h : action.Keeps always returns fails tree)
    (halways : ∀ tree, always tree → always' tree)
    (hreturns : ∀ value tree, returns value tree → returns' value tree)
    (hfails : ∀ tree, fails tree → fails' tree) : action.Keeps always' returns' fails' tree := by
  refine FileWork.Keeps.mono h halways fun result tree hend => ?_
  cases result with
  | ok value => exact hreturns value tree hend
  | error fault => exact hfails tree hend

theorem keeps_pure {value : α} (halways : always tree) (hreturns : returns value tree) :
    (pure value : FileAction α).Keeps always returns fails tree := ⟨halways, hreturns⟩

theorem keeps_throw {fault : IoFault} (halways : always tree) (hfails : fails tree) :
    (throw fault : FileAction α).Keeps always returns fails tree := ⟨halways, hfails⟩

theorem Keeps.bind {f : α → FileAction β} {returns : β → FileTree → Prop}
    (h : action.Keeps always (fun value tree => (f value).Keeps always returns fails tree)
      (fun tree => always tree ∧ fails tree) tree) :
    (action >>= f).Keeps always returns fails tree := by
  refine FileWork.Keeps.bind (FileWork.Keeps.mono h (fun _ => id) fun result tree hend => ?_)
  cases result with
  | ok value => exact hend
  | error fault => exact hend

theorem Keeps.tryCatch {handler : IoFault → FileAction α}
    (h : action.Keeps always (fun value tree => always tree ∧ returns value tree)
      (fun tree => ∀ fault, (handler fault).Keeps always returns fails tree) tree) :
    (tryCatch action handler).Keeps always returns fails tree := by
  refine FileWork.Keeps.bind (FileWork.Keeps.mono h (fun _ => id) fun result tree hend => ?_)
  cases result with
  | ok value => exact hend
  | error fault => exact hend fault

/-- Looking changes nothing. -/
theorem keeps_look {f : FileTree → FileAction α} (h : (f tree).Keeps always returns fails tree) :
    (look >>= f).Keeps always returns fails tree := h

/-- A step is done, or it breaks off. -/
theorem keeps_change {returns : Unit → FileTree → Prop}
    (halways : ∀ moment, step.During tree moment → always moment)
    (hreturns : returns () (step.apply tree))
    (hfails : ∀ filled, fails (step.breakOff tree filled)) :
    (change step).Keeps always returns fails tree := by
  refine ⟨halways, fun hindrance => ?_⟩
  rcases FileStep.attempt_eq_or hindrance with hdone | ⟨fault, filled, hbroken⟩
  · rw [hdone]
    exact ⟨halways _ (.after step), hreturns⟩
  · rw [hbroken]
    exact ⟨halways _ (FileStep.during_breakOff filled), hfails filled⟩

/-- A file that is to be taken away is taken away. -/
theorem keeps_discard {returns : Unit → FileTree → Prop} {location : Location}
    (halways : ∀ moment, (FileStep.discard location).During tree moment → always moment)
    (hreturns : returns () (tree.remove location)) :
    (discard location).Keeps always returns fails tree := by
  refine ⟨halways, fun hindrance => ?_⟩
  rw [FileStep.attempt_discard]
  exact ⟨halways _ (.after _), hreturns⟩

/-- Following a path changes nothing. -/
theorem keeps_locate {returns : Location → FileTree → Prop} {path : String} (halways : always tree)
    (hreturns : ∀ location, tree.locate path = .ok location → returns location tree)
    (hfails : fails tree) : (locate path).Keeps always returns fails tree := by
  have hwork : (locate path).work = .look fun tree => .done (tree.locate path) := rfl
  rw [Keeps, hwork]
  change always tree ∧ _
  cases hlocate : tree.locate path with
  | ok location => exact ⟨halways, hreturns location hlocate⟩
  | error fault => exact ⟨halways, hfails⟩

theorem keeps_lookAt {returns : Option Entry → FileTree → Prop} {location : Location}
    (halways : always tree) (hreturns : returns (tree.get? location) tree) :
    (lookAt location).Keeps always returns fails tree := ⟨halways, hreturns⟩

/-- The work of an action ends with a value or a fault. -/
theorem Keeps.work (h : action.Keeps always returns fails tree) :
    action.work.Keeps always (fun
      | .ok value, tree => returns value tree
      | .error _, tree => fails tree) tree := h

-- the rules say all there is to say about actions, and looking into them takes long
attribute [irreducible] Keeps

/-! ## 4. What holds throughout -/

/-- Whatever hinders an action, a property that holds of the tree at its start holds of every tree
that it meets. -/
def Preserves (always : FileTree → Prop) (action : FileAction α) : Prop :=
  ∀ tree, always tree → action.Keeps always (fun _ => always) always tree

namespace Preserves

theorem pure (value : α) : Preserves always (pure value : FileAction α) :=
  fun _ h => keeps_pure h h

theorem throw (fault : IoFault) : Preserves always (throw fault : FileAction α) :=
  fun _ h => keeps_throw h h

theorem bind {f : α → FileAction β} (h : action.Preserves always)
    (hf : ∀ value, (f value).Preserves always) : (action >>= f).Preserves always :=
  fun tree hstart => Keeps.bind <|
    (h tree hstart).mono (fun _ => id) (fun value tree htree => hf value tree htree)
      fun _ htree => ⟨htree, htree⟩

theorem tryCatch {handler : IoFault → FileAction α} (h : action.Preserves always)
    (hhandler : ∀ fault, (handler fault).Preserves always) :
    (tryCatch action handler).Preserves always :=
  fun tree hstart => Keeps.tryCatch <|
    (h tree hstart).mono (fun _ => id) (fun _ _ htree => ⟨htree, htree⟩)
      fun tree htree fault => hhandler fault tree htree

theorem isFolder (path : String) : (isFolder path).Preserves always := by
  intro tree h
  refine keeps_look ?_
  cases tree.locate path with
  | ok location => exact keeps_pure h h
  | error fault => exact keeps_pure h h

end Preserves

end FileAction

end OntoWrap
