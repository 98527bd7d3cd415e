import OntoWrap.Ontology.Index

/-!
# Ancestors of a class

`Index.ancestors` walks up from a class, depth first and parents in their order, and lists each
class that it meets once, after all classes above it.  A walk that comes back to a class on its own
path ends in an error that shows the path.

The walk keeps its path as a stack of frames.  It ends because each step either visits a class that
was not visited before or shortens what the frames have left to look at.
-/
namespace OntoWrap

/-! ## 1. The state of a walk -/

/-- Why a walk fails. -/
inductive HierarchyFault where
  /-- The walk from `start` came back to a class on its path; the path ends in that class. -/
  | cycle (start : String) (path : List String)
  /-- A listed parent is no class of the index. -/
  | unknownClass (iri : String)
  deriving DecidableEq, Repr

/-- A class on the path of a walk, and those of its parents not looked at yet. -/
structure Frame where
  visiting : ClassInfo
  pending : List String
  deriving DecidableEq, Repr

/-- IRIs of the classes on a path, the last one first. -/
def pathOf (stack : List Frame) : List String := stack.map (·.visiting.iri)

/-- What the frames have left to do: each its pending parents and its own end. -/
def workLeft : List Frame → Nat
  | [] => 0
  | frame :: below => frame.pending.length + 1 + workLeft below

namespace Index

/-- The classes of the index that a walk has not visited. -/
def unvisited (index : Index) (visited : List String) : Nat :=
  index.classes.countP fun c => !visited.contains c.iri

/-- Visiting a class of the index leaves fewer to visit. -/
theorem unvisited_lt {index : Index} {visited : List String} {iri : String} {c : ClassInfo}
    (hc : index.class? iri = some c) (hnew : visited.contains iri = false) :
    index.unvisited (iri :: visited) < index.unvisited visited := by
  have hmem := mem_of_class? hc
  have hiri := iri_of_class? hc
  unfold unvisited
  rw [List.countP_eq_length_filter, List.countP_eq_length_filter]
  have hsub : index.classes.filter (fun d => !(iri :: visited).contains d.iri)
      = (index.classes.filter fun d => !visited.contains d.iri).filter fun d => d.iri != iri := by
    rw [List.filter_filter]
    refine List.filter_congr fun d _ => ?_
    by_cases hd : d.iri = iri <;> simp [hd]
  rw [hsub]
  refine List.length_filter_lt_length_iff_exists.mpr ⟨c, ?_, by simp [hiri]⟩
  exact List.mem_filter.mpr ⟨hmem, by rw [hiri, hnew]; rfl⟩

/-! ## 2. The walk -/

/-- Walks on from a stack of frames.  `visited` holds all classes met so far, `found` those that are
done, in the order of the result. -/
def walk (index : Index) (start : String) (stack : List Frame) (visited : List String)
    (found : List ClassInfo) : Except HierarchyFault (List ClassInfo) :=
  match stack with
  | [] => .ok found
  | ⟨c, []⟩ :: below =>
    index.walk start below visited (if below.isEmpty then found else found ++ [c])
  | ⟨c, p :: pending⟩ :: below =>
    if (pathOf (⟨c, p :: pending⟩ :: below)).contains p then
      .error (.cycle start ((pathOf (⟨c, p :: pending⟩ :: below)).reverse ++ [p]))
    else if _hseen : visited.contains p then
      index.walk start (⟨c, pending⟩ :: below) visited found
    else
      match _hp : index.class? p with
      | none => .error (.unknownClass p)
      | some parent =>
        index.walk start (⟨parent, parent.parents⟩ :: ⟨c, pending⟩ :: below) (p :: visited) found
termination_by (index.unvisited visited, workLeft stack)
decreasing_by
  · exact Prod.Lex.right _ (by simp [workLeft])
  · exact Prod.Lex.right _ (by simp [workLeft])
  · exact Prod.Lex.left _ _ (unvisited_lt _hp (by simpa using _hseen))

/-- All classes above a class, each once and after all classes above itself. -/
def ancestors (index : Index) (c : ClassInfo) : Except HierarchyFault (List ClassInfo) :=
  index.walk c.iri [⟨c, c.parents⟩] [c.iri] []

/-- The classes directly above a class, in IRI order. -/
def directParents (index : Index) (c : ClassInfo) : List ClassInfo :=
  c.parents.filterMap index.class?

end Index

end OntoWrap
