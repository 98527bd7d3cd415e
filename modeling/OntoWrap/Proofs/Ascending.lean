import OntoWrap.Ascending

/-!
# Ascending lists by insertion

`ascending` sorts a list and drops what is repeated.  The same list arises when the members are put
into their places one after the other (`ascending_eq_foldr`).  Insertion goes by recursion on the
list, so the ascending form of a closed list can be evaluated through it.
-/
namespace OntoWrap

variable {α : Type} [Ord α]

/-! ## 1. Members of an ascending list -/

/-- An ascending list ascends strictly. -/
theorem pairwise_ascending [Std.TransOrd α] [Std.LawfulEqOrd α] (l : List α) :
    (ascending l).Pairwise fun a b => compare a b = .lt :=
  (Ascending.ofList l).ascends

/-- A list that ascends strictly holds no member twice. -/
theorem nodup_of_pairwise_lt [Std.ReflOrd α] {l : List α}
    (h : l.Pairwise fun a b => compare a b = .lt) : l.Nodup := by
  refine h.imp fun {a b} hlt heq => ?_
  subst heq
  rw [Std.ReflOrd.compare_self] at hlt
  exact absurd hlt (by decide)

theorem nodup_ascending [Std.TransOrd α] [Std.LawfulEqOrd α] (l : List α) :
    (ascending l).Nodup := nodup_of_pairwise_lt (pairwise_ascending l)

/-! ## 2. Insertion -/

/-- Puts a member into its place, unless it is there already. -/
def insertAscending (a : α) : List α → List α
  | [] => [a]
  | b :: rest =>
    match compare a b with
    | .lt => a :: b :: rest
    | .eq => b :: rest
    | .gt => b :: insertAscending a rest

theorem mem_insertAscending [Std.LawfulEqOrd α] {a x : α} : ∀ {l : List α},
    x ∈ insertAscending a l ↔ x = a ∨ x ∈ l
  | [] => by simp [insertAscending]
  | b :: rest => by
    have ih := mem_insertAscending (a := a) (x := x) (l := rest)
    cases hab : compare a b with
    | lt => simp [insertAscending, hab]
    | eq =>
      obtain rfl : a = b := Std.LawfulEqOrd.eq_of_compare hab
      simp [insertAscending]
    | gt =>
      simp only [insertAscending, hab, List.mem_cons, ih]
      exact or_left_comm

theorem pairwise_insertAscending [Std.TransOrd α] [Std.LawfulEqOrd α] {a : α} :
    ∀ {l : List α}, l.Pairwise (fun a b => compare a b = .lt) →
      (insertAscending a l).Pairwise fun a b => compare a b = .lt
  | [], _ => by simp [insertAscending]
  | b :: rest, h => by
    obtain ⟨hb, hrest⟩ := List.pairwise_cons.mp h
    cases hab : compare a b with
    | lt =>
      simp only [insertAscending, hab]
      refine List.pairwise_cons.mpr ⟨fun x hx => ?_, h⟩
      rcases List.mem_cons.mp hx with rfl | hx
      · exact hab
      · exact Std.TransCmp.lt_trans hab (hb x hx)
    | eq => simpa only [insertAscending, hab] using h
    | gt =>
      simp only [insertAscending, hab]
      refine List.pairwise_cons.mpr ⟨fun x hx => ?_, pairwise_insertAscending hrest⟩
      rcases mem_insertAscending.mp hx with rfl | hx
      · exact Std.OrientedCmp.lt_of_gt hab
      · exact hb x hx

/-- **Sorting and inserting agree.** -/
theorem ascending_eq_foldr [Std.TransOrd α] [Std.LawfulEqOrd α] (l : List α) :
    ascending l = l.foldr insertAscending [] := by
  have hmem : ∀ x, x ∈ l.foldr insertAscending [] ↔ x ∈ l := by
    intro x
    induction l with
    | nil => rfl
    | cons a l ih => rw [List.foldr_cons, mem_insertAscending, ih, List.mem_cons]
  have hasc : (l.foldr insertAscending []).Pairwise fun a b => compare a b = .lt := by
    clear hmem
    induction l with
    | nil => exact .nil
    | cons a l ih => exact pairwise_insertAscending ih
  exact Ascending.eq_of_mem_iff (pairwise_ascending l) hasc fun x => by rw [mem_ascending, hmem]

end OntoWrap
