/-!
# Finite sets as ascending lists

`Ascending α` is a finite set kept as the list of its members, least first and without repetition.
The list is a normal form: two sets with the same members are equal (`Ascending.ext_mem`), so
`Ascending.ofList` forgets order and multiplicity and nothing else (`Ascending.ofList_eq_iff`).
-/
namespace OntoWrap

/-! ## 1. The type -/

/-- A finite set, kept as the list of its members in strictly ascending order. -/
structure Ascending (α : Type) [Ord α] where
  toList : List α
  ascends : toList.Pairwise fun a b => compare a b = .lt

namespace Ascending

variable {α : Type} [Ord α]

instance : Membership α (Ascending α) := ⟨fun s a => a ∈ s.toList⟩

theorem mem_def {s : Ascending α} {a : α} : a ∈ s ↔ a ∈ s.toList := Iff.rfl

theorem toList_injective {s t : Ascending α} (h : s.toList = t.toList) : s = t := by
  cases s; cases t; simp_all

instance [DecidableEq α] : DecidableEq (Ascending α) := fun s t =>
  if h : s.toList = t.toList then isTrue (toList_injective h)
  else isFalse fun e => h (e ▸ rfl)

/-! ## 2. Sorting and dropping repetitions -/

/-- Drops each member that equals the one after it. -/
def dropRepeats : List α → List α
  | [] => []
  | [a] => [a]
  | a :: b :: rest =>
    if compare a b = .eq then dropRepeats (b :: rest) else a :: dropRepeats (b :: rest)

/-- The order as a test. -/
def notAbove (a b : α) : Bool := (compare a b).isLE

theorem dropRepeats_subset {a : α} : ∀ {l : List α}, a ∈ dropRepeats l → a ∈ l
  | [], h => h
  | [_], h => h
  | b :: c :: rest, h => by
    simp only [dropRepeats] at h
    split at h
    · exact List.mem_cons_of_mem _ (dropRepeats_subset h)
    · rcases List.mem_cons.mp h with rfl | h
      · exact List.mem_cons_self
      · exact List.mem_cons_of_mem _ (dropRepeats_subset h)

theorem mem_dropRepeats [Std.LawfulEqOrd α] {a : α} : ∀ {l : List α}, a ∈ l → a ∈ dropRepeats l
  | [], h => h
  | [_], h => h
  | b :: c :: rest, h => by
    simp only [dropRepeats]
    split
    · rename_i hbc
      have hbc : b = c := Std.LawfulEqOrd.eq_of_compare hbc
      refine mem_dropRepeats ?_
      rcases List.mem_cons.mp h with rfl | h
      · simp [hbc]
      · exact h
    · rcases List.mem_cons.mp h with rfl | h
      · exact List.mem_cons_self
      · exact List.mem_cons_of_mem _ (mem_dropRepeats h)

theorem ascends_dropRepeats [Std.TransOrd α] [Std.LawfulEqOrd α] :
    ∀ {l : List α}, l.Pairwise (fun a b => notAbove a b = true) →
      (dropRepeats l).Pairwise fun a b => compare a b = .lt
  | [], _ => .nil
  | [_], _ => by simp [dropRepeats]
  | b :: c :: rest, h => by
    have htail := ascends_dropRepeats (List.pairwise_cons.mp h).2
    simp only [dropRepeats]
    split
    · exact htail
    · rename_i hbc
      refine List.pairwise_cons.mpr ⟨fun d hd => ?_, htail⟩
      have hc := (List.pairwise_cons.mp h).1 c (by simp)
      have hlt : compare b c = .lt := by
        unfold notAbove at hc
        cases hcmp : compare b c <;> simp_all
      rcases List.mem_cons.mp (dropRepeats_subset hd) with rfl | hd
      · exact hlt
      · have hcd := (List.pairwise_cons.mp (List.pairwise_cons.mp h).2).1 d hd
        exact Std.TransCmp.lt_of_lt_of_isLE hlt hcd

theorem notAbove_trans [Std.TransOrd α] (a b c : α) (hab : notAbove a b = true)
    (hbc : notAbove b c = true) : notAbove a c = true :=
  Std.TransCmp.isLE_trans hab hbc

theorem notAbove_total [Std.TransOrd α] (a b : α) : (notAbove a b || notAbove b a) = true := by
  unfold notAbove
  have hswap : compare b a = (compare a b).swap := Std.OrientedCmp.eq_swap
  rw [hswap]
  cases compare a b <;> rfl

/-- The set of the members of a list. -/
def ofList [Std.TransOrd α] [Std.LawfulEqOrd α] (l : List α) : Ascending α where
  toList := dropRepeats (l.mergeSort notAbove)
  ascends := ascends_dropRepeats (List.pairwise_mergeSort notAbove_trans notAbove_total l)

theorem mem_ofList [Std.TransOrd α] [Std.LawfulEqOrd α] {l : List α} {a : α} :
    a ∈ ofList l ↔ a ∈ l :=
  ⟨fun h => List.mem_mergeSort.mp (dropRepeats_subset (mem_def.mp h)),
    fun h => mem_def.mpr (mem_dropRepeats (List.mem_mergeSort.mpr h))⟩

/-! ## 3. The list is a normal form -/

/-- Two strictly ascending lists with the same members are equal. -/
theorem eq_of_mem_iff [Std.TransOrd α] [Std.LawfulEqOrd α] :
    ∀ {l m : List α}, l.Pairwise (fun a b => compare a b = .lt) →
      m.Pairwise (fun a b => compare a b = .lt) → (∀ a, a ∈ l ↔ a ∈ m) → l = m
  | [], [], _, _, _ => rfl
  | [], b :: _, _, _, h => absurd ((h b).mpr List.mem_cons_self) (by simp)
  | a :: _, [], _, _, h => absurd ((h a).mp List.mem_cons_self) (by simp)
  | a :: l, b :: m, hl, hm, h => by
    obtain ⟨hal, hl'⟩ := List.pairwise_cons.mp hl
    obtain ⟨hbm, hm'⟩ := List.pairwise_cons.mp hm
    have irrefl : ∀ x : α, compare x x ≠ .lt := fun x => by
      rw [Std.ReflOrd.compare_self]; decide
    have hab : a = b := by
      rcases List.mem_cons.mp ((h a).mp List.mem_cons_self) with hab | ham
      · exact hab
      · rcases List.mem_cons.mp ((h b).mpr List.mem_cons_self) with hba | hbl
        · exact hba.symm
        · exact absurd (Std.TransCmp.lt_trans (hal b hbl) (hbm a ham)) (irrefl a)
    subst hab
    suffices hlm : l = m by rw [hlm]
    refine eq_of_mem_iff hl' hm' fun x => ?_
    constructor
    · intro hx
      rcases List.mem_cons.mp ((h x).mp (List.mem_cons_of_mem _ hx)) with rfl | hx'
      · exact absurd (hal x hx) (irrefl x)
      · exact hx'
    · intro hx
      rcases List.mem_cons.mp ((h x).mpr (List.mem_cons_of_mem _ hx)) with rfl | hx'
      · exact absurd (hbm x hx) (irrefl x)
      · exact hx'

theorem ext_mem [Std.TransOrd α] [Std.LawfulEqOrd α] {s t : Ascending α}
    (h : ∀ a, a ∈ s ↔ a ∈ t) : s = t :=
  toList_injective (eq_of_mem_iff s.ascends t.ascends h)

theorem ofList_eq_iff [Std.TransOrd α] [Std.LawfulEqOrd α] {l m : List α} :
    ofList l = ofList m ↔ ∀ a, a ∈ l ↔ a ∈ m := by
  constructor
  · intro h a
    rw [← mem_ofList (l := l), h, mem_ofList]
  · intro h
    exact ext_mem fun a => by rw [mem_ofList, mem_ofList, h]

end Ascending

/-- The distinct members of a list, least first. -/
def ascending {α : Type} [Ord α] [Std.TransOrd α] [Std.LawfulEqOrd α] (l : List α) : List α :=
  (Ascending.ofList l).toList

theorem mem_ascending {α : Type} [Ord α] [Std.TransOrd α] [Std.LawfulEqOrd α] {l : List α} {a : α} :
    a ∈ ascending l ↔ a ∈ l := Ascending.mem_ofList

end OntoWrap
