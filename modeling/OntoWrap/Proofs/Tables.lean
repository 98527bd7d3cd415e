import Mathlib.Data.List.Basic
import OntoWrap.Table

/-!
# What a table holds

A table that is filled in one pass holds under each key exactly the values that were added under it,
in the same order (`Table.valuesOf_addAll`).  The look-ups that begin with a table rest on this
alone.  All keys together hold every value, as often as it was added (`Table.perm_values_addAll`).
-/
namespace OntoWrap.Table

variable {κ ν : Type} {table : Table κ ν} {key other : κ} {value : ν}

theorem valuesOf_cons [BEq κ] {values : List ν} {rest : Table κ ν} :
    valuesOf ((other, values) :: rest) key
      = if key == other then values else rest.valuesOf key := by
  rw [valuesOf, List.lookup_cons]
  cases key == other with
  | true => rfl
  | false => rfl

variable [Ord κ]

/-! ## 1. All values together -/

/-- A value that is added joins those that are there, wherever it goes. -/
theorem perm_values_add :
    ((table.add key value).flatMap (·.2)).Perm (value :: table.flatMap (·.2)) := by
  induction table with
  | nil => exact List.Perm.refl _
  | cons first rest ih =>
    obtain ⟨other, values⟩ := first
    rw [add]
    split
    · exact List.Perm.refl _
    · simp only [List.flatMap_cons, List.append_assoc, List.singleton_append]
      exact List.perm_middle
    · simp only [List.flatMap_cons]
      exact (ih.append_left values).trans List.perm_middle

/-- **A pass puts every value under some key**, as often as it comes. -/
theorem perm_values_addAll (entries : List (κ × ν)) :
    ((table.addAll entries).flatMap (·.2)).Perm (table.flatMap (·.2) ++ entries.map (·.2)) := by
  induction entries generalizing table with
  | nil => simp [addAll]
  | cons first rest ih =>
    obtain ⟨key, value⟩ := first
    have hstep : table.addAll ((key, value) :: rest) = (table.add key value).addAll rest := rfl
    rw [hstep, List.map_cons]
    exact (ih.trans (perm_values_add.append_right _)).trans List.perm_middle.symm

theorem values_ne_nil_add (h : ∀ entry ∈ table, entry.2 ≠ []) :
    ∀ entry ∈ table.add key value, entry.2 ≠ [] := by
  induction table with
  | nil => simp [add]
  | cons first rest ih =>
    obtain ⟨other, values⟩ := first
    obtain ⟨hfirst, hrest⟩ := List.forall_mem_cons.mp h
    rw [add]
    split
    · exact List.forall_mem_cons.mpr ⟨by simp, h⟩
    · exact List.forall_mem_cons.mpr ⟨by simp, hrest⟩
    · exact List.forall_mem_cons.mpr ⟨hfirst, ih hrest⟩

/-- No key comes into a table without a value. -/
theorem values_ne_nil_addAll (entries : List (κ × ν)) (h : ∀ entry ∈ table, entry.2 ≠ []) :
    ∀ entry ∈ table.addAll entries, entry.2 ≠ [] := by
  induction entries generalizing table with
  | nil => exact h
  | cons first rest ih => exact ih (values_ne_nil_add h)

/-! ## 2. Keys -/

/-- The keys of a table ascend. -/
def Ascends (table : Table κ ν) : Prop := table.Pairwise fun a b => compare a.1 b.1 = .lt

/-- A key is added where it belongs. -/
theorem fst_of_mem_add {entry : κ × List ν} (h : entry ∈ add key value table) :
    entry.1 = key ∨ ∃ old ∈ table, old.1 = entry.1 := by
  induction table with
  | nil => exact .inl (by rw [List.mem_singleton.mp h])
  | cons first rest ih =>
    obtain ⟨other, values⟩ := first
    rw [add] at h
    split at h
    · rcases List.mem_cons.mp h with rfl | h
      · exact .inl rfl
      · exact .inr ⟨entry, h, rfl⟩
    · rcases List.mem_cons.mp h with rfl | h
      · exact .inr ⟨(other, values), List.mem_cons_self, rfl⟩
      · exact .inr ⟨entry, List.mem_cons_of_mem _ h, rfl⟩
    · rcases List.mem_cons.mp h with rfl | h
      · exact .inr ⟨(other, values), List.mem_cons_self, rfl⟩
      · refine (ih h).imp id ?_
        rintro ⟨old, hold, hsame⟩
        exact ⟨old, List.mem_cons_of_mem _ hold, hsame⟩

variable [Std.TransOrd κ]

theorem Ascends.add (h : table.Ascends) : (table.add key value).Ascends := by
  induction table with
  | nil => exact List.pairwise_singleton _ _
  | cons first rest ih =>
    obtain ⟨other, values⟩ := first
    obtain ⟨hother, hrest⟩ := List.pairwise_cons.mp h
    rw [Table.add]
    split
    · rename_i hlt
      refine List.pairwise_cons.mpr ⟨fun entry hentry => ?_, h⟩
      rcases List.mem_cons.mp hentry with rfl | hentry
      · exact hlt
      · exact Std.TransCmp.lt_trans hlt (hother entry hentry)
    · exact List.pairwise_cons.mpr ⟨hother, hrest⟩
    · rename_i hgt
      refine List.pairwise_cons.mpr ⟨fun entry hentry => ?_, ih hrest⟩
      rcases fst_of_mem_add hentry with hkey | ⟨old, hold, hsame⟩
      · rw [hkey]
        exact Std.OrientedCmp.lt_of_gt hgt
      · rw [← hsame]
        exact hother old hold

theorem Ascends.addAll (entries : List (κ × ν)) (h : table.Ascends) :
    (table.addAll entries).Ascends := by
  induction entries generalizing table with
  | nil => exact h
  | cons first rest ih => exact ih h.add

/-! ## 3. The values of a key -/

variable [BEq κ] [LawfulBEq κ]

/-- A key below all keys of a table has no values. -/
theorem valuesOf_eq_nil (h : ∀ entry ∈ table, compare key entry.1 = .lt) :
    table.valuesOf key = [] := by
  have hnone : table.lookup key = none := by
    refine List.lookup_eq_none_iff.mpr fun entry hentry => ?_
    rw [bne_iff_ne]
    rintro rfl
    have hlt := h entry hentry
    rw [Std.ReflOrd.compare_self] at hlt
    cases hlt
  rw [valuesOf, hnone, Option.getD_none]

/-- In a table whose keys ascend, an entry is what is found under its key. -/
theorem valuesOf_of_mem (h : table.Ascends) {entry : κ × List ν} (hentry : entry ∈ table) :
    table.valuesOf entry.1 = entry.2 := by
  induction table with
  | nil => cases hentry
  | cons first rest ih =>
    obtain ⟨hfirst, hrest⟩ := List.pairwise_cons.mp h
    rw [valuesOf_cons]
    rcases List.mem_cons.mp hentry with rfl | hentry
    · rw [if_pos BEq.rfl]
    · have hne : entry.1 ≠ first.1 := by
        intro hsame
        have hlt := hfirst entry hentry
        rw [hsame, Std.ReflOrd.compare_self] at hlt
        cases hlt
      rw [if_neg (by simpa using hne), ih hrest hentry]

variable [Std.LawfulEqOrd κ]

/-- **A value is added to those of its key** and to no others. -/
theorem valuesOf_add (h : table.Ascends) :
    (table.add key value).valuesOf other =
      table.valuesOf other ++ if key == other then [value] else [] := by
  induction table with
  | nil =>
    rw [add, valuesOf_cons, Bool.beq_comm]
    rfl
  | cons first rest ih =>
    obtain ⟨next, values⟩ := first
    obtain ⟨hnext, hrest⟩ := List.pairwise_cons.mp h
    rw [add]
    split
    · rename_i hlt
      have hnone : valuesOf ((next, values) :: rest) key = [] := by
        refine valuesOf_eq_nil fun entry hentry => ?_
        rcases List.mem_cons.mp hentry with rfl | hentry
        · exact hlt
        · exact Std.TransCmp.lt_trans hlt (hnext entry hentry)
      rw [valuesOf_cons, Bool.beq_comm]
      split
      · rename_i hsame
        rw [← eq_of_beq hsame, hnone, List.nil_append]
      · rw [List.append_nil]
    · rename_i heq
      obtain rfl := Std.LawfulEqOrd.eq_of_compare heq
      rw [valuesOf_cons, valuesOf_cons, Bool.beq_comm]
      split
      · rfl
      · rw [List.append_nil]
    · rename_i hgt
      have hne : key ≠ next := by
        rintro rfl
        rw [Std.ReflOrd.compare_self] at hgt
        cases hgt
      rw [valuesOf_cons, valuesOf_cons, ih hrest]
      split
      · rename_i hsame
        rw [eq_of_beq hsame, if_neg (by simpa using hne), List.append_nil]
      · rfl

/-- **A pass adds to each key the values that come under it**, in the same order. -/
theorem valuesOf_addAll (entries : List (κ × ν)) (h : table.Ascends) :
    (table.addAll entries).valuesOf key =
      table.valuesOf key ++ (entries.filter (·.1 == key)).map (·.2) := by
  induction entries generalizing table with
  | nil => simp [addAll]
  | cons first rest ih =>
    obtain ⟨other, value⟩ := first
    have hstep : table.addAll ((other, value) :: rest) = (table.add other value).addAll rest := rfl
    rw [hstep, ih h.add, valuesOf_add h, List.append_assoc, List.filter_cons]
    congr 1
    split
    · rfl
    · rfl

/-- What a table holds that was filled from nothing. -/
theorem valuesOf_addAll_nil (entries : List (κ × ν)) :
    (addAll [] entries).valuesOf key = (entries.filter (·.1 == key)).map (·.2) :=
  valuesOf_addAll entries List.Pairwise.nil

end OntoWrap.Table
