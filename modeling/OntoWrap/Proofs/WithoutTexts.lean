import OntoWrap.Proofs.SourceLines
import OntoWrap.Wrapper.Plan

/-!
# Plans and their texts

The label and the comments of a class are literals of the ontology, of any characters.
`ClassUnit.withoutTexts` takes them out of a plan; two plans are the same but for their texts if
nothing else is left to tell them apart (`SameButTexts`).  A text that is filled into comment lines
is broken at its blanks, so no such line holds a line end, whatever the text is
(`lineEnd_notMem_wrap`).
-/
namespace OntoWrap

/-! ## 1. Taking texts out -/

/-- An accessor without its comment. -/
def Accessor.withoutComment (a : Accessor) : Accessor := { a with comment := none }

/-- A plan without its label and its comments. -/
def ClassUnit.withoutTexts (unit : ClassUnit) : ClassUnit :=
  { unit with
    label := ""
    comment := none
    accessors := unit.accessors.map Accessor.withoutComment }

theorem ClassUnit.withoutTexts_withoutTexts (unit : ClassUnit) :
    unit.withoutTexts.withoutTexts = unit.withoutTexts := by
  simp only [withoutTexts, List.map_map]
  rfl

/-- Two plans differ in their labels and comments at most. -/
def SameButTexts (u v : ClassUnit) : Prop := u.withoutTexts = v.withoutTexts

instance (u v : ClassUnit) : Decidable (SameButTexts u v) :=
  inferInstanceAs (Decidable (u.withoutTexts = v.withoutTexts))

/-! ## 2. Filled lines -/

namespace Text

/-- Filling lines moves words and makes none. -/
theorem mem_of_mem_fill {width : Nat} {ws filled : List String} {w : String} :
    ∀ {line : List String} {count : Nat}, filled ∈ fill width line count ws → w ∈ filled →
      w ∈ line ∨ w ∈ ws := by
  induction ws with
  | nil =>
    intro line count hfilled hw
    rw [fill] at hfilled
    split at hfilled
    · cases hfilled
    · rw [List.mem_singleton.mp hfilled, List.mem_reverse] at hw
      exact .inl hw
  | cons v ws ih =>
    intro line count hfilled hw
    rw [fill] at hfilled
    split at hfilled
    · rcases List.mem_cons.mp hfilled with rfl | hfilled
      · exact .inl (List.mem_reverse.mp hw)
      · rcases ih hfilled hw with hv | hws
        · exact .inr (List.mem_cons.mpr (.inl (List.mem_singleton.mp hv)))
        · exact .inr (List.mem_cons_of_mem _ hws)
    · rcases ih hfilled hw with hv | hws
      · rcases List.mem_cons.mp hv with rfl | hline
        · exact .inr List.mem_cons_self
        · exact .inl hline
      · exact .inr (List.mem_cons_of_mem _ hws)

theorem mem_words_of_mem_wrapWords {width : Nat} {text w : String} {filled : List String}
    (hfilled : filled ∈ wrapWords width text) (hw : w ∈ filled) : w ∈ words text := by
  rcases mem_of_mem_fill hfilled hw with hline | hwords
  · cases hline
  · exact hwords

/-- A character of joined texts stands between them or in one of them. -/
theorem mem_intercalate {separator : String} {texts : List String} {c : Char}
    (h : c ∈ (separator.intercalate texts).toList) :
    c ∈ separator.toList ∨ ∃ text ∈ texts, c ∈ text.toList := by
  induction texts with
  | nil => cases h
  | cons text rest ih =>
    by_cases hrest : rest = []
    · subst hrest
      rw [String.intercalate_singleton] at h
      exact .inr ⟨text, List.mem_cons_self, h⟩
    · rw [String.intercalate_cons_of_ne_nil hrest, String.toList_append, String.toList_append,
        List.mem_append, List.mem_append] at h
      rcases h with (h | h) | h
      · exact .inr ⟨text, List.mem_cons_self, h⟩
      · exact .inl h
      · refine (ih h).imp id ?_
        rintro ⟨other, hother, hc⟩
        exact ⟨other, List.mem_cons_of_mem _ hother, hc⟩

/-- **No filled line holds a line end**, whatever the text is. -/
theorem lineEnd_notMem_wrap {width : Nat} {text line : String} (h : line ∈ wrap width text) :
    '\n' ∉ line.toList := by
  obtain ⟨filled, hfilled, rfl⟩ := List.mem_map.mp h
  intro hend
  rcases mem_intercalate hend with hspace | ⟨w, hw, hmem⟩
  · exact absurd hspace (by decide)
  · obtain ⟨cs, hcs, rfl⟩ := List.mem_map.mp (mem_words_of_mem_wrapWords hfilled hw)
    rw [String.toList_ofList] at hmem
    have hblank : isBlank '\n' = true := by decide
    rw [isBlank_of_mem_words hcs hmem] at hblank
    cases hblank

end Text

end OntoWrap
