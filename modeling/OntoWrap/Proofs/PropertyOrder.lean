import Mathlib.Data.List.Forall2
import OntoWrap.Proofs.Ascending
import OntoWrap.Proofs.Collisions

/-!
# The order of properties

`disambiguate` goes through a list of properties, but nothing that it decides depends on where in
the list a property stands.  A name is shared if it occurs more than once (`isShared_eq_of_perm`),
so each property gets its prefix in the same round in whatever order they come
(`finalNames_eq_of_perm`).  What is reported is the least name that is shared, and only its owners
are listed in the order of the properties (`firstShared?_perm`).  So the same properties in another
order get the same names, or the same report (`disambiguate_perm`).
-/
namespace OntoWrap.Naming

/-! ## 1. Answers that say the same -/

/-- The names of the property with an IRI. -/
def namesUnder? (named : List NamedProperty) (iri : String) : Option AccessorNames :=
  (named.find? (·.property.iri == iri)).map (·.names)

/-- Reports of one name on one class that list the same properties, in any order. -/
structure Collision.SameReport (c d : Collision) : Prop where
  onClass : c.onClass = d.onClass
  identifier : c.identifier = d.identifier
  properties : c.properties.Perm d.properties

/-- **Two answers say the same**: each property has the same names in both, or both report the
same. -/
inductive SameAnswer :
    Except Collision (List NamedProperty) → Except Collision (List NamedProperty) → Prop
  | named {l m : List NamedProperty} : l.Perm m → (∀ iri, namesUnder? l iri = namesUnder? m iri) →
      SameAnswer (.ok l) (.ok m)
  | collision {c d : Collision} : c.SameReport d → SameAnswer (.error c) (.error d)

/-- Among properties with different IRIs, the names of each are found under its IRI. -/
theorem namesUnder?_eq_some_iff {named : List NamedProperty}
    (h : (named.map (·.property.iri)).Nodup) {iri : String} {names : AccessorNames} :
    namesUnder? named iri = some names ↔ ∃ n ∈ named, n.property.iri = iri ∧ n.names = names := by
  constructor
  · intro hnames
    obtain ⟨n, hn, rfl⟩ := Option.map_eq_some_iff.mp hnames
    exact ⟨n, List.mem_of_find?_eq_some hn, by simpa using List.find?_some hn, rfl⟩
  · rintro ⟨n, hn, rfl, rfl⟩
    cases hfound : named.find? (·.property.iri == n.property.iri) with
    | none => exact absurd (List.find?_eq_none.mp hfound n hn) (by simp)
    | some m =>
      have hiri : m.property.iri = n.property.iri := by simpa using List.find?_some hfound
      obtain rfl := List.inj_on_of_nodup_map h (List.mem_of_find?_eq_some hfound) hn hiri
      rw [namesUnder?, hfound, Option.map_some]

theorem namesUnder?_eq_of_perm {l m : List NamedProperty} (hperm : l.Perm m)
    (h : (l.map (·.property.iri)).Nodup) (iri : String) :
    namesUnder? l iri = namesUnder? m iri := by
  have h' : (m.map (·.property.iri)).Nodup := (hperm.map _).nodup_iff.mp h
  refine Option.ext fun names => ?_
  rw [namesUnder?_eq_some_iff h, namesUnder?_eq_some_iff h']
  simp only [hperm.mem_iff]

/-! ## 2. The two rounds -/

variable {declare : String → String} {properties properties' : List PropertyInfo}

theorem isShared_eq_of_perm {taken taken' : List String} (h : taken.Perm taken') :
    isShared taken = isShared taken' := by
  funext name
  rw [isShared, isShared, h.count_eq]

theorem declaredAccessors_perm (declare : String → String) {named named' : List NamedProperty}
    (h : named.Perm named') :
    (declaredAccessors declare named).Perm (declaredAccessors declare named') :=
  h.flatMap_right _

theorem sharesIdentifier_eq_of_perm (h : properties.Perm properties') :
    sharesIdentifier properties = sharesIdentifier properties' := by
  funext p
  rw [sharesIdentifier, sharesIdentifier, isShared_eq_of_perm (h.map plainIdentifier)]

theorem firstNames_eq_of_perm (h : properties.Perm properties') :
    firstNames properties = firstNames properties' := by
  funext p
  rw [firstNames, firstNames, sharesIdentifier_eq_of_perm h]

theorem firstRound_perm (h : properties.Perm properties') :
    (firstRound properties).Perm (firstRound properties') := by
  rw [firstRound_eq, firstRound_eq, firstNames_eq_of_perm h]
  exact h.map _

theorem sharesAccessor_eq_of_perm (h : properties.Perm properties') :
    sharesAccessor declare properties = sharesAccessor declare properties' := by
  have haccessors := (declaredAccessors_perm declare (firstRound_perm h)).map (·.1)
  funext p
  rw [sharesAccessor, sharesAccessor, firstNames_eq_of_perm h, isShared_eq_of_perm haccessors]

/-- **A property has the same names in any order of the properties.** -/
theorem finalNames_eq_of_perm (h : properties.Perm properties') :
    finalNames declare properties = finalNames declare properties' := by
  funext p
  rw [finalNames, finalNames, isPrefixed, isPrefixed, sharesIdentifier_eq_of_perm h,
    sharesAccessor_eq_of_perm h]

theorem secondRound_perm (declare : String → String) (h : properties.Perm properties') :
    (secondRound declare properties).Perm (secondRound declare properties') := by
  rw [secondRound_eq, secondRound_eq, finalNames_eq_of_perm h]
  exact h.map _

/-- Each property is named once, under its own IRI. -/
theorem nodup_iri_secondRound (declare : String → String) (h : (properties.map (·.iri)).Nodup) :
    ((secondRound declare properties).map (·.property.iri)).Nodup := by
  rw [secondRound_eq, List.map_map]
  exact h

/-! ## 3. What is reported -/

/-- A label with all that it labels, in any order. -/
def SameLabel {α : Type} (a b : String × List α) : Prop := a.1 = b.1 ∧ a.2.Perm b.2

/-- The same labels are shared, in the same order, and each by the same. -/
theorem sharedLabels_perm {α : Type} {l m : List (String × α)} (h : l.Perm m) :
    List.Forall₂ SameLabel (sharedLabels l) (sharedLabels m) := by
  have hlabels : ascending (l.map (·.1)) = ascending (m.map (·.1)) :=
    congrArg Ascending.toList (Ascending.ofList_eq_iff.mpr fun label => (h.map _).mem_iff)
  unfold sharedLabels
  rw [hlabels]
  refine List.rel_filterMap (R := Eq) ?_ (List.forall₂_same.mpr fun _ _ => rfl)
  rintro label _ rfl
  have howners : ((l.filter (·.1 == label)).map (·.2)).Perm ((m.filter (·.1 == label)).map (·.2)) :=
    (h.filter _).map _
  simp only [howners.length_eq]
  split
  · exact .some ⟨rfl, howners⟩
  · exact .none

theorem rel_head? {α β : Type} {R : α → β → Prop} {l : List α} {m : List β}
    (h : List.Forall₂ R l m) : Option.Rel R l.head? m.head? := by
  cases h with
  | nil => exact .none
  | cons hfirst _ => exact .some hfirst

/-- **The first shared name is the same in any order**, and so are its owners. -/
theorem firstShared?_perm (declare : String → String) {named named' : List NamedProperty}
    (h : named.Perm named') :
    Option.Rel SameLabel (firstShared? declare named) (firstShared? declare named') :=
  rel_head? (List.rel_append (sharedLabels_perm (h.map _))
    (sharedLabels_perm (declaredAccessors_perm declare h)))

/-! ## 4. The result -/

/-- **The order of the properties does not count.**  In any two orders the same properties get the
same names, or the same name is reported as shared by the same of them, however accessors are
respelled. -/
theorem disambiguate_perm (onClass : String) (declare : String → String)
    (hiris : (properties.map (·.iri)).Nodup) (h : properties.Perm properties') :
    SameAnswer (disambiguate onClass declare properties)
      (disambiguate onClass declare properties') := by
  have hround := secondRound_perm declare h
  have hshared := firstShared?_perm declare hround
  rw [disambiguate, disambiguate]
  generalize firstShared? declare (secondRound declare properties) = report at hshared
  generalize firstShared? declare (secondRound declare properties') = report' at hshared
  cases hshared with
  | none =>
    exact .named hround (namesUnder?_eq_of_perm hround (nodup_iri_secondRound declare hiris))
  | some hlabel => exact .collision ⟨rfl, hlabel.1, hlabel.2⟩

/-- The owners of the shared name come in the order of the properties, and the names of the two URLs
are told apart in either order. -/
theorem disambiguate_perm_tags :
    (tags.map (·.iri)).Nodup ∧ tags.Perm tags.reverse ∧
      disambiguate "http://x/C" id tags.reverse =
        .error ⟨"http://x/C", "exTags", ["http://x/z#exTags", "http://x/ex#tags"]⟩ ∧
      SameAnswer (disambiguate "http://x/C" id tags) (disambiguate "http://x/C" id tags.reverse) ∧
      SameAnswer (.ok (secondRound snakeCase urls))
        (disambiguate "http://x/C" snakeCase urls.reverse) := by
  have hiris : (tags.map (·.iri)).Nodup := by decide +kernel
  have hperm : tags.Perm tags.reverse := (List.reverse_perm tags).symm
  have hurls : disambiguate "http://x/C" snakeCase urls = .ok (secondRound snakeCase urls) :=
    disambiguate_eq_ok_iff.mpr ⟨rfl, by decide +kernel, by decide +kernel⟩
  refine ⟨hiris, hperm, ?_, disambiguate_perm _ _ hiris hperm, ?_⟩
  · unfold disambiguate firstShared? sharedLabels
    simp only [ascending_eq_foldr]
    decide +kernel
  · rw [← hurls]
    exact disambiguate_perm _ _ (by decide +kernel) (List.reverse_perm urls).symm

end OntoWrap.Naming
