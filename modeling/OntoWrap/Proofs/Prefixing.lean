import Mathlib.Data.List.Nodup
import OntoWrap.Proofs.PropertyOrder

/-!
# Properties that need no prefix

A property is drawn into prefixing if some name of its own is shared: its identifier in the first
round, one of its accessors in the second.  The second round looks at names that the first has
changed, so what keeps a property out of both is a condition on the others in either form
(`Uninvolved`): no other has its identifier, and no other declares one of its accessors, be the
other prefixed or not.  Such a property keeps its own identifier, and if all are such there is
nothing to report (`unprefixed_of_uninvolved`).

A property cannot draw itself in: its getter, setter and adder begin with different words, and these
are kept when they are respelled.
-/
namespace OntoWrap.Naming

variable {declare : String → String} {properties : List PropertyInfo} {p : PropertyInfo}

/-! ## 1. Names that no other property has -/

/-- **A property that no other gets in the way of**: none has its identifier, and none declares one
of its accessors, whether by the identifier that it has by itself or by the one after its
namespace. -/
structure Uninvolved (declare : String → String) (properties : List PropertyInfo)
    (p : PropertyInfo) : Prop where
  identifier : ∀ q ∈ properties, q.iri ≠ p.iri → plainIdentifier q ≠ plainIdentifier p
  accessors : ∀ q ∈ properties, q.iri ≠ p.iri → ∀ prefixed, ∀ x ∈ (namesOf false p).accessors,
    ∀ y ∈ (namesOf prefixed q).accessors, declare y ≠ declare x

/-- A label that one member has once, and no other has, is not shared. -/
theorem isShared_flatMap_eq_false {α : Type} [DecidableEq α] {l : List α} {f : α → List String}
    {a : α} {label : String} (hl : l.Nodup) (ha : a ∈ l) (hfa : (f a).Nodup)
    (hothers : ∀ b ∈ l, b ≠ a → label ∉ f b) : isShared (l.flatMap f) label = false := by
  have hperm : (l.flatMap f).Perm (f a ++ (l.erase a).flatMap f) :=
    (List.perm_cons_erase ha).flatMap_right f
  have hfirst : (f a).count label ≤ 1 := List.nodup_iff_count_le_one.mp hfa label
  have hrest : ((l.erase a).flatMap f).count label = 0 := by
    refine List.count_eq_zero_of_not_mem fun hmem => ?_
    obtain ⟨b, hb, hlabel⟩ := List.mem_flatMap.mp hmem
    obtain ⟨hne, hb⟩ := hl.mem_erase_iff.mp hb
    exact hothers b hb hne hlabel
  rw [isShared, decide_eq_false_iff_not, hperm.count_eq, List.count_append]
  omega

/-! ## 2. Both rounds -/

namespace Uninvolved

/-- **The first round passes it over.** -/
theorem sharesIdentifier_eq_false (h : Uninvolved declare properties p)
    (hiris : (properties.map (·.iri)).Nodup) (hp : p ∈ properties) :
    sharesIdentifier properties p = false := by
  rw [sharesIdentifier, List.map_eq_flatMap]
  refine isShared_flatMap_eq_false hiris.of_map hp (List.nodup_singleton _) fun q hq hne => ?_
  rw [List.mem_singleton]
  exact (h.identifier q hq fun hiri => hne (List.inj_on_of_nodup_map hiris hq hp hiri)).symm

/-- **So does the second**, whatever the first has made of the others. -/
theorem sharesAccessor_eq_false (h : Uninvolved declare properties p) (hkeeps : KeepsVerbs declare)
    (hiris : (properties.map (·.iri)).Nodup) (hp : p ∈ properties) :
    sharesAccessor declare properties p = false := by
  have hfirst : firstNames properties p = namesOf false p := by
    rw [firstNames, h.sharesIdentifier_eq_false hiris hp]
  rw [sharesAccessor, map_fst_firstRound, List.any_eq_false]
  intro x hx
  rw [Bool.not_eq_true]
  rw [hfirst] at hx
  refine isShared_flatMap_eq_false hiris.of_map hp (hkeeps.nodup_accessors _ _)
    fun q hq hne hmem => ?_
  obtain ⟨y, hy, hsame⟩ := List.mem_map.mp hmem
  exact h.accessors q hq
    (fun hiri => hne (List.inj_on_of_nodup_map hiris hq hp hiri)) _ x hx y hy hsame

/-- An uninvolved property has the names of its own identifier in the end. -/
theorem finalNames_eq (h : Uninvolved declare properties p) (hkeeps : KeepsVerbs declare)
    (hiris : (properties.map (·.iri)).Nodup) (hp : p ∈ properties) :
    finalNames declare properties p = namesOf false p := by
  refine finalNames_of_unprefixed ?_
  rw [isPrefixed, h.sharesIdentifier_eq_false hiris hp, h.sharesAccessor_eq_false hkeeps hiris hp]
  rfl

end Uninvolved

/-! ## 3. Nothing to report -/

/-- Properties none of which is involved with another all differ by their own names. -/
theorem nodup_of_uninvolved (h : ∀ p ∈ properties, Uninvolved declare properties p)
    (hkeeps : KeepsVerbs declare) (hiris : (properties.map (·.iri)).Nodup) :
    (properties.map plainIdentifier).Nodup ∧
      (properties.flatMap fun p => (namesOf false p).accessors.map declare).Nodup := by
  have hdistinct : properties.Pairwise fun p q => p.iri ≠ q.iri := List.pairwise_map.mp hiris
  constructor
  · refine List.pairwise_map.mpr (hdistinct.imp_of_mem fun hp hq hne => ?_)
    exact (h _ hq).identifier _ hp hne
  · refine List.nodup_flatMap.mpr ⟨fun p _ => hkeeps.nodup_accessors _ _, ?_⟩
    refine hdistinct.imp_of_mem fun {p q} hp hq hne label hlabel hlabel' => ?_
    obtain ⟨x, hx, rfl⟩ := List.mem_map.mp hlabel
    obtain ⟨y, hy, hsame⟩ := List.mem_map.mp hlabel'
    exact (h p hp).accessors q hq hne.symm false x hx y hy hsame

/-- **Only properties that are involved with others are prefixed.**  Whenever names are given, a
property that no other gets in the way of has those of its own identifier; and if this is so for
every property, names are given and none of them has a prefix. -/
theorem unprefixed_of_uninvolved (onClass : String) (hdeclare : declare = id ∨ declare = snakeCase)
    (hiris : (properties.map (·.iri)).Nodup) :
    (∀ p ∈ properties, Uninvolved declare properties p → ∀ named,
        disambiguate onClass declare properties = .ok named →
          namesUnder? named p.iri = some (.ofIdentifier (plainIdentifier p) p.cardinality)) ∧
      ((∀ p ∈ properties, Uninvolved declare properties p) →
        disambiguate onClass declare properties =
          .ok (properties.map fun p => ⟨p, .ofIdentifier (plainIdentifier p) p.cardinality⟩)) := by
  have hkeeps := keepsVerbs_of_eq hdeclare
  constructor
  · intro p hp h named hok
    obtain ⟨rfl, -, -⟩ := disambiguate_eq_ok_iff.mp hok
    refine (namesUnder?_eq_some_iff (nodup_iri_secondRound declare hiris)).mpr
      ⟨⟨p, finalNames declare properties p⟩, ?_, rfl, ?_⟩
    · rw [secondRound_eq]
      exact List.mem_map_of_mem hp
    · exact h.finalNames_eq hkeeps hiris hp
  · intro h
    have hround : properties.map (fun p => (⟨p, namesOf false p⟩ : NamedProperty)) =
        secondRound declare properties := by
      rw [secondRound_eq]
      refine List.map_congr_left fun p hp => ?_
      rw [(h p hp).finalNames_eq hkeeps hiris hp]
    obtain ⟨hidentifiers, haccessors⟩ := nodup_of_uninvolved h hkeeps hiris
    refine disambiguate_eq_ok_iff.mpr ⟨hround, ?_, ?_⟩
    · rw [List.map_map]
      exact hidentifiers
    · rw [map_fst_declaredAccessors, List.flatMap_map]
      exact haccessors

/-- Two properties whose accessors meet, and a third that meets neither of them. -/
def tagsAndLabel : List PropertyInfo := [
  textProperty "http://x/nao#hasTag" "nao" .unbounded,
  textProperty "http://x/ex#tags" "ex" .one,
  textProperty "http://x/z#label" "z" .one]

theorem unprefixed_of_uninvolved_label :
    (tagsAndLabel.map (·.iri)).Nodup ∧
      (∃ named, disambiguate "http://x/C" snakeCase tagsAndLabel = .ok named ∧
        (namesUnder? named "http://x/ex#tags").map (·.identifier) = some "exTags" ∧
        (namesUnder? named "http://x/z#label").map (·.identifier) = some "label") ∧
      (∀ p ∈ urls, Uninvolved id urls p) ∧
      (disambiguate "http://x/C" id urls).map (·.map (·.names.identifier))
        = .ok ["url", "URL"] := by
  have hiris : (tagsAndLabel.map (·.iri)).Nodup := by decide +kernel
  have hlabel : Uninvolved snakeCase tagsAndLabel (textProperty "http://x/z#label" "z" .one) :=
    ⟨by decide +kernel, by decide +kernel⟩
  have hurls : ∀ p ∈ urls, Uninvolved id urls p := by
    refine List.forall_mem_cons.mpr ⟨⟨by decide +kernel, by decide +kernel⟩, ?_⟩
    exact List.forall_mem_singleton.mpr ⟨by decide +kernel, by decide +kernel⟩
  have hok : disambiguate "http://x/C" snakeCase tagsAndLabel =
      .ok (secondRound snakeCase tagsAndLabel) :=
    disambiguate_eq_ok_iff.mpr ⟨rfl, by decide +kernel, by decide +kernel⟩
  refine ⟨hiris, ⟨_, hok, by decide +kernel, ?_⟩, hurls, ?_⟩
  · have hkept :=
      (unprefixed_of_uninvolved "http://x/C" (.inr rfl) hiris).1 _ (by simp [tagsAndLabel])
        hlabel _ hok
    refine (congrArg (Option.map (·.identifier)) hkept).trans ?_
    decide +kernel
  · rw [(unprefixed_of_uninvolved "http://x/C" (.inl rfl) (by decide +kernel)).2 hurls]
    decide +kernel

end OntoWrap.Naming
