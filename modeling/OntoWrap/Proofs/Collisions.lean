import OntoWrap.Proofs.Ascending
import OntoWrap.Proofs.Disambiguation

/-!
# Collisions that are reported

An error of `disambiguate` is justified if the properties it reports meet even when each of them is
prefixed (`Justified`).  Prefixing stops after two rounds, and a property that gets its prefix in
the second may take the name of one that keeps its own.  That is the one case in which an error is
not justified, and the one in which one more prefix would have helped (`collision_justified_iff`).
-/
namespace OntoWrap.Naming

/-! ## 1. Names that meet -/

/-- Names that meet: one identifier, or accessors that are declared alike. -/
def Meet (declare : String → String) (a b : AccessorNames) : Prop :=
  a.identifier = b.identifier ∨ ∃ x ∈ a.accessors, ∃ y ∈ b.accessors, declare x = declare y

instance (declare : String → String) (a b : AccessorNames) : Decidable (Meet declare a b) :=
  inferInstanceAs (Decidable (_ ∨ _))

variable {declare : String → String} {properties : List PropertyInfo} {p q : PropertyInfo}

theorem Meet.symm {a b : AccessorNames} (h : Meet declare a b) : Meet declare b a := by
  rcases h with hidentifier | ⟨x, hx, y, hy, hxy⟩
  · exact .inl hidentifier.symm
  · exact .inr ⟨y, hy, x, hx, hxy.symm⟩

/-- Names meet if a name of one kind is common to them. -/
theorem meet_of_mem {labels : AccessorNames → List String} (h : labels ∈ nameKinds declare)
    {a b : AccessorNames} {name : String} (ha : name ∈ labels a) (hb : name ∈ labels b) :
    Meet declare a b := by
  simp only [nameKinds, List.mem_cons, List.not_mem_nil, or_false] at h
  rcases h with rfl | rfl
  · exact .inl ((List.mem_singleton.mp ha).symm.trans (List.mem_singleton.mp hb))
  · obtain ⟨x, hx, rfl⟩ := List.mem_map.mp ha
    obtain ⟨y, hy, hxy⟩ := List.mem_map.mp hb
    exact .inr ⟨x, hx, y, hy, hxy.symm⟩

/-- Properties whose names meet have an accessor in common: one identifier gives one adder. -/
theorem Meet.accessor {s t : Bool} (h : Meet declare (namesOf s p) (namesOf t q)) :
    ∃ x ∈ (namesOf s p).accessors, ∃ y ∈ (namesOf t q).accessors, declare x = declare y := by
  rcases h with hidentifier | haccessor
  · refine ⟨(namesOf s p).adder, by simp [AccessorNames.accessors], (namesOf t q).adder,
      by simp [AccessorNames.accessors], ?_⟩
    have hadder : (namesOf s p).adder = (namesOf t q).adder :=
      congrArg (fun identifier => "add" ++ upperFirst (displayName identifier .one)) hidentifier
    rw [hadder]
  · exact haccessor

/-! ## 2. The first round -/

/-- A label of two members is shared. -/
theorem isShared_flatMap {α : Type} [DecidableEq α] {l : List α} {f : α → List String} {a b : α}
    {label : String} (ha : a ∈ l) (hb : b ∈ l) (hne : a ≠ b) (hfa : label ∈ f a)
    (hfb : label ∈ f b) : isShared (l.flatMap f) label = true := by
  have hrest : b ∈ l.erase a := (List.mem_erase_of_ne hne.symm).mpr hb
  have hperm : (l.flatMap f).Perm (f a ++ (l.erase a).flatMap f) :=
    (List.perm_cons_erase ha).flatMap_right f
  have hfirst : 0 < (f a).count label := List.count_pos_iff.mpr hfa
  have hsecond : 0 < ((l.erase a).flatMap f).count label :=
    List.count_pos_iff.mpr (List.mem_flatMap.mpr ⟨b, hrest, hfb⟩)
  rw [isShared, decide_eq_true_eq, hperm.count_eq, List.count_append]
  omega

theorem map_fst_firstRound (declare : String → String) (properties : List PropertyInfo) :
    (declaredAccessors declare (firstRound properties)).map (·.1)
      = properties.flatMap fun p => (firstNames properties p).accessors.map declare := by
  rw [map_fst_declaredAccessors, firstRound_eq, List.flatMap_map]

theorem isPrefixed_of_sharesAccessor (h : sharesAccessor declare properties p = true) :
    isPrefixed declare properties p = true := by
  rw [isPrefixed, h, Bool.or_true]

/-- **A property that is never prefixed meets no other after the first round.** -/
theorem not_meet_of_unprefixed (hp : p ∈ properties) (hq : q ∈ properties) (hne : p ≠ q)
    (hplain : isPrefixed declare properties q = false) :
    ¬ Meet declare (firstNames properties p) (firstNames properties q) := by
  intro hmeet
  obtain ⟨x, hx, y, hy, hxy⟩ := hmeet.accessor
  have hshared : sharesAccessor declare properties q = true := by
    refine List.any_eq_true.mpr ⟨y, hy, ?_⟩
    rw [map_fst_firstRound]
    exact isShared_flatMap hp hq hne (List.mem_map.mpr ⟨x, hx, hxy⟩) (List.mem_map_of_mem hy)
  rw [isPrefixed_of_sharesAccessor hshared] at hplain
  cases hplain

/-- What meets a property that is never prefixed got its own prefix in the second round. -/
theorem late_of_meet_unprefixed (hp : p ∈ properties) (hq : q ∈ properties) (hne : p ≠ q)
    (hplain : isPrefixed declare properties q = false)
    (hmeet : Meet declare (finalNames declare properties p) (finalNames declare properties q)) :
    sharesIdentifier properties p = false ∧ sharesAccessor declare properties p = true := by
  have hapart := not_meet_of_unprefixed hp hq hne hplain
  have hq' : sharesIdentifier properties q = false := by
    rw [isPrefixed, Bool.or_eq_false_iff] at hplain
    exact hplain.1
  have hfinal : finalNames declare properties q = firstNames properties q := by
    rw [finalNames, firstNames, hplain, hq']
  have hchanged : finalNames declare properties p ≠ firstNames properties p := by
    intro hsame
    rw [hfinal, hsame] at hmeet
    exact hapart hmeet
  cases hearly : sharesIdentifier properties p with
  | true =>
    refine absurd ?_ hchanged
    rw [finalNames, firstNames, isPrefixed, hearly, Bool.true_or]
  | false =>
    refine ⟨rfl, ?_⟩
    by_contra hlate
    rw [Bool.not_eq_true] at hlate
    refine hchanged ?_
    rw [finalNames, firstNames, isPrefixed, hearly, hlate, Bool.or_false]

/-! ## 3. What is reported -/

/-- The properties that an error reports. -/
def Collision.reported (collision : Collision) (properties : List PropertyInfo) :
    List PropertyInfo :=
  properties.filter fun p => collision.properties.contains p.iri

theorem Collision.mem_reported {collision : Collision} :
    p ∈ collision.reported properties ↔ p ∈ properties ∧ p.iri ∈ collision.properties := by
  rw [reported, List.mem_filter, List.contains_iff_mem]

/-- No property has a name of one kind twice. -/
theorem nodup_of_mem_nameKinds (hkeeps : KeepsVerbs declare) {labels : AccessorNames → List String}
    (h : labels ∈ nameKinds declare) (prefixed : Bool) (p : PropertyInfo) :
    (labels (namesOf prefixed p)).Nodup := by
  simp only [nameKinds, List.mem_cons, List.not_mem_nil, or_false] at h
  rcases h with rfl | rfl
  · exact List.nodup_singleton _
  · exact hkeeps.nodup_accessors _ _

/-- Filtering by a predicate is filtering by the keys of what it keeps, if the keys differ. -/
theorem filter_contains_map {α β : Type} [BEq β] [LawfulBEq β] {l : List α} {key : α → β}
    (hkeys : (l.map key).Nodup) (keep : α → Bool) :
    l.filter (fun a => ((l.filter keep).map key).contains (key a)) = l.filter keep := by
  refine List.filter_congr fun a ha => ?_
  rw [Bool.eq_iff_iff, List.contains_iff_mem, List.mem_map]
  constructor
  · rintro ⟨b, hb, hkey⟩
    obtain ⟨hb, hkeep⟩ := List.mem_filter.mp hb
    obtain rfl : b = a := List.inj_on_of_nodup_map hkeys hb ha hkey
    exact hkeep
  · intro hkeep
    exact ⟨a, List.mem_filter.mpr ⟨ha, hkeep⟩, rfl⟩

/-- **An error reports properties that meet in the end**, each once and two at least. -/
theorem collision_reported {onClass : String} {collision : Collision}
    (hkeeps : KeepsVerbs declare) (hiris : (properties.map (·.iri)).Nodup)
    (herror : disambiguate onClass declare properties = .error collision) :
    collision.properties = (collision.reported properties).map (·.iri) ∧
      1 < (collision.reported properties).length ∧
      ∀ a ∈ collision.reported properties, ∀ b ∈ collision.reported properties,
        Meet declare (finalNames declare properties a) (finalNames declare properties b) := by
  obtain ⟨name, iris, hshared, rfl⟩ : ∃ name iris,
      firstShared? declare (secondRound declare properties) = some (name, iris) ∧
        collision = ⟨onClass, name, iris⟩ := by
    rw [disambiguate] at herror
    split at herror
    · rename_i name iris hshared
      cases herror
      exact ⟨name, iris, hshared, rfl⟩
    · cases herror
  obtain ⟨labels, hlabels, rfl, hlength⟩ := exists_of_firstShared? hshared
  have hnodup : ∀ n ∈ secondRound declare properties, (labels n.names).Nodup := by
    intro n hn
    obtain ⟨prefixed, hnames⟩ := exists_of_mem_secondRound hn
    rw [hnames]
    exact nodup_of_mem_nameKinds hkeeps hlabels prefixed n.property
  have howners : owners (labelledBy labels (secondRound declare properties)) name
      = (properties.filter fun p =>
          (labels (finalNames declare properties p)).contains name).map (·.iri) := by
    rw [owners_labelledBy hnodup, secondRound_eq, List.filter_map, List.map_map]
    rfl
  rw [howners] at hlength ⊢
  have hreported := filter_contains_map hiris fun p =>
    (labels (finalNames declare properties p)).contains name
  rw [Collision.reported, hreported]
  refine ⟨rfl, by rwa [List.length_map] at hlength, fun a ha b hb => ?_⟩
  have hname : name ∈ labels (finalNames declare properties a) :=
    List.contains_iff_mem.mp (List.mem_filter.mp ha).2
  have hname' : name ∈ labels (finalNames declare properties b) :=
    List.contains_iff_mem.mp (List.mem_filter.mp hb).2
  exact meet_of_mem hlabels hname hname'

/-! ## 4. Which errors are justified -/

section Justification

variable (declare : String → String) (properties : List PropertyInfo) (collision : Collision)

/-- Two reported properties meet even when each of them is prefixed. -/
def Justified : Prop :=
  ∃ a ∈ collision.reported properties, ∃ b ∈ collision.reported properties,
    a ≠ b ∧ Meet declare (namesOf true a) (namesOf true b)

instance : Decidable (Justified declare properties collision) :=
  inferInstanceAs (Decidable (∃ a ∈ collision.reported properties, _))

/-- Only two properties are reported: the second round gives `late` a name that `plain` has by
itself, and `plain` is never prefixed. -/
structure TakesName (late plain : PropertyInfo) : Prop where
  reported : (collision.reported properties).Perm [late, plain]
  late_second : sharesIdentifier properties late = false ∧
    sharesAccessor declare properties late = true
  plain_never : isPrefixed declare properties plain = false
  meet : Meet declare (namesOf true late) (namesOf false plain)

/-- ...although a prefix would tell `plain` from `late`. -/
structure Overlooked (late plain : PropertyInfo) : Prop
    extends TakesName declare properties collision late plain where
  apart : ¬ Meet declare (namesOf true late) (namesOf true plain)

/-- A reported property without a prefix with which no reported ones would meet. -/
structure Curable (p : PropertyInfo) : Prop where
  reported : p ∈ collision.reported properties
  unprefixed : isPrefixed declare properties p = false
  apart : ∀ a ∈ collision.reported properties, ∀ b ∈ collision.reported properties, a ≠ b →
    ¬ Meet declare (namesOf (isPrefixed declare properties a || a == p) a)
      (namesOf (isPrefixed declare properties b || b == p) b)

end Justification

variable {collision : Collision} {late plain : PropertyInfo}

theorem finalNames_of_prefixed (h : isPrefixed declare properties p = true) :
    finalNames declare properties p = namesOf true p := by
  rw [finalNames, h]

theorem finalNames_of_unprefixed (h : isPrefixed declare properties p = false) :
    finalNames declare properties p = namesOf false p := by
  rw [finalNames, h]

theorem nodup_reported (hiris : (properties.map (·.iri)).Nodup) (collision : Collision) :
    (collision.reported properties).Nodup :=
  hiris.of_map.filter _

theorem TakesName.late_prefixed (h : TakesName declare properties collision late plain) :
    isPrefixed declare properties late = true :=
  isPrefixed_of_sharesAccessor h.late_second.2

theorem TakesName.ne (h : TakesName declare properties collision late plain)
    (hiris : (properties.map (·.iri)).Nodup) : late ≠ plain := by
  have hpair := h.reported.nodup_iff.mp (nodup_reported hiris collision)
  rintro rfl
  simp at hpair

/-- Two different reported properties are `late` and `plain`. -/
theorem TakesName.eq_and_eq (h : TakesName declare properties collision late plain)
    (hp : p ∈ collision.reported properties) (hq : q ∈ collision.reported properties)
    (hne : p ≠ q) : p = late ∧ q = plain ∨ p = plain ∧ q = late := by
  have hone : ∀ r ∈ collision.reported properties, r = late ∨ r = plain := by
    intro r hr
    simpa using h.reported.mem_iff.mp hr
  rcases hone p hp with rfl | rfl
  · exact .inl ⟨rfl, (hone q hq).resolve_left hne.symm⟩
  · exact .inr ⟨rfl, (hone q hq).resolve_right hne.symm⟩

theorem TakesName.late_mem (h : TakesName declare properties collision late plain) :
    late ∈ collision.reported properties :=
  h.reported.mem_iff.mpr List.mem_cons_self

theorem TakesName.plain_mem (h : TakesName declare properties collision late plain) :
    plain ∈ collision.reported properties :=
  h.reported.mem_iff.mpr (List.mem_cons_of_mem _ List.mem_cons_self)

/-- **A reported property without a prefix** meets a single one that took its name, or two others
that are prefixed. -/
theorem takesName_or_two {onClass : String} (hkeeps : KeepsVerbs declare)
    (hiris : (properties.map (·.iri)).Nodup)
    (herror : disambiguate onClass declare properties = .error collision)
    (hmem : plain ∈ collision.reported properties)
    (hplain : isPrefixed declare properties plain = false) :
    (∃ late, TakesName declare properties collision late plain) ∨
      ∃ a ∈ collision.reported properties, ∃ b ∈ collision.reported properties,
        a ≠ b ∧ (a ≠ plain ∧ isPrefixed declare properties a = true) ∧
          (b ≠ plain ∧ isPrefixed declare properties b = true) := by
  obtain ⟨-, hlength, hmeet⟩ := collision_reported hkeeps hiris herror
  have hnodup := nodup_reported hiris collision
  have hlate : ∀ a ∈ (collision.reported properties).erase plain,
      a ∈ collision.reported properties ∧ a ≠ plain ∧ sharesIdentifier properties a = false ∧
        sharesAccessor declare properties a = true := by
    intro a ha
    obtain ⟨hne, ha⟩ := hnodup.mem_erase_iff.mp ha
    exact ⟨ha, hne, late_of_meet_unprefixed (Collision.mem_reported.mp ha).1
      (Collision.mem_reported.mp hmem).1 hne hplain (hmeet a ha plain hmem)⟩
  have hperm := List.perm_cons_erase hmem
  have hothers := hnodup.erase plain
  -- One other property took the name; two others are both prefixed.
  cases hrest : (collision.reported properties).erase plain with
  | nil =>
    rw [hrest] at hperm
    rw [hperm.length_eq] at hlength
    simp at hlength
  | cons late rest =>
    rw [hrest] at hperm hlate hothers
    obtain ⟨hin, hne, hsecond⟩ := hlate late List.mem_cons_self
    have hprefixed := isPrefixed_of_sharesAccessor hsecond.2
    cases rest with
    | nil =>
      have hfinal := hmeet late hin plain hmem
      rw [finalNames_of_prefixed hprefixed, finalNames_of_unprefixed hplain] at hfinal
      exact .inl ⟨late, hperm.trans (List.Perm.swap late plain []), hsecond, hplain, hfinal⟩
    | cons other rest =>
      obtain ⟨hin', hne', hsecond'⟩ := hlate other (List.mem_cons_of_mem _ List.mem_cons_self)
      have hprefixed' := isPrefixed_of_sharesAccessor hsecond'.2
      have hdistinct : late ≠ other := by
        rintro rfl
        simp at hothers
      exact .inr ⟨late, hin, other, hin', hdistinct, ⟨hne, hprefixed⟩, hne', hprefixed'⟩

theorem Overlooked.not_justified (h : Overlooked declare properties collision late plain) :
    ¬ Justified declare properties collision := by
  rintro ⟨a, ha, b, hb, hne, hmeet⟩
  rcases h.eq_and_eq ha hb hne with ⟨rfl, rfl⟩ | ⟨rfl, rfl⟩
  · exact h.apart hmeet
  · exact h.apart hmeet.symm

theorem Overlooked.curable (h : Overlooked declare properties collision late plain) :
    Curable declare properties collision plain := by
  have hlate : (isPrefixed declare properties late || late == plain) = true := by
    rw [h.late_prefixed, Bool.true_or]
  have hplain : (isPrefixed declare properties plain || plain == plain) = true := by
    rw [beq_self_eq_true, Bool.or_true]
  refine ⟨h.plain_mem, h.plain_never, fun a ha b hb hne hmeet => ?_⟩
  rcases h.eq_and_eq ha hb hne with ⟨rfl, rfl⟩ | ⟨rfl, rfl⟩
  · rw [hlate, hplain] at hmeet
    exact h.apart hmeet
  · rw [hlate, hplain] at hmeet
    exact h.apart hmeet.symm

/-- An error that is not justified overlooks a property. -/
theorem exists_overlooked_of_not_justified {onClass : String} (hkeeps : KeepsVerbs declare)
    (hiris : (properties.map (·.iri)).Nodup)
    (herror : disambiguate onClass declare properties = .error collision)
    (hnot : ¬ Justified declare properties collision) :
    ∃ late plain, Overlooked declare properties collision late plain := by
  obtain ⟨-, hlength, hmeet⟩ := collision_reported hkeeps hiris herror
  have hpair : ∀ a ∈ collision.reported properties, ∀ b ∈ collision.reported properties, a ≠ b →
      isPrefixed declare properties a = true → isPrefixed declare properties b = false := by
    intro a ha b hb hne hprefixed
    by_contra hboth
    rw [Bool.not_eq_false] at hboth
    have hfinal := hmeet a ha b hb
    rw [finalNames_of_prefixed hprefixed, finalNames_of_prefixed hboth] at hfinal
    exact hnot ⟨a, ha, b, hb, hne, hfinal⟩
  obtain ⟨plain, hmem, hplain⟩ :
      ∃ plain ∈ collision.reported properties, isPrefixed declare properties plain = false := by
    have hnodup := nodup_reported hiris collision
    match hreported : collision.reported properties, hlength with
    | a :: b :: rest, _ =>
      rw [hreported] at hpair hnodup
      have hne : a ≠ b := by
        rintro rfl
        simp at hnodup
      cases hprefixed : isPrefixed declare properties a with
      | false => exact ⟨a, List.mem_cons_self, hprefixed⟩
      | true =>
        exact ⟨b, List.mem_cons_of_mem _ List.mem_cons_self, hpair a List.mem_cons_self b
          (List.mem_cons_of_mem _ List.mem_cons_self) hne hprefixed⟩
  rcases takesName_or_two hkeeps hiris herror hmem hplain with ⟨late, htakes⟩ | htwo
  · refine ⟨late, plain, htakes, fun hboth => hnot ?_⟩
    exact ⟨late, htakes.late_mem, plain, htakes.plain_mem, htakes.ne hiris, hboth⟩
  · obtain ⟨a, ha, b, hb, hne, ⟨-, hprefixed⟩, -, hprefixed'⟩ := htwo
    exact absurd (hpair a ha b hb hne hprefixed) (by simp [hprefixed'])

/-- A property that a prefix would have helped is overlooked. -/
theorem Curable.overlooked {onClass : String} (hkeeps : KeepsVerbs declare)
    (hiris : (properties.map (·.iri)).Nodup)
    (herror : disambiguate onClass declare properties = .error collision)
    (h : Curable declare properties collision plain) :
    ∃ late, Overlooked declare properties collision late plain := by
  rcases takesName_or_two hkeeps hiris herror h.reported h.unprefixed with ⟨late, htakes⟩ | htwo
  · have hapart := h.apart late htakes.late_mem plain htakes.plain_mem (htakes.ne hiris)
    rw [htakes.late_prefixed, Bool.true_or, beq_self_eq_true, Bool.or_true] at hapart
    exact ⟨late, htakes, hapart⟩
  · obtain ⟨a, ha, b, hb, hne, ⟨-, hprefixed⟩, -, hprefixed'⟩ := htwo
    have hapart := h.apart a ha b hb hne
    rw [hprefixed, hprefixed', Bool.true_or, Bool.true_or] at hapart
    obtain ⟨-, -, hmeet⟩ := collision_reported hkeeps hiris herror
    have hfinal := hmeet a ha b hb
    rw [finalNames_of_prefixed hprefixed, finalNames_of_prefixed hprefixed'] at hfinal
    exact absurd hfinal hapart

/-- **An error is justified unless the second round overlooks a property**, and then, and only then,
one more prefix would have told the reported properties apart. -/
theorem collision_justified_iff {onClass : String} (hdeclare : declare = id ∨ declare = snakeCase)
    (hiris : (properties.map (·.iri)).Nodup)
    (herror : disambiguate onClass declare properties = .error collision) :
    (Justified declare properties collision ↔
        ¬ ∃ late plain, Overlooked declare properties collision late plain) ∧
      ((∃ p, Curable declare properties collision p) ↔
        ∃ late plain, Overlooked declare properties collision late plain) := by
  have hkeeps := keepsVerbs_of_eq hdeclare
  refine ⟨⟨?_, ?_⟩, ?_, ?_⟩
  · rintro hjustified ⟨late, plain, hoverlooked⟩
    exact hoverlooked.not_justified hjustified
  · intro hnone
    by_contra hnot
    exact hnone (exists_overlooked_of_not_justified hkeeps hiris herror hnot)
  · rintro ⟨plain, hcurable⟩
    obtain ⟨late, hoverlooked⟩ := hcurable.overlooked hkeeps hiris herror
    exact ⟨late, plain, hoverlooked⟩
  · rintro ⟨late, plain, hoverlooked⟩
    exact ⟨plain, hoverlooked.curable⟩

/-- Two properties with one identifier up to punctuation, from one namespace. -/
def prefLabels : List PropertyInfo := [
  textProperty "http://x/ex#pref-label" "ex" .one,
  textProperty "http://x/ex#pref_label" "ex" .one]

/-- The error for `prefLabels`. -/
def prefLabelsCollision : Collision where
  onClass := "http://x/C"
  identifier := "exPref_label"
  properties := ["http://x/ex#pref-label", "http://x/ex#pref_label"]

theorem collision_justified_prefLabels :
    disambiguate "http://x/C" id prefLabels = .error prefLabelsCollision ∧
      Justified id prefLabels prefLabelsCollision ∧
      ¬ ∃ p, Curable id prefLabels prefLabelsCollision p := by
  have herror : disambiguate "http://x/C" id prefLabels = .error prefLabelsCollision := by
    unfold disambiguate firstShared? sharedLabels
    simp only [ascending_eq_foldr]
    decide +kernel
  have hjustified : Justified id prefLabels prefLabelsCollision := by decide +kernel
  obtain ⟨hiff, hcurable⟩ := collision_justified_iff (.inl rfl) (by decide +kernel) herror
  exact ⟨herror, hjustified, mt hcurable.mp (hiff.mp hjustified)⟩

/-- Two properties whose accessors meet, and a third that has the prefixed name of the second. -/
def tags : List PropertyInfo := [
  textProperty "http://x/nao#hasTag" "nao" .unbounded,
  textProperty "http://x/ex#tags" "ex" .one,
  textProperty "http://x/z#exTags" "z" .one]

/-- The error for `tags`. -/
def tagsCollision : Collision where
  onClass := "http://x/C"
  identifier := "exTags"
  properties := ["http://x/ex#tags", "http://x/z#exTags"]

/-- **Not every error is justified.**  `ex#tags` becomes `exTags` because its getter is that of
`nao#hasTag`, and `z#exTags` would become `zExTags` if the rounds went on. -/
theorem collision_unjustified_tags :
    disambiguate "http://x/C" id tags = .error tagsCollision ∧
      ¬ Justified id tags tagsCollision ∧
      Curable id tags tagsCollision (textProperty "http://x/z#exTags" "z" .one) := by
  refine ⟨?_, by decide +kernel, by decide +kernel, by decide +kernel, by decide +kernel⟩
  unfold disambiguate firstShared? sharedLabels
  simp only [ascending_eq_foldr]
  decide +kernel

end OntoWrap.Naming
