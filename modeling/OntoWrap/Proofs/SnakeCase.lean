import OntoWrap.Proofs.OutputPaths

/-!
# What respelling keeps of a name

Respelling an ASCII name in snake case puts its capitals in lower case and underscores in front of
some of them, and an underscore behind a reserved word.  No other character comes or goes, so the
name can be told from the result but for letter case and underscores, and a second respelling finds
nothing to do (`snakeCase_respells`).  Accessors are such names: two of them are declared under one
name only if they are the same but for letter case and underscores.
-/
namespace OntoWrap.Naming

open Text

/-! ## 1. One character -/

/-- All characters of a name are ASCII. -/
def AsciiName (name : String) : Prop := ∀ c ∈ name.toList, Case.isAscii c = true

instance (name : String) : Decidable (AsciiName name) :=
  List.decidableBAll (Case.isAscii · = true) name.toList

theorem toLower_of_not_isUpper {c : Char} (hc : Case.isAscii c = true)
    (h : Case.isUpper c = false) : c.toLower = c :=
  forall_isAscii (P := fun c => Case.isUpper c = false → c.toLower = c) (by decide +kernel) hc h

theorem isUpper_toLower_eq_false {c : Char} (hc : Case.isAscii c = true) :
    Case.isUpper c.toLower = false :=
  forall_isAscii (P := fun c => Case.isUpper c.toLower = false) (by decide +kernel) hc

/-- **An ASCII character is written in lower case**, with an underscore before it at most. -/
theorem exists_snakeChars_cons {c : Char} (hc : Case.isAscii c = true) (before : Option Char)
    (cs : List Char) : ∃ gap, (gap = [] ∨ gap = ['_']) ∧
      snakeChars before (c :: cs) = gap ++ c.toLower :: snakeChars (some c) cs := by
  rw [snakeChars]
  cases hupper : Case.isUpper c with
  | false => exact ⟨[], .inl rfl, by simp [toLower_of_not_isUpper hc hupper]⟩
  | true =>
    rw [if_pos rfl, Case.lower_of_ascii hc]
    split
    · exact ⟨['_'], .inr rfl, rfl⟩
    · exact ⟨[], .inl rfl, rfl⟩

/-! ## 2. All characters -/

section Characters

variable {cs : List Char}

theorem isUpper_of_mem_snakeChars (h : ∀ c ∈ cs, Case.isAscii c = true) :
    ∀ before, ∀ d ∈ snakeChars before cs, Case.isUpper d = false := by
  induction cs with
  | nil => simp [snakeChars]
  | cons c cs ih =>
    intro before d hd
    obtain ⟨hc, hcs⟩ := List.forall_mem_cons.mp h
    obtain ⟨gap, hgap, hchars⟩ := exists_snakeChars_cons hc before cs
    rw [hchars, List.mem_append, List.mem_cons] at hd
    rcases hd with hd | rfl | hd
    · rcases hgap with rfl | rfl
      · cases hd
      · rw [List.mem_singleton.mp hd]
        decide
    · exact isUpper_toLower_eq_false hc
    · exact ih hcs _ d hd

/-- Underscores apart, the characters are those in lower case. -/
theorem filter_snakeChars (h : ∀ c ∈ cs, Case.isAscii c = true) (before : Option Char) :
    (snakeChars before cs).filter (· != '_') = (cs.map Char.toLower).filter (· != '_') := by
  induction cs generalizing before with
  | nil => rfl
  | cons c cs ih =>
    obtain ⟨hc, hcs⟩ := List.forall_mem_cons.mp h
    obtain ⟨gap, hgap, hchars⟩ := exists_snakeChars_cons hc before cs
    have hdropped : gap.filter (· != '_') = [] := by
      rcases hgap with rfl | rfl
      · rfl
      · rfl
    rw [hchars, List.filter_append, hdropped, List.nil_append, List.map_cons, List.filter_cons,
      List.filter_cons, ih hcs]

/-- Without capitals nothing is respelled. -/
theorem snakeChars_eq_self (h : ∀ c ∈ cs, Case.isUpper c = false) (before : Option Char) :
    snakeChars before cs = cs := by
  induction cs generalizing before with
  | nil => rfl
  | cons c cs ih =>
    obtain ⟨hc, hcs⟩ := List.forall_mem_cons.mp h
    rw [snakeChars, hc, if_neg Bool.false_ne_true, ih hcs, List.singleton_append]

end Characters

/-! ## 3. Names -/

/-- A name with its underscores deleted. -/
def withoutUnderscores (name : String) : String := String.ofList (name.toList.filter (· != '_'))

/-- An escaped name is its own escaped form. -/
theorem escapeReserved_idem (name : String) :
    escapeReserved (escapeReserved name) = escapeReserved name := by
  rw [escapeReserved, if_neg]
  rw [List.contains_iff_mem]
  exact escapeReserved_notMem name

/-- An escape adds an underscore at most. -/
theorem toList_escapeReserved (name : String) :
    (escapeReserved name).toList = name.toList ∨
      (escapeReserved name).toList = name.toList ++ ['_'] := by
  unfold escapeReserved
  split
  · exact .inr (by simp)
  · exact .inl rfl

theorem withoutUnderscores_escapeReserved (name : String) :
    withoutUnderscores (escapeReserved name) = withoutUnderscores name := by
  rw [withoutUnderscores, withoutUnderscores]
  rcases toList_escapeReserved name with h | h
  · rw [h]
  · rw [h, List.filter_append]
    simp

section Names

variable {name other : String}

/-- Names in snake case have no capitals. -/
theorem isUpper_of_mem_snakeCase (h : AsciiName name) :
    ∀ c ∈ (snakeCase name).toList, Case.isUpper c = false := by
  have hsmall := isUpper_of_mem_snakeChars h none
  intro c hc
  rw [snakeCase] at hc
  rcases toList_escapeReserved (String.ofList (snakeChars none name.toList)) with hchars | hchars
  · rw [hchars, String.toList_ofList] at hc
    exact hsmall c hc
  · rw [hchars, String.toList_ofList, List.mem_append, List.mem_singleton] at hc
    rcases hc with hc | rfl
    · exact hsmall c hc
    · decide

/-- **Respelling keeps the letters of a name**, in lower case. -/
theorem withoutUnderscores_snakeCase (h : AsciiName name) :
    withoutUnderscores (snakeCase name) = withoutUnderscores (Case.lowerText name) := by
  rw [snakeCase, withoutUnderscores_escapeReserved, withoutUnderscores, String.toList_ofList,
    filter_snakeChars h, withoutUnderscores, Case.lowerText, String.toList_ofList,
    Case.lowerFrom_of_ascii h]

theorem snakeCase_idem (h : AsciiName name) : snakeCase (snakeCase name) = snakeCase name := by
  have hkept : snakeCase (snakeCase name) = escapeReserved (snakeCase name) := by
    rw [snakeCase, snakeChars_eq_self (isUpper_of_mem_snakeCase h), String.ofList_toList]
  rw [hkept, snakeCase, escapeReserved_idem]

/-- Names that are respelled as one name have the same letters. -/
theorem withoutUnderscores_eq_of_snakeCase_eq (h : AsciiName name) (hother : AsciiName other)
    (hsame : snakeCase name = snakeCase other) :
    withoutUnderscores (Case.lowerText name) = withoutUnderscores (Case.lowerText other) := by
  rw [← withoutUnderscores_snakeCase h, hsame, withoutUnderscores_snakeCase hother]

/-- The name of a getter, a setter or an adder in some plan. -/
def IsAccessor (name : String) : Prop :=
  ∃ (index : Index) (declare : String → String) (c : ClassInfo) (unit : ClassUnit),
    index.plan declare c = .ok unit ∧ ∃ a ∈ unit.accessors, name ∈ a.names.accessors

theorem IsAccessor.asciiName (h : IsAccessor name) : AsciiName name := by
  obtain ⟨index, declare, c, unit, hplan, a, ha, hname⟩ := h
  exact (identifierText_of_plan hplan a ha name hname).isAscii

end Names

/-- **Respelling keeps an ASCII name but for letter case and underscores.**

- A name in snake case has no upper-case letter, it has the letters of the name in lower case once
  all underscores are deleted from both, and it is not changed by a second respelling.
- So names that are respelled as one name are equal but for letter case and underscores.  This goes
  for the accessors of all plans, whatever the IRIs and abbreviations they come from. -/
theorem snakeCase_respells :
    (∀ name, AsciiName name →
      (∀ c ∈ (snakeCase name).toList, Case.isUpper c = false) ∧
      withoutUnderscores (snakeCase name) = withoutUnderscores (Case.lowerText name) ∧
      snakeCase (snakeCase name) = snakeCase name) ∧
    (∀ name other, AsciiName name → AsciiName other → snakeCase name = snakeCase other →
      withoutUnderscores (Case.lowerText name) = withoutUnderscores (Case.lowerText other)) ∧
    ∀ name other, IsAccessor name → IsAccessor other → snakeCase name = snakeCase other →
      withoutUnderscores (Case.lowerText name) = withoutUnderscores (Case.lowerText other) :=
  ⟨fun _ h => ⟨isUpper_of_mem_snakeCase h, withoutUnderscores_snakeCase h, snakeCase_idem h⟩,
    fun _ _ => withoutUnderscores_eq_of_snakeCase_eq,
    fun _ _ h hother => withoutUnderscores_eq_of_snakeCase_eq h.asciiName hother.asciiName⟩

/-- Two classes, each with a property, and the properties are called alike. -/
def homes : Index where
  classes := [⟨"x:Cell", "Cell", none, "x", []⟩, ⟨"x:Phone", "Phone", none, "x", []⟩]
  properties := [
    ⟨"x:homeURL", ["x:Cell"], Vocabulary.xsdString, .one, none, "x"⟩,
    ⟨"x:home_url", ["x:Phone"], Vocabulary.xsdString, .one, none, "x"⟩]

/-- Each class has the getter of its property. -/
theorem isAccessor_homes : IsAccessor "getHomeURL" ∧ IsAccessor "getHome_url" := by
  have hplan : ∀ (c : ClassInfo) (p : PropertyInfo) (names : AccessorNames), c.parents = [] →
      disambiguate c.iri snakeCase (homes.effectiveProperties c) = .ok [⟨p, names⟩] →
      IsAccessor names.getter := by
    intro c p names hparents hnames
    have hancestors : homes.ancestors c = .ok [] := by simp [Index.ancestors, hparents, Index.walk]
    exact ⟨homes, snakeCase, c, _, plan_eq_ok_iff.mpr ⟨[], hancestors, _, hnames, rfl⟩, _,
      List.mem_singleton_self _, List.mem_cons_self⟩
  constructor
  · exact hplan ⟨"x:Cell", "Cell", none, "x", []⟩
      ⟨"x:homeURL", ["x:Cell"], Vocabulary.xsdString, .one, none, "x"⟩
      ⟨"homeURL", "getHomeURL", "setHomeURL", "addHomeURL"⟩ rfl
      (disambiguate_eq_ok_iff.mpr ⟨by decide, by decide, by decide⟩)
  · exact hplan ⟨"x:Phone", "Phone", none, "x", []⟩
      ⟨"x:home_url", ["x:Phone"], Vocabulary.xsdString, .one, none, "x"⟩
      ⟨"home_url", "getHome_url", "setHome_url", "addHome_url"⟩ rfl
      (disambiguate_eq_ok_iff.mpr ⟨by decide, by decide, by decide⟩)

/-- A reserved word is respelled once, and two accessors are declared under one name. -/
theorem snakeCase_respells_homes :
    (AsciiName "Self" ∧ snakeCase "Self" = "self_" ∧
      snakeCase (snakeCase "Self") = snakeCase "Self") ∧
    (AsciiName "homeURL2" ∧ AsciiName "home_Url2" ∧ snakeCase "homeURL2" = snakeCase "home_Url2" ∧
      withoutUnderscores (Case.lowerText "homeURL2")
        = withoutUnderscores (Case.lowerText "home_Url2")) ∧
    IsAccessor "getHomeURL" ∧ IsAccessor "getHome_url" ∧
    snakeCase "getHomeURL" = snakeCase "getHome_url" ∧
    withoutUnderscores (Case.lowerText "getHomeURL") =
      withoutUnderscores (Case.lowerText "getHome_url") := by
  have hself : AsciiName "Self" := by decide
  have hfirst : AsciiName "homeURL2" := by decide
  have hsecond : AsciiName "home_Url2" := by decide
  have hrespelled : snakeCase "homeURL2" = snakeCase "home_Url2" := by decide
  have hdeclared : snakeCase "getHomeURL" = snakeCase "getHome_url" := by decide
  obtain ⟨hgetter, hother⟩ := isAccessor_homes
  exact ⟨⟨hself, by decide, (snakeCase_respells.1 "Self" hself).2.2⟩,
    ⟨hfirst, hsecond, hrespelled, snakeCase_respells.2.1 _ _ hfirst hsecond hrespelled⟩,
    hgetter, hother, hdeclared, snakeCase_respells.2.2 _ _ hgetter hother hdeclared⟩

end OntoWrap.Naming
