import OntoWrap.Proofs.RustTagging

/-!
# Legal names in the Rust output

A name may stand in Rust as it is if it is shaped like an identifier, is not the underscore alone,
and is no keyword (`Legal`).  All names in the output are shaped (`Shaped`), since they come from
sanitized texts, and all are escaped; but the words that are escaped are not all keywords.
`overlooked` lists what is left: the underscore and the keywords that are reserved without being
used.  Methods are never among them, as they begin with a verb.  So all names are legal exactly if
no namespace and no class, in lower case, is called as one of these words (`legal_names_iff`).
-/
namespace OntoWrap.Rust

open Naming Text Text.Source

/-! ## 1. Legal names -/

/-- Names shaped like an identifier: ASCII letters, digits and underscores, with no digit in
front. -/
structure Shaped (name : String) : Prop where
  identifier : IdentifierText name
  start : ∃ c, name.toList.head? = some c ∧ c.isDigit = false

theorem shaped_iff {name : String} : Shaped name ↔
    IdentifierText name ∧ ∃ c, name.toList.head? = some c ∧ c.isDigit = false :=
  ⟨fun h => ⟨h.identifier, h.start⟩, fun h => ⟨h.1, h.2⟩⟩

/-- The keywords of Rust 2021 that are in use. -/
def strictKeywords : List String := [
  "as", "async", "await", "break", "const", "continue", "crate", "dyn", "else", "enum", "extern",
  "false", "fn", "for", "if", "impl", "in", "let", "loop", "match", "mod", "move", "mut", "pub",
  "ref", "return", "self", "Self", "static", "struct", "super", "trait", "true", "type", "unsafe",
  "use", "where", "while"]

/-- The keywords of Rust 2021 that are reserved for later use. -/
def reservedKeywords : List String := [
  "abstract", "become", "box", "do", "final", "macro", "override", "priv", "try", "typeof",
  "unsized", "virtual", "yield"]

/-- Names that may stand as they are. -/
structure Legal (name : String) : Prop where
  shaped : Shaped name
  ne_underscore : name ≠ "_"
  no_keyword : name ∉ strictKeywords ++ reservedKeywords

instance (name : String) : Decidable (Shaped name) :=
  decidable_of_iff (IdentifierText name ∧ name.toList.head?.any (!·.isDigit) = true) <| by
    simp [shaped_iff, Option.any_eq_true]

instance (name : String) : Decidable (Legal name) :=
  decidable_of_iff (Shaped name ∧ name ≠ "_" ∧ name ∉ strictKeywords ++ reservedKeywords)
    ⟨fun ⟨hshaped, hunderscore, hkeyword⟩ => ⟨hshaped, hunderscore, hkeyword⟩,
      fun ⟨hshaped, hunderscore, hkeyword⟩ => ⟨hshaped, hunderscore, hkeyword⟩⟩

/-- The names that may not stand as they are and that are not escaped. -/
def overlooked : List String := [
  "_", "abstract", "become", "do", "final", "macro", "override", "priv", "try", "typeof", "unsized",
  "virtual"]

/-- **Of the names that are escaped, those that are overlooked are illegal**, and no others. -/
theorem legal_iff {name : String} (hshaped : Shaped name) (hescaped : name ∉ reservedWords) :
    Legal name ↔ name ∉ overlooked := by
  have hkeywords : ∀ word ∈ strictKeywords ++ reservedKeywords,
      word ∈ reservedWords ∨ word ∈ overlooked := by decide +kernel
  have hoverlooked : ∀ word ∈ overlooked,
      word = "_" ∨ word ∈ strictKeywords ++ reservedKeywords := by
    decide +kernel
  constructor
  · rintro ⟨-, hunderscore, hkeyword⟩ hmem
    rcases hoverlooked name hmem with rfl | hmem
    · exact hunderscore rfl
    · exact hkeyword hmem
  · intro hfree
    refine ⟨hshaped, ?_, fun hmem => ?_⟩
    · rintro rfl
      exact hfree (by decide)
    · rcases hkeywords name hmem with hmem | hmem
      · exact hescaped hmem
      · exact hfree hmem

/-- Escaping neither makes a name one of those that are overlooked nor keeps it from being one. -/
theorem escapeReserved_mem_overlooked_iff {name : String} :
    escapeReserved name ∈ overlooked ↔ name ∈ overlooked := by
  have hescaped : ∀ word ∈ reservedWords, word ++ "_" ∉ overlooked ∧ word ∉ overlooked := by
    decide +kernel
  unfold escapeReserved
  split
  · rename_i hword
    obtain ⟨hlonger, hplain⟩ := hescaped name (List.contains_iff_mem.mp hword)
    simp [hlonger, hplain]
  · rfl

/-! ## 2. The shape of names -/

theorem shaped_sanitize (s : String) : Shaped (sanitize s) where
  identifier := identifierText_sanitize s
  start := by
    rw [sanitize, String.toList_ofList, sanitizeChars]
    unfold guardStart
    split
    · exact ⟨'_', rfl, rfl⟩
    · rename_i c rest _
      split
      · exact ⟨'_', rfl, rfl⟩
      · rename_i hdigit
        exact ⟨c, rfl, by simpa using hdigit⟩

theorem Shaped.escapeReserved {name : String} (h : Shaped name) : Shaped (escapeReserved name) where
  identifier := h.identifier.escapeReserved
  start := by
    obtain ⟨c, hc, hdigit⟩ := h.start
    refine ⟨c, ?_, hdigit⟩
    unfold Naming.escapeReserved
    split
    · rw [String.toList_append, List.head?_append, hc]
      rfl
    · exact hc

theorem Shaped.lowerText {name : String} (h : Shaped name) : Shaped (Case.lowerText name) where
  identifier := h.identifier.lowerText
  start := by
    obtain ⟨c, hc, hdigit⟩ := h.start
    have hascii : Case.isAscii c = true := h.identifier.isAscii c (List.mem_of_head? hc)
    refine ⟨c.toLower, by rw [h.identifier.toList_lowerText, List.head?_map, hc]; rfl, ?_⟩
    exact forall_isAscii (P := fun c => c.isDigit = false → c.toLower.isDigit = false)
      (by decide) hascii hdigit

/-- **Accessors are legal as they are respelled**: no keyword begins with one of their verbs. -/
theorem legal_snakeCase {identifier : String} {cardinality : Cardinality} {a : String}
    (htext : IdentifierText a)
    (ha : a ∈ (AccessorNames.ofIdentifier identifier cardinality).accessors) :
    Legal (snakeCase a) := by
  obtain ⟨verb, hverb, rest, rfl⟩ := exists_verb_of_mem_accessors ha
  have hprefix := keepsVerbs_snakeCase verb hverb rest
  have hstarts : ∀ verb ∈ verbs, Shaped verb := by decide
  have hapart : ∀ verb ∈ verbs, ∀ word ∈ "_" :: (strictKeywords ++ reservedKeywords),
      ¬ verb.toList <+: word.toList := by decide +kernel
  have hother : snakeCase (verb ++ rest) ∉ "_" :: (strictKeywords ++ reservedKeywords) :=
    fun hmem => hapart verb hverb _ hmem hprefix
  obtain ⟨hunderscore, hkeyword⟩ := List.ne_and_not_mem_of_not_mem_cons hother
  obtain ⟨c, hc, hdigit⟩ := (hstarts verb hverb).start
  obtain ⟨more, hmore⟩ := hprefix
  refine ⟨⟨htext.snakeCase, c, ?_, hdigit⟩, hunderscore, hkeyword⟩
  rw [← hmore, List.head?_append, hc]
  rfl

/-! ## 3. The names in the output -/

/-- The name of a class file in the folder of its path. -/
def stemIn? (path : String) : Option String := between? (enclosing path ++ "/") ".rs" path

/-- **The names that an output declares**: the modules of namespaces and of classes in the index
files, the folders and the class files in the paths, and in the class files the structs and the
methods. -/
inductive Declares (runtime : String) (rendering : Rendering) : String → Prop
  | namespaceModule {module : String} : module ∈ submodules (linesAt rendering "mod.rs") →
      Declares runtime rendering module
  | classModule {module stem : String} : module ∈ submodules (linesAt rendering "mod.rs") →
      stem ∈ submodules (linesAt rendering (Path.join module "mod.rs")) →
      Declares runtime rendering stem
  | folder {unit : ClassUnit} : unit ∈ rendering.units →
      Declares runtime rendering (enclosing (relativePath unit.self))
  | stem {unit : ClassUnit} {name : String} : unit ∈ rendering.units →
      stemIn? (relativePath unit.self) = some name → Declares runtime rendering name
  | struct {unit : ClassUnit} {name : String} : unit ∈ rendering.units →
      name ∈ structs (classLines runtime unit) → Declares runtime rendering name
  | method {unit : ClassUnit} {name : String} : unit ∈ rendering.units →
      name ∈ declaredMethods (implLines runtime unit) → Declares runtime rendering name

section Rendered

variable {store : Store} {runtime : String} {rendering : Rendering} {unit : ClassUnit}
  {name : String}

/-- The class of a plan is shaped by its IRI and its abbreviation. -/
theorem shaped_self (h : renderAll (Index.ofStore store) (renderer runtime) = .ok rendering)
    (hunit : unit ∈ rendering.units) : Shaped unit.self.name ∧ Shaped unit.self.group := by
  obtain ⟨c, chain, hplan⟩ := exists_planOf_of_mem h hunit
  rw [hplan.self]
  exact ⟨shaped_sanitize _, shaped_sanitize _⟩

/-- **Methods are legal.** -/
theorem legal_of_mem_methods
    (h : renderAll (Index.ofStore store) (renderer runtime) = .ok rendering)
    (hunit : unit ∈ rendering.units) (hname : name ∈ declaredMethods (implLines runtime unit)) :
    Legal name := by
  have htext := identifierText_of_mem_units h hunit
  rw [implLines_eq, declaredMethods_struct unit htext, List.mem_append] at hname
  rcases hname with hfixed | haccessor
  · have hlegal : ∀ name ∈ fixedMethods, Legal name := by decide +kernel
    exact hlegal name hfixed
  · obtain ⟨a, ha, hmem⟩ := List.mem_flatMap.mp haccessor
    obtain ⟨accessor, haccessor, rfl⟩ := List.mem_map.mp hmem
    obtain ⟨c, -, hplan⟩ := exists_class_of_renderAll h hunit
    have hnames := ha
    rw [accessors_of_plan hplan] at hnames
    obtain ⟨p, -, rfl⟩ := List.mem_map.mp hnames
    exact legal_snakeCase (htext _ ha accessor haccessor) haccessor

theorem stemIn?_relativePath {r : ClassRef} (h : r.WellNamed) :
    stemIn? (relativePath r) = some (fileStem r) := by
  rw [stemIn?, between?_eq_some_iff, enclosing_relativePath h, relativePath,
    join_eq (smallName_moduleName h) (smallName_fileStem h)]
  simp only [String.append_assoc]

/-- **The declared names** are, besides methods, those of the namespace, the file and the struct of
each class. -/
theorem declares_iff (h : renderAll (Index.ofStore store) (renderer runtime) = .ok rendering) :
    Declares runtime rendering name ↔ ∃ unit ∈ rendering.units,
      name = moduleName unit.self.group ∨ name = fileStem unit.self ∨ name = typeName unit.self ∨
        name ∈ declaredMethods (implLines runtime unit) := by
  constructor
  · intro hdeclares
    cases hdeclares with
    | namespaceModule hmodule =>
      rw [submodules_linesAt_root h] at hmodule
      obtain ⟨u, hu, rfl⟩ := mem_modulesOf_iff.mp hmodule
      exact ⟨u, hu, .inl rfl⟩
    | @classModule module stem hmodule hstem =>
      rw [submodules_linesAt_root h] at hmodule
      obtain ⟨u, hu, hname⟩ := mem_modulesOf_iff.mp hmodule
      rw [(read_linesAt_module h hu hname).1] at hstem
      obtain ⟨entry, hentry, rfl⟩ := List.mem_map.mp hstem
      obtain ⟨r, hr, rfl⟩ := List.mem_map.mp ((perm_moduleEntries _).mem_iff.mp hentry)
      obtain ⟨v, hv, -, rfl⟩ := mem_classesOf_iff.mp hr
      exact ⟨v, hv, .inr (.inl rfl)⟩
    | @folder u hu =>
      exact ⟨u, hu, .inl (enclosing_relativePath (wellNamed_self h hu))⟩
    | @stem u name hu hname =>
      rw [stemIn?_relativePath (wellNamed_self h hu)] at hname
      exact ⟨u, hu, .inr (.inl (Option.some.inj hname).symm)⟩
    | @struct u name hu hname =>
      rw [structs_classLines, List.mem_singleton] at hname
      exact ⟨u, hu, .inr (.inr (.inl hname))⟩
    | @method u name hu hname => exact ⟨u, hu, .inr (.inr (.inr hname))⟩
  · rintro ⟨u, hu, rfl | rfl | rfl | hname⟩
    · rw [← enclosing_relativePath (wellNamed_self h hu)]
      exact .folder hu
    · exact .stem hu (stemIn?_relativePath (wellNamed_self h hu))
    · exact .struct hu (by rw [structs_classLines]; exact List.mem_singleton_self _)
    · exact .method hu hname

end Rendered

/-! ## 4. Which names are legal -/

/-- The words that are overlooked have no capitals. -/
theorem lowerText_of_mem_overlooked {name : String} (h : name ∈ overlooked) :
    Case.lowerText name = name := by
  have hall : (overlooked.all fun word =>
      word.toList.all fun c => Case.isAscii c && !c.isUpper) = true := by decide +kernel
  have hsmall := List.all_eq_true.mp (List.all_eq_true.mp hall name h)
  exact lowerText_eq_self fun c hc => by simpa using hsmall c hc

/-- **Legal names.**  Whenever an index is rendered, every name in the output is shaped like an
identifier, and it is legal unless it is one of those that are overlooked; names of methods always
are.  All names are legal exactly if no namespace and no class, in lower case, is called as one that
is overlooked. -/
theorem legal_names_iff (store : Store) (runtime : String) (rendering : Rendering)
    (h : renderAll (Index.ofStore store) (renderer runtime) = .ok rendering) :
    (∀ name, Declares runtime rendering name →
      Shaped name ∧ name ∉ reservedWords ∧ (Legal name ↔ name ∉ overlooked)) ∧
    (∀ unit ∈ rendering.units, ∀ name ∈ declaredMethods (implLines runtime unit), Legal name) ∧
    ((∀ name, Declares runtime rendering name → Legal name) ↔
      ∀ unit ∈ rendering.units,
        unit.self.group ∉ overlooked ∧ Case.lowerText unit.self.name ∉ overlooked) := by
  have hdeclared : ∀ name, Declares runtime rendering name →
      Shaped name ∧ name ∉ reservedWords := by
    intro name hname
    obtain ⟨u, hu, hname⟩ := (declares_iff h).mp hname
    obtain ⟨hself, hgroup⟩ := shaped_self h hu
    rcases hname with rfl | rfl | rfl | hmethod
    · exact ⟨hgroup.escapeReserved, escapeReserved_notMem _⟩
    · exact ⟨hself.lowerText.escapeReserved, escapeReserved_notMem _⟩
    · exact ⟨hself.escapeReserved, escapeReserved_notMem _⟩
    · have hkeywords : ∀ word ∈ reservedWords, word ∈ strictKeywords ++ reservedKeywords := by
        decide +kernel
      have hlegal := legal_of_mem_methods h hu hmethod
      exact ⟨hlegal.shaped, fun hmem => hlegal.no_keyword (hkeywords name hmem)⟩
  have hlegal : ∀ name, Declares runtime rendering name → (Legal name ↔ name ∉ overlooked) :=
    fun name hname => legal_iff (hdeclared name hname).1 (hdeclared name hname).2
  refine ⟨fun name hname => ⟨(hdeclared name hname).1, (hdeclared name hname).2, hlegal name hname⟩,
    fun unit hunit name => legal_of_mem_methods h hunit, ?_⟩
  constructor
  · intro hall unit hunit
    have hmodule : Declares runtime rendering (moduleName unit.self.group) :=
      (declares_iff h).mpr ⟨unit, hunit, .inl rfl⟩
    have hstem : Declares runtime rendering (fileStem unit.self) :=
      (declares_iff h).mpr ⟨unit, hunit, .inr (.inl rfl)⟩
    exact ⟨mt escapeReserved_mem_overlooked_iff.mpr ((hlegal _ hmodule).mp (hall _ hmodule)),
      mt escapeReserved_mem_overlooked_iff.mpr ((hlegal _ hstem).mp (hall _ hstem))⟩
  · intro hfree name hname
    obtain ⟨u, hu, hkind⟩ := (declares_iff h).mp hname
    obtain ⟨hgroup, hself⟩ := hfree u hu
    rcases hkind with rfl | rfl | rfl | hmethod
    · exact (hlegal _ hname).mpr (mt escapeReserved_mem_overlooked_iff.mp hgroup)
    · exact (hlegal _ hname).mpr (mt escapeReserved_mem_overlooked_iff.mp hself)
    · refine (hlegal _ hname).mpr fun hmem => hself ?_
      have hmem' := escapeReserved_mem_overlooked_iff.mp hmem
      rwa [lowerText_of_mem_overlooked hmem']
    · exact legal_of_mem_methods h hu hmethod

theorem legal_names_iff_media : ∃ rendering,
    renderAll (Index.ofStore media) (renderer "crate") = .ok rendering ∧
    ∀ name, Declares "crate" rendering name → Legal name := by
  obtain ⟨rendering, h, hunits⟩ := exists_rendering_media
  have hfree : ∀ unit ∈ rendering.units,
      unit.self.group ∉ overlooked ∧ Case.lowerText unit.self.name ∉ overlooked := by
    rw [hunits]
    decide +kernel
  exact ⟨rendering, h, (legal_names_iff media "crate" rendering h).2.2.mpr hfree⟩

/-- A class without a local name, and one that is called as a keyword. -/
def overlookedNames : Store := .ofList [Index.declaration "x:", Index.declaration "x:try"]

theorem ofStore_overlookedNames : Index.ofStore overlookedNames =
    { classes := [⟨"x:", "", none, "x", []⟩, ⟨"x:try", "try", none, "x", []⟩]
      properties := [] } :=
  (Index.inserted.property _).trans (by decide +kernel)

/-- The plans of the two classes. -/
def namelessUnit : ClassUnit := ⟨⟨"x:", "_", "x", true⟩, "", none, [], [], []⟩
@[inherit_doc namelessUnit] def keywordUnit : ClassUnit :=
  ⟨⟨"x:try", "try", "x", true⟩, "try", none, [], [], []⟩

theorem renderAll_overlookedNames : renderAll (Index.ofStore overlookedNames) (renderer "crate")
    = .ok ⟨[namelessUnit, keywordUnit],
      (renderer "crate").outputs [namelessUnit, keywordUnit]⟩ := by
  have hplans : [namelessUnit, keywordUnit] = [⟨"x:", "", none, "x", []⟩,
      ⟨"x:try", "try", none, "x", []⟩].map ClassUnit.lone := by decide +kernel
  rw [ofStore_overlookedNames, hplans]
  refine renderAll_lone (by decide) ?_
  rw [← hplans]
  simp only [Renderer.outputs, renderer, indexes, ascending_eq_foldr]
  decide +kernel

/-- **Two structs with illegal names**: an underscore and a keyword. -/
theorem illegal_overlookedNames : ∃ rendering,
    renderAll (Index.ofStore overlookedNames) (renderer "crate") = .ok rendering ∧
    (Declares "crate" rendering "_" ∧ ¬ Legal "_") ∧
    Declares "crate" rendering "try" ∧ ¬ Legal "try" := by
  have hnameless : typeName namelessUnit.self = "_" := by decide +kernel
  have hkeyword : typeName keywordUnit.self = "try" := by decide +kernel
  have hfirst : namelessUnit ∈ [namelessUnit, keywordUnit] := List.mem_cons_self
  have hsecond : keywordUnit ∈ [namelessUnit, keywordUnit] := by simp
  refine ⟨_, renderAll_overlookedNames, ⟨.struct hfirst ?_, by decide +kernel⟩, .struct hsecond ?_,
    by decide +kernel⟩
  · rw [structs_classLines, hnameless]
    exact List.mem_singleton_self _
  · rw [structs_classLines, hkeyword]
    exact List.mem_singleton_self _

end OntoWrap.Rust
