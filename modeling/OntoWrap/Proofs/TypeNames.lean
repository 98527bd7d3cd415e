import OntoWrap.Proofs.RustTagging

/-!
# Names of types in the Rust output

Modules and structs share the names of types in Rust.  The index file of a namespace declares a
module and re-exports a struct for each class; the two get their names from one identifier, the
module in lower case, so that they differ exactly if the identifier has a capital
(`fileStem_eq_typeName_iff`).  A class file declares its struct beside the names that it uses for
other types: the runtime crate, the traits that it implements, and the types in the signatures of
its methods.  `outsideNames` reads them off the file, and `mem_outsideNames_iff` says which they
are.

Nothing keeps the names of classes away from either, and `type_names_clash_iff` says exactly when a
name has two meanings.
-/
namespace OntoWrap.Rust

open Naming Text Text.Source

/-! ## 1. Capitals -/

/-- A name with an ASCII capital. -/
def HasCapital (name : String) : Prop := ∃ c ∈ name.toList, c.isUpper = true

instance (name : String) : Decidable (HasCapital name) :=
  decidable_of_iff (name.toList.any Char.isUpper = true) List.any_eq_true

variable {r : ClassRef}

/-- Capitals are kept when a reserved word is escaped. -/
theorem hasCapital_escapeReserved {name : String} (h : HasCapital name) :
    HasCapital (escapeReserved name) := by
  obtain ⟨c, hc, hupper⟩ := h
  unfold escapeReserved
  split
  · exact ⟨c, by simp [hc], hupper⟩
  · exact ⟨c, hc, hupper⟩

theorem not_hasCapital_fileStem (h : r.WellNamed) : ¬ HasCapital (fileStem r) := by
  rintro ⟨c, hc, hupper⟩
  rw [(smallName_fileStem h).small c hc] at hupper
  cases hupper

/-- **A class file is called as its struct exactly if the class has no capital in its name.** -/
theorem fileStem_eq_typeName_iff (h : r.WellNamed) :
    fileStem r = typeName r ↔ ¬ HasCapital r.name := by
  constructor
  · intro hsame hcapital
    exact not_hasCapital_fileStem h (hsame ▸ hasCapital_escapeReserved hcapital)
  · intro hnone
    have hsmall : Case.lowerText r.name = r.name := by
      refine lowerText_eq_self fun c hc => ⟨h.name.isAscii c hc, ?_⟩
      exact Bool.eq_false_iff.mpr fun hupper => hnone ⟨c, hc, hupper⟩
    rw [fileStem, typeName, hsmall]

/-! ## 2. Index files -/

/-- The names that the lines of an index file give to modules and structs. -/
def indexNames (lines : List String) : List String :=
  submodules lines ++ (reexports lines).map Prod.snd

section Rendered

variable {store : Store} {runtime : String} {rendering : Rendering} {unit : ClassUnit}

/-- **The names in the index file of a module differ exactly if each of its classes has a capital in
its name.**  Modules never meet one another, nor do structs. -/
theorem nodup_indexNames_iff
    (h : renderAll (Index.ofStore store) (renderer runtime) = .ok rendering) {module : String}
    (hmodule : module ∈ modulesOf rendering) :
    (indexNames (linesAt rendering (Path.join module "mod.rs"))).Nodup ↔
      ∀ unit ∈ rendering.units, moduleName unit.self.group = module →
        HasCapital unit.self.name := by
  obtain ⟨u, hu, hname⟩ := mem_modulesOf_iff.mp hmodule
  obtain ⟨hmods, huses⟩ := read_linesAt_module h hu hname
  have hentry : ∀ entry, entry ∈ moduleEntries (classesOf rendering module) ↔
      ∃ v ∈ rendering.units, moduleName v.self.group = module ∧
        (fileStem v.self, typeName v.self) = entry := by
    intro entry
    rw [(perm_moduleEntries _).mem_iff, List.mem_map]
    simp only [mem_classesOf_iff]
    constructor
    · rintro ⟨_, ⟨v, hv, hsame, rfl⟩, rfl⟩
      exact ⟨v, hv, hsame, rfl⟩
    · rintro ⟨v, hv, hsame, rfl⟩
      exact ⟨_, ⟨v, hv, hsame, rfl⟩, rfl⟩
  rw [indexNames, hmods, huses, List.nodup_append]
  constructor
  · rintro ⟨-, -, hapart⟩ v hv hsame
    by_contra hnone
    have hmem := (hentry _).mpr ⟨v, hv, hsame, rfl⟩
    exact hapart _ (List.mem_map_of_mem hmem) _ (List.mem_map_of_mem hmem)
      ((fileStem_eq_typeName_iff (wellNamed_self h hv)).mpr hnone)
  · intro hcapitals
    refine ⟨nodup_stems_moduleEntries h module, nodup_types_moduleEntries h module, ?_⟩
    intro stem hstem type htype hmeet
    obtain ⟨entry, hmem, rfl⟩ := List.mem_map.mp hstem
    obtain ⟨other, hmem', rfl⟩ := List.mem_map.mp htype
    obtain ⟨v, hv, -, rfl⟩ := (hentry entry).mp hmem
    obtain ⟨w, hw, hsame, rfl⟩ := (hentry other).mp hmem'
    -- The name of the struct has a capital and that of the file has none.
    have hcapital : HasCapital (typeName w.self) := hasCapital_escapeReserved (hcapitals w hw hsame)
    have hsame : fileStem v.self = typeName w.self := hmeet
    rw [← hsame] at hcapital
    exact not_hasCapital_fileStem (wellNamed_self h hv) hcapital

end Rendered

/-! ## 3. Names in class files -/

/-- The first name of a path. -/
def pathHead (path : String) : String := String.ofList (path.toList.takeWhile (· != ':'))

/-- Characters between the words of a signature. -/
def separates (c : Char) : Bool := !isIdentifierChar c && c != ':'

/-- The types that a signature names by themselves or at the head of a path.  A word in front of a
colon is a parameter, and three words are no names. -/
def typesIn (signature : List Char) : List String :=
  let words := (signature.splitOnP separates).filter fun word => word.getLast?.any (· != ':')
  let heads := words.map fun word => word.takeWhile (· != ':')
  let excluded := ["mut".toList, "self".toList, "Self".toList]
  (heads.filter fun head => !excluded.contains head).map String.ofList

/-- The signature in the characters of a line that declares a method: parameters and result. -/
def signatureIn? (cs : List Char) : Option (List Char) :=
  (afterText? "fn ".toList (afterVisibility cs)).map fun rest => rest.dropWhile (· != '(')

/-- The types in the signature of the method that a line declares, if it declares one. -/
def lineTypes (line : String) : List String := ((signatureIn? line.toList).map typesIn).getD []

/-- The types in the signatures of the methods that some lines declare. -/
def signatureTypes (lines : List String) : List String := lines.flatMap lineTypes

/-- The trait that the characters of a line implement.  A line that opens the block of the struct
itself implements none. -/
def traitIn? (cs : List Char) : Option String :=
  (afterText? "impl ".toList cs).bind fun rest =>
    if rest.dropWhile isIdentifierChar = [' ', '\x7b'] then none
    else some (String.ofList (rest.takeWhile isIdentifierChar))

/-- The traits that some lines implement. -/
def traits (lines : List String) : List String := lines.filterMap fun line => traitIn? line.toList

/-- The names that a line gives to the runtime crate: the alias, and that of the crate itself. -/
def crateNames (line : String) : List String :=
  ((between? "use " " as rt;" line).map fun path => ["rt", pathHead path]).getD []

/-- The names that a class file uses for other types than its own struct. -/
def outsideNames (runtime : String) (unit : ClassUnit) : List String :=
  (classLines runtime unit).flatMap crateNames
    ++ traits (classLines runtime unit)
    ++ signatureTypes (implLines runtime unit)

/-- The names that the accessors of a property use for types. -/
def valueNames : ValueType → List String
  | .scalar t => ["Option", pathHead (scalarName t)]
  | .list t => ["Vec", pathHead (scalarName t)]
  | .stringList => ["rt", "String"]

/-- The names that every class file uses for other types. -/
def commonNames (runtime : String) : List String :=
  ["rt", pathHead runtime, "str", "Default", "AsRef", "From"]

/-! ### Signatures -/

theorem signatureTypes_nil : signatureTypes [] = [] := rfl

theorem signatureTypes_append (l m : List String) :
    signatureTypes (l ++ m) = signatureTypes l ++ signatureTypes m :=
  List.flatMap_append

theorem signatureTypes_cons (line : String) (l : List String) :
    signatureTypes (line :: l) = lineTypes line ++ signatureTypes l :=
  List.flatMap_cons

/-- A line that declares no method has no signature. -/
theorem lineTypes_eq_nil {line : String} (h : declaredMethod? line = none) :
    lineTypes line = [] := by
  rw [declaredMethod?, methodIn?, Option.map_eq_none_iff] at h
  rw [lineTypes, signatureIn?, h]
  rfl

/-- A line with a fixed beginning is read character by character up to the rest. -/
theorem lineTypes_ofList_append (cs : List Char) (rest : String) :
    lineTypes (String.ofList cs ++ rest)
      = ((signatureIn? (cs ++ rest.toList)).map typesIn).getD [] := by
  rw [lineTypes, String.toList_append, String.toList_ofList]

theorem signatureTypes_eq_nil {lines : List String} (h : declaredMethods lines = []) :
    signatureTypes lines = [] :=
  List.flatMap_eq_nil_iff.mpr fun line hline =>
    lineTypes_eq_nil (List.filterMap_eq_nil_iff.mp h line hline)

theorem signatureTypes_block (head : String) (body : List String) :
    signatureTypes (block head body) = lineTypes (head ++ " \x7b") := by
  have hclose : signatureTypes ["\x7d"] = [] := signatureTypes_eq_nil (by decide)
  rw [block, List.cons_append, signatureTypes_cons, signatureTypes_append,
    signatureTypes_eq_nil (declaredMethods_indent body), hclose, List.append_nil, List.append_nil]

/-- The signature of a public method stands behind its name. -/
theorem lineTypes_pub {name rest : String} (hname : IdentifierText name)
    (hrest : rest.toList.head? = some '(') :
    lineTypes ("pub fn " ++ (name ++ rest)) = typesIn rest.toList := by
  obtain ⟨cs, hcs⟩ := List.head?_eq_some_iff.mp hrest
  have hopen : ∀ c ∈ name.toList, (c != '(') = true := by
    intro c hc
    rw [bne_iff_ne]
    rintro rfl
    exact hname.notMem (by decide) hc
  have hvisible : afterVisibility ("pub fn ".toList ++ (name ++ rest).toList)
      = 'f' :: 'n' :: ' ' :: (name.toList ++ rest.toList) := by
    simp [afterVisibility, afterText?]
  have hafter : afterText? "fn ".toList ('f' :: 'n' :: ' ' :: (name.toList ++ rest.toList))
      = some (name.toList ++ rest.toList) := afterText?_eq_some_iff.mpr rfl
  have hread : signatureIn? ("pub fn ".toList ++ (name ++ rest).toList) = some rest.toList := by
    rw [signatureIn?, hvisible, hafter, Option.map_some, List.dropWhile_append_of_pos hopen, hcs,
      List.dropWhile_cons_of_neg (by simp)]
  rw [lineTypes, String.toList_append, hread]
  rfl

theorem lineTypes_comment (cs : List Char) (rest : String) :
    lineTypes (String.ofList ('/' :: cs) ++ rest) = [] := by
  refine lineTypes_eq_nil ?_
  rw [declaredMethod?_ofList_append, List.cons_append, methodIn?_comment]

theorem signatureTypes_initType (unit : ClassUnit) :
    signatureTypes (initType unit) = ["rt", "str"] := by
  have hattribute : lineTypes "#[doc(hidden)]" = [] := lineTypes_eq_nil (by decide)
  unfold initType
  rw [signatureTypes_cons, hattribute]
  split
  · rw [signatureTypes_block, lineTypes_ofList_append]
    decide +kernel
  · decide +kernel

/-- **Every wrapper has the same types in the signatures of its fixed methods.** -/
theorem mem_signatureTypes_constructors {unit : ClassUnit} {name : String} :
    name ∈ signatureTypes (constructors unit) ↔ name ∈ ["rt", "str"] := by
  have hconst : ∀ rest, lineTypes ("pub const TYPE_URI: &'static str = " ++ rest) = [] := by
    intro rest
    refine lineTypes_eq_nil ?_
    rw [declaredMethod?_ofList_append]
    rfl
  let found := ["rt", "rt", "str", "rt", "str", "rt", "str", "rt", "rt", "rt"]
  have hread : signatureTypes (constructors unit) = found := by
    delta constructors
    simp only [signatureTypes_append, signatureTypes_block, signatureTypes_cons,
      signatureTypes_initType, hconst, String.append_assoc]
    repeat rw [lineTypes_comment]
    repeat rw [lineTypes_ofList_append]
    decide +kernel
  have hsame : (∀ name ∈ found, name ∈ ["rt", "str"]) ∧ ∀ name ∈ ["rt", "str"], name ∈ found := by
    decide
  rw [hread]
  exact ⟨hsame.1 name, hsame.2 name⟩

/-- The words on both sides of a separator are read by themselves. -/
theorem typesIn_append_cons {c : Char} (hc : separates c = true) (cs ds : List Char) :
    typesIn (cs ++ c :: ds) = typesIn cs ++ typesIn ds := by
  simp only [typesIn, List.splitOnP_append_cons cs ds hc, List.filter_append, List.map_append]

theorem typesIn_scalarName (t : ScalarType) :
    typesIn (scalarName t).toList = [pathHead (scalarName t)] := by
  cases t <;> decide +kernel

/-- The type of one value in a signature. -/
theorem typesIn_scalar {c d : Char} (hc : separates c = true) (hd : separates d = true)
    (front back : List Char) (t : ScalarType) :
    typesIn (front ++ c :: ((scalarName t).toList ++ d :: back))
      = typesIn front ++ pathHead (scalarName t) :: typesIn back := by
  rw [typesIn_append_cons hc, typesIn_append_cons hd, typesIn_scalarName, List.singleton_append]

/-- The signatures of getter, setter and adder of a property. -/
def signaturesOf (v : ValueType) : List String := [
  "(&self) -> " ++ (if v.isCollection then valueTypeName v else "Option<" ++ valueTypeName v ++ ">")
    ++ " \x7b",
  "(&mut self, value: " ++ valueTypeName v ++ ") \x7b",
  "(&mut self, value: " ++ scalarName v.element ++ ") \x7b"]

/-- **What the accessors of a property use for types.** -/
theorem mem_typesIn_signaturesOf {v : ValueType} {name : String} :
    name ∈ (signaturesOf v).flatMap (fun signature => typesIn signature.toList) ↔
      name ∈ valueNames v := by
  have hend : typesIn [' ', '\x7b'] = [] := by decide +kernel
  have hvalue : ∀ t, typesIn ("(&mut self, value: " ++ scalarName t ++ ") \x7b").toList
      = [pathHead (scalarName t)] := by
    intro t
    have hfront : typesIn "(&mut self, value:".toList = [] := by decide +kernel
    have hread :=
      typesIn_scalar (c := ' ') (d := ')') rfl rfl "(&mut self, value:".toList [' ', '\x7b'] t
    rw [hfront, hend] at hread
    simpa using hread
  cases v with
  | scalar t =>
    have hresult : typesIn ("(&self) -> " ++ ("Option<" ++ scalarName t ++ ">") ++ " \x7b").toList
        = ["Option", pathHead (scalarName t)] := by
      have hfront : typesIn "(&self) -> Option".toList = ["Option"] := by decide +kernel
      have hread := typesIn_scalar (c := '<') (d := '>') rfl rfl "(&self) -> Option".toList
        [' ', '\x7b'] t
      rw [hfront, hend] at hread
      simpa using hread
    simp only [signaturesOf, ValueType.isCollection, valueTypeName, ValueType.element,
      Bool.false_eq_true, if_false, List.flatMap_cons, List.flatMap_nil, hresult, hvalue,
      valueNames, List.mem_append, List.mem_cons, List.not_mem_nil, or_false]
    grind
  | list t =>
    have hcollection : ∀ front back, typesIn front = ["Vec"] → typesIn back = [] →
        typesIn (front ++ '<' :: ((scalarName t).toList ++ '>' :: back))
          = ["Vec", pathHead (scalarName t)] := by
      intro front back hfront hback
      rw [typesIn_scalar rfl rfl, hfront, hback]
      rfl
    have hgetter : typesIn ("(&self) -> " ++ ("Vec<" ++ scalarName t ++ ">") ++ " \x7b").toList
        = ["Vec", pathHead (scalarName t)] := by
      simpa using hcollection "(&self) -> Vec".toList [' ', '\x7b'] (by decide +kernel) hend
    have hsetter :
        typesIn ("(&mut self, value: " ++ ("Vec<" ++ scalarName t ++ ">") ++ ") \x7b").toList
          = ["Vec", pathHead (scalarName t)] := by
      simpa using hcollection "(&mut self, value: Vec".toList [')', ' ', '\x7b'] (by decide +kernel)
        (by decide +kernel)
    simp only [signaturesOf, ValueType.isCollection, valueTypeName, ValueType.element, if_true,
      List.flatMap_cons, List.flatMap_nil, hgetter, hsetter, hvalue, valueNames, List.mem_append,
      List.mem_cons, List.not_mem_nil, or_false]
    grind
  | stringList =>
    have hsame : (signaturesOf .stringList).flatMap (fun signature => typesIn signature.toList)
        = ["rt", "rt", "String"] := by decide +kernel
    rw [hsame]
    simp [valueNames]

/-- **The accessors of a property have signatures that are settled by its value type.** -/
theorem signatureTypes_accessorMethods {a : Accessor}
    (h : ∀ name ∈ a.names.accessors, IdentifierText name) :
    signatureTypes (accessorMethods a)
      = (signaturesOf a.valueType).flatMap fun signature => typesIn signature.toList := by
  have hgetter : IdentifierText (snakeCase a.names.getter) :=
    (h _ (by simp [AccessorNames.accessors])).snakeCase
  have hsetter : IdentifierText (snakeCase a.names.setter) :=
    (h _ (by simp [AccessorNames.accessors])).snakeCase
  have hadder : IdentifierText (snakeCase a.names.adder) :=
    (h _ (by simp [AccessorNames.accessors])).snakeCase
  have hempty : lineTypes "" = [] := lineTypes_eq_nil declaredMethod?_empty
  have hcomment : ∀ action, signatureTypes (accessorComment action a) = [] := fun action =>
    signatureTypes_eq_nil (declaredMethods_accessorComment action a)
  delta accessorMethods signaturesOf
  cases a.valueType.isCollection with
  | true =>
    simp only [signatureTypes_append, signatureTypes_block, signatureTypes_cons, hempty, hcomment,
      String.append_assoc]
    rw [lineTypes_pub hgetter (by simp), lineTypes_pub hsetter (by simp),
      lineTypes_pub hadder (by simp)]
    simp [signatureTypes_nil]
  | false =>
    simp only [signatureTypes_append, signatureTypes_block, signatureTypes_cons, hempty, hcomment,
      String.append_assoc]
    rw [lineTypes_pub hgetter (by simp), lineTypes_pub hsetter (by simp),
      lineTypes_pub hadder (by simp)]
    simp [signatureTypes_nil]

/-! ### Traits and the runtime crate -/

/-- A line implements a trait only if it begins with `impl`. -/
theorem traits_eq_nil {lines : List String} (h : ∀ line ∈ lines, line.toList.head? ≠ some 'i') :
    traits lines = [] := by
  refine List.filterMap_eq_nil_iff.mpr fun line hline => ?_
  have hread : afterText? "impl ".toList line.toList = none :=
    afterText?_eq_none_of_head? rfl (h line hline)
  rw [traitIn?, hread]
  rfl

theorem traits_append (l m : List String) : traits (l ++ m) = traits l ++ traits m :=
  List.filterMap_append

theorem traits_block (head : String) (body : List String) :
    traits (block head body) = (traitIn? (head ++ " \x7b").toList).toList := by
  have hbody : traits (indent body) = [] := traits_eq_nil (head?_indent (by decide))
  have hclose : traits ["\x7d"] = [] := by decide
  rw [block, List.cons_append, ← List.singleton_append, traits_append, traits_append, hbody, hclose,
    List.append_nil, List.append_nil, traits, List.filterMap_cons]
  cases traitIn? (head ++ " \x7b").toList <;> rfl

theorem traits_conversion (name target result : String) :
    traits (conversion name target result) = ["From"] := by
  rw [conversion, traits_block]
  simp only [String.toList_append, List.append_assoc]
  rfl

/-- **Every class file implements the same three traits.** -/
theorem mem_traits_classLines {runtime : String} {unit : ClassUnit} (h : unit.self.WellNamed)
    {name : String} :
    name ∈ traits (classLines runtime unit) ↔ name ∈ ["Default", "AsRef", "From"] := by
  have hbefore : traits (linesBefore runtime unit) = [] :=
    traits_eq_nil (head?_linesBefore runtime unit)
  have himpl : traitIn? ("impl " ++ typeName unit.self ++ " \x7b").toList = none := by
    have hafter : afterText? "impl ".toList ("impl " ++ typeName unit.self ++ " \x7b").toList
        = some ((typeName unit.self).toList ++ [' ', '\x7b']) :=
      afterText?_eq_some_iff.mpr (by simp)
    have hname : IdentifierText (typeName unit.self) := h.name.escapeReserved
    rw [traitIn?, hafter, Option.bind_some, List.dropWhile_append_of_pos hname]
    rfl
  have hempty : traits [""] = [] := by decide
  have hfrom : ∀ target result,
      traits ([""] ++ conversion (typeName unit.self) target result) = ["From"] := by
    intro target result
    rw [traits_append, hempty, traits_conversion]
    rfl
  have hparents : traits (unit.parents.flatMap fun parent =>
      [""] ++ conversion (typeName unit.self) (classPath unit.self parent).text
        ((classPath unit.self parent).text ++ "::wrap(value.resource)"))
      = unit.parents.map fun _ => "From" := by
    rw [traits, List.filterMap_flatMap, List.map_eq_flatMap]
    exact List.flatMap_congr fun parent _ => hfrom _ _
  have hdefault : traitIn? ("impl Default for " ++ typeName unit.self ++ " \x7b").toList
      = some "Default" := by
    simp only [String.toList_append, List.append_assoc]
    rfl
  have hasRef :
      traitIn? ("impl AsRef<rt::SimpleResource> for " ++ typeName unit.self ++ " \x7b").toList
        = some "AsRef" := by
    simp only [String.toList_append, List.append_assoc]
    rfl
  rw [classLines_eq_append, traits_append, traits_append, hbefore, traits_block, himpl,
    ← List.singleton_append, traits_append, hempty]
  delta conversions
  simp only [traits_append, traits_block, hdefault, hasRef, hempty, hparents]
  -- A class without parents is converted into the resource, any other into each of its parents.
  rw [ClassUnit.isRootLevel]
  cases unit.parents with
  | nil =>
    rw [List.isEmpty_nil, if_pos rfl, hfrom]
    simp
  | cons parent rest =>
    rw [List.isEmpty_cons, if_neg (by decide)]
    have hrepeated : ∀ name, name ∈ rest.map (fun _ => "From") → name = "From" := by simp
    simp only [List.map_cons, List.mem_append, List.mem_cons, List.not_mem_nil, or_false, false_or,
      traits, List.filterMap_nil]
    grind

/-- No line of the conversions begins as a `use` line does. -/
theorem head?_conversions (unit : ClassUnit) :
    ∀ line ∈ conversions unit, line.toList.head? ≠ some 'u' := by
  have hempty : ∀ line ∈ [""], line.toList.head? ≠ some 'u' := by simp
  have hfrom : ∀ name target result, ∀ line ∈ [""] ++ conversion name target result,
      line.toList.head? ≠ some 'u' := by
    intro name target result
    rw [List.forall_mem_append]
    exact ⟨hempty, head?_block (by simp) (by decide)⟩
  delta conversions
  simp only [List.forall_mem_append]
  refine ⟨⟨⟨⟨head?_block (by simp) (by decide), hempty⟩, head?_block (by simp) (by decide)⟩,
    ?_⟩, ?_⟩
  · split
    · exact hfrom _ _ _
    · simp
  · intro line hline
    obtain ⟨parent, -, hline⟩ := List.mem_flatMap.mp hline
    exact hfrom _ _ _ line hline

/-- **Every class file names the runtime crate once**, and gives it an alias. -/
theorem crateNames_classLines (runtime : String) (unit : ClassUnit) :
    (classLines runtime unit).flatMap crateNames = ["rt", pathHead runtime] := by
  have hother : ∀ lines : List String, (∀ line ∈ lines, line.toList.head? ≠ some 'u') →
      lines.flatMap crateNames = [] := by
    intro lines h
    refine List.flatMap_eq_nil_iff.mpr fun line hline => ?_
    have hread : between? "use " " as rt;" line = none :=
      between?_eq_none (afterText?_eq_none_of_head? rfl (h line hline))
    rw [crateNames, hread]
    rfl
  have huse : ["use " ++ runtime ++ " as rt;", ""].flatMap crateNames
      = ["rt", pathHead runtime] := by
    have hread : between? "use " " as rt;" ("use " ++ runtime ++ " as rt;") = some runtime :=
      between?_eq_some_iff.mpr rfl
    rw [List.flatMap_cons, hother [""] (by simp), crateNames, hread]
    rfl
  have hcomment : ∀ line ∈ structComment unit, line.toList.head? ≠ some 'u' := fun line hline => by
    simp [head?_structComment line hline]
  delta classLines
  simp only [List.flatMap_append]
  rw [huse, hother ["//! `" ++ unit.label ++ "`: <" ++ unit.self.iri ++ ">."] (by simp),
    hother generatedNote (by decide), hother _ hcomment,
    hother ["#[derive(Debug, Clone)]"] (by simp), hother [""] (by simp),
    hother _ (head?_conversions unit), hother _ (head?_block (by simp) (by decide)),
    hother _ (head?_block (by simp) (by decide))]
  rfl

/-- **The names that a class file uses for other types**: those that every class file uses, and
those in the signatures of the accessors of its properties. -/
theorem mem_outsideNames_iff (runtime : String) {unit : ClassUnit} (h : unit.self.WellNamed)
    (haccessors : ∀ a ∈ unit.accessors, ∀ name ∈ a.names.accessors, IdentifierText name)
    {name : String} :
    name ∈ outsideNames runtime unit ↔
      name ∈ commonNames runtime ∨ ∃ a ∈ unit.accessors, name ∈ valueNames a.valueType := by
  have hvalues : name ∈ signatureTypes (unit.accessors.flatMap accessorMethods) ↔
      ∃ a ∈ unit.accessors, name ∈ valueNames a.valueType := by
    rw [signatureTypes, List.flatMap_assoc, List.mem_flatMap]
    refine exists_congr fun a => and_congr_right fun ha => ?_
    rw [← mem_typesIn_signaturesOf, ← signatureTypes_accessorMethods (haccessors a ha)]
    rfl
  rw [outsideNames, crateNames_classLines, implLines_eq, signatureTypes_append, List.mem_append,
    List.mem_append, List.mem_append, mem_traits_classLines h, mem_signatureTypes_constructors,
    hvalues]
  simp only [commonNames, List.mem_cons, List.not_mem_nil, or_false]
  grind

/-! ## 4. One meaning for each name -/

/-- **Names of types.**  Whenever an index is rendered, the modules of the root differ; the names in
the index file of a namespace differ exactly if each of its classes has a capital in its name; and
the name of the struct in a class file is one that the file uses for another type exactly if it is
one of those that all class files use or one that an accessor of the class needs. -/
theorem type_names_clash_iff (store : Store) (runtime : String) (rendering : Rendering)
    (h : renderAll (Index.ofStore store) (renderer runtime) = .ok rendering) :
    (submodules (linesAt rendering "mod.rs")).Nodup ∧
    (∀ module ∈ submodules (linesAt rendering "mod.rs"),
      ((indexNames (linesAt rendering (Path.join module "mod.rs"))).Nodup ↔
        ∀ unit ∈ rendering.units, moduleName unit.self.group = module →
          HasCapital unit.self.name)) ∧
    ∀ unit ∈ rendering.units, structs (classLines runtime unit) = [typeName unit.self] ∧
      (typeName unit.self ∈ outsideNames runtime unit ↔
        typeName unit.self ∈ commonNames runtime ∨
          ∃ a ∈ unit.accessors, typeName unit.self ∈ valueNames a.valueType) := by
  rw [submodules_linesAt_root h]
  refine ⟨nodup_ascending _, fun module hmodule => nodup_indexNames_iff h hmodule, fun unit hunit =>
    ⟨structs_classLines runtime unit, ?_⟩⟩
  exact mem_outsideNames_iff runtime (wellNamed_self h hunit) (identifierText_of_mem_units h hunit)

theorem type_names_clash_iff_media : ∃ rendering,
    renderAll (Index.ofStore media) (renderer "crate") = .ok rendering ∧
    (∀ module ∈ submodules (linesAt rendering "mod.rs"),
      (indexNames (linesAt rendering (Path.join module "mod.rs"))).Nodup) ∧
    ∀ unit ∈ rendering.units, typeName unit.self ∉ outsideNames "crate" unit := by
  obtain ⟨rendering, h, hunits⟩ := exists_rendering_media
  obtain ⟨-, hindexes, hfiles⟩ := type_names_clash_iff media "crate" rendering h
  have hcapitals : ∀ unit ∈ rendering.units, HasCapital unit.self.name := by
    rw [hunits]
    decide +kernel
  have hfree : ∀ unit ∈ rendering.units, ¬(typeName unit.self ∈ commonNames "crate" ∨
      ∃ a ∈ unit.accessors, typeName unit.self ∈ valueNames a.valueType) := by
    rw [hunits]
    decide +kernel
  exact ⟨rendering, h,
    fun module hmodule => (hindexes module hmodule).mpr fun unit hunit _ => hcapitals unit hunit,
    fun unit hunit => mt (hfiles unit hunit).2.mp (hfree unit hunit)⟩

/-- A class without a capital, and one that is called as a trait. -/
def borrowedNames : Store := .ofList [Index.declaration "x:From", Index.declaration "x:cell"]

theorem ofStore_borrowedNames : Index.ofStore borrowedNames =
    { classes := [⟨"x:From", "From", none, "x", []⟩, ⟨"x:cell", "cell", none, "x", []⟩]
      properties := [] } :=
  (Index.inserted.property _).trans (by decide +kernel)

/-- The plans of the two classes. -/
def traitUnit : ClassUnit := ⟨⟨"x:From", "From", "x", true⟩, "From", none, [], [], []⟩
@[inherit_doc traitUnit] def smallUnit : ClassUnit :=
  ⟨⟨"x:cell", "cell", "x", true⟩, "cell", none, [], [], []⟩

theorem renderAll_borrowedNames : renderAll (Index.ofStore borrowedNames) (renderer "crate")
    = .ok ⟨[traitUnit, smallUnit], (renderer "crate").outputs [traitUnit, smallUnit]⟩ := by
  have hplans : [traitUnit, smallUnit] = [⟨"x:From", "From", none, "x", []⟩,
      ⟨"x:cell", "cell", none, "x", []⟩].map ClassUnit.lone := by decide +kernel
  rw [ofStore_borrowedNames, hplans]
  refine renderAll_lone (by decide) ?_
  rw [← hplans]
  simp only [Renderer.outputs, renderer, indexes, ascending_eq_foldr]
  decide +kernel

/-- **Two classes whose names clash**: the index file of their namespace declares a module and
re-exports a struct of one name, and a class file declares a struct that is called as a trait it
implements. -/
theorem names_clash_borrowedNames : ∃ rendering,
    renderAll (Index.ofStore borrowedNames) (renderer "crate") = .ok rendering ∧
    ¬ (indexNames (linesAt rendering (Path.join "x" "mod.rs"))).Nodup ∧
    ∃ unit ∈ rendering.units, structs (classLines "crate" unit) = ["From"] ∧
      "From" ∈ outsideNames "crate" unit := by
  have htrait : traitUnit ∈ [traitUnit, smallUnit] := List.mem_cons_self
  have hmodule : "x" ∈ modulesOf
      ⟨[traitUnit, smallUnit], (renderer "crate").outputs [traitUnit, smallUnit]⟩ :=
    mem_modulesOf_iff.mpr ⟨traitUnit, htrait, by decide +kernel⟩
  have hname : typeName traitUnit.self = "From" := by decide +kernel
  refine ⟨_, renderAll_borrowedNames, ?_, traitUnit, htrait, ?_, ?_⟩
  · rw [nodup_indexNames_iff renderAll_borrowedNames hmodule]
    decide +kernel
  · rw [structs_classLines, hname]
  · have htext := identifierText_of_mem_units renderAll_borrowedNames htrait
    have hself := wellNamed_self renderAll_borrowedNames htrait
    exact (mem_outsideNames_iff "crate" hself htext).mpr (.inl (by decide +kernel))

end OntoWrap.Rust
