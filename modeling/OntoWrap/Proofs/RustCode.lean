import OntoWrap.Proofs.OutputPaths
import OntoWrap.Proofs.WithoutTexts

/-!
# Texts in the Rust output

What a class file holds outside of its comment lines (`codeLines`) should not depend on the texts of
the ontology.  The comments of a class and of its properties never show there, as they are filled
into lines.  The label is written as it is, in the title of the file and, if the class has no
comment, above the struct: lines of a label after its first one begin a line of the file.  So the
code is what it is without any texts exactly if each of these lines is a comment by itself
(`codeLines_eq_iff`).
-/
namespace OntoWrap.Rust

open Text Text.Source

/-! ## 1. Code and comment lines -/

/-- Whether a line is a comment: after spaces it begins with two slashes. -/
def isComment (line : String) : Bool := ['/', '/'].isPrefixOf (line.toList.dropWhile (· == ' '))

/-- The lines of a text that are no comments. -/
def codeLines (text : String) : List String := (linesOf text).filter fun line => !isComment line

/-- What some lines, some of which may hold line ends, add to the code. -/
def codeIn (lines : List String) : List String :=
  (lines.flatMap linesOf).filter fun line => !isComment line

theorem codeIn_append (l m : List String) : codeIn (l ++ m) = codeIn l ++ codeIn m := by
  rw [codeIn, List.flatMap_append, List.filter_append]
  rfl

/-- Comment lines without line ends add nothing. -/
theorem codeIn_eq_nil {lines : List String}
    (h : ∀ line ∈ lines, '\n' ∉ line.toList ∧ isComment line = true) : codeIn lines = [] := by
  refine List.filter_eq_nil_iff.mpr fun line hline => ?_
  obtain ⟨whole, hwhole, hmem⟩ := List.mem_flatMap.mp hline
  obtain ⟨hend, hcomment⟩ := h whole hwhole
  rw [linesOf_eq_singleton hend, List.mem_singleton] at hmem
  rw [hmem, hcomment]
  decide

/-- A comment line goes on as one. -/
theorem isComment_append {s : String} (h : isComment s = true) (t : String) :
    isComment (s ++ t) = true := by
  rw [isComment] at h ⊢
  rw [String.toList_append]
  generalize s.toList = cs at h ⊢
  induction cs with
  | nil => cases h
  | cons c cs ih =>
    rw [List.dropWhile_cons] at h
    rw [List.cons_append, List.dropWhile_cons]
    split at h
    · rename_i hspace
      rw [if_pos hspace]
      exact ih h
    · rename_i hspace
      rw [if_neg hspace]
      exact List.isPrefixOf_iff_prefix.mpr
        ((List.isPrefixOf_iff_prefix.mp h).trans (List.prefix_append (c :: cs) _))

/-- What follows a line does not make it a comment, unless it begins with a space or a slash. -/
theorem isComment_append_eq {s t : String} {c : Char} (ht : t.toList.head? = some c)
    (hspace : c ≠ ' ') (hslash : c ≠ '/') : isComment (s ++ t) = isComment s := by
  obtain ⟨rest, hrest⟩ := List.head?_eq_some_iff.mp ht
  rw [isComment, isComment, String.toList_append, hrest]
  induction s.toList with
  | nil => simp [List.isPrefixOf, hspace, hslash.symm]
  | cons d cs ih =>
    rw [List.cons_append, List.dropWhile_cons, List.dropWhile_cons]
    split
    · exact ih
    · cases cs with
      | nil => simp [List.isPrefixOf, hslash.symm]
      | cons e cs => simp [List.isPrefixOf]

theorem isComment_spaces (line : String) : isComment ("    " ++ line) = isComment line := by
  simp [isComment]

/-- Lines that are filled with a text add nothing, also if they are moved to the right. -/
theorem codeIn_indent_comment (text : String) : codeIn (indent (comment "/// " text)) = [] := by
  refine codeIn_eq_nil fun line hline => ?_
  obtain ⟨inner, hinner, rfl⟩ := List.mem_map.mp hline
  obtain ⟨filled, hfilled, rfl⟩ := List.mem_map.mp hinner
  have hopen : ("/// " ++ filled).isEmpty = false := by
    rw [← Bool.not_eq_true, String.isEmpty_iff, ← String.toList_inj]
    simp
  rw [if_neg (by simp [hopen]), isComment_spaces]
  refine ⟨?_, isComment_append (by decide) _⟩
  simpa using lineEnd_notMem_wrap hfilled

@[inherit_doc codeIn_indent_comment]
theorem codeIn_comment (text : String) : codeIn (comment "/// " text) = [] := by
  refine codeIn_eq_nil fun line hline => ?_
  obtain ⟨filled, hfilled, rfl⟩ := List.mem_map.mp hline
  refine ⟨?_, isComment_append (by decide) _⟩
  simpa using lineEnd_notMem_wrap hfilled

/-! ## 2. Labels -/

/-- **Every line of a label but the first is a comment by itself.** -/
def Quiet (label : String) : Prop := ∀ line ∈ (linesOf label).tail, isComment line = true

instance (label : String) : Decidable (Quiet label) :=
  inferInstanceAs (Decidable (∀ line ∈ (linesOf label).tail, isComment line = true))

/-- The lines of a text after its first one that are no comments. -/
def codeBelow (text : String) : List String :=
  (linesOf text).tail.filter fun line => !isComment line

theorem codeBelow_eq_nil_iff {text : String} : codeBelow text = [] ↔ Quiet text := by
  simp [codeBelow, Quiet, List.filter_eq_nil_iff]

/-- **A label in a comment line adds its later lines to the code.**  The last one of them goes on
with what stands behind the label. -/
theorem exists_codeIn_labelled (front back : String) {c : Char} (hend : '\n' ∉ front.toList)
    (hfront : isComment front = true) (hback : back.toList.head? = some c)
    (hc : c ≠ ' ' ∧ c ≠ '/' ∧ c ≠ '\n') (label : String) :
    ∃ leaks, codeIn [front ++ label ++ back] = leaks ++ codeBelow back ∧
      leaks.length = (codeBelow label).length := by
  obtain ⟨hspace, hslash, hbreak⟩ := hc
  obtain ⟨first, others, hlines⟩ := List.exists_cons_of_ne_nil (linesOf_ne_nil back)
  have hfirst := head?_of_linesOf_eq hback hbreak hlines
  have hopen : ∀ rest, isComment (front ++ rest) = true := isComment_append hfront
  obtain ⟨labelFront, last, hlabel, hbehind⟩ := linesOf_append (s := label) hlines
  have hlast : isComment (last ++ first) = isComment last :=
    isComment_append_eq hfirst hspace hslash
  rw [codeIn, List.flatMap_singleton, String.append_assoc, codeBelow, codeBelow, hlabel, hlines]
  -- a label in one line stays in the comment line; of another, all lines but the first are left
  cases labelFront with
  | nil =>
    rw [linesOf_append_of_notMem hend hbehind]
    refine ⟨[], ?_, rfl⟩
    rw [List.nil_append, List.tail_cons, List.filter_cons_of_neg (by simp [hopen])]
  | cons l ls =>
    rw [linesOf_append_of_notMem hend hbehind]
    refine ⟨(ls ++ [last ++ first]).filter fun line => !isComment line, ?_, ?_⟩
    · rw [List.filter_cons_of_neg (by simp [hopen]), List.tail_cons, ← List.filter_append,
        List.append_assoc]
      rfl
    · rw [List.cons_append, List.tail_cons, List.filter_append, List.filter_append,
        List.length_append, List.length_append, List.filter_singleton, List.filter_singleton, hlast]
      cases isComment last <;> rfl

/-! ## 3. Class files -/

/-- The lines of a class file before those about the class: the title apart, no text is in them. -/
def preamble (runtime : String) : List String :=
  generatedNote ++ ["use " ++ runtime ++ " as rt;", ""]

/-- What is said of a class above its struct: its comment, else its label. -/
def description (unit : ClassUnit) : List String :=
  match unit.comment with
  | some text => if text.isEmpty then ["/// " ++ unit.label ++ "."] else comment "/// " text
  | none => ["/// " ++ unit.label ++ "."]

/-- What is said of the parents of a class above its struct. -/
def parentsNote (unit : ClassUnit) : List String :=
  if unit.isRootLevel then []
  else
    let paths := unit.parents.map fun p => "[`" ++ (classPath unit.self p).text ++ "`]"
    ["///", "/// Converts into " ++ ", ".intercalate paths ++ "."]

theorem structComment_eq (unit : ClassUnit) :
    structComment unit = description unit ++ parentsNote unit :=
  rfl

/-- The lines of a class file after the description. -/
def definitions (unit : ClassUnit) : List String :=
  parentsNote unit
  ++ ["#[derive(Debug, Clone)]"]
  ++ block ("pub struct " ++ typeName unit.self) ["resource: rt::SimpleResource,"]
  ++ [""]
  ++ block ("impl " ++ typeName unit.self)
    (constructors unit ++ unit.accessors.flatMap accessorMethods)
  ++ [""]
  ++ conversions unit

theorem classLines_eq (runtime : String) (unit : ClassUnit) :
    classLines runtime unit = ["//! `" ++ unit.label ++ ("`: <" ++ unit.self.iri ++ ">.")] ++
      preamble runtime ++ description unit ++ definitions unit := by
  delta classLines definitions preamble
  simp only [structComment_eq, List.append_assoc, String.append_assoc]

theorem codeIn_accessorMethods (a : Accessor) :
    codeIn (indent (accessorMethods a)) = codeIn (indent (accessorMethods a.withoutComment)) := by
  have hcomment : ∀ action b, codeIn (indent (accessorComment action b)) = [] :=
    fun action b => codeIn_indent_comment _
  obtain ⟨property, names, valueType, cardinality, text⟩ := a
  unfold accessorMethods Accessor.withoutComment
  cases valueType.isCollection with
  | true => simp only [indent_append, codeIn_append, hcomment]
  | false => simp only [indent_append, codeIn_append, hcomment]

/-- The comments of properties add nothing to the code. -/
theorem codeIn_definitions (unit : ClassUnit) :
    codeIn (definitions unit) = codeIn (definitions unit.withoutTexts) := by
  have hmethods : ∀ accessors : List Accessor,
      codeIn (indent (accessors.flatMap accessorMethods)) =
        codeIn (indent ((accessors.map Accessor.withoutComment).flatMap accessorMethods)) := by
    intro accessors
    induction accessors with
    | nil => rfl
    | cons a rest ih =>
      rw [List.map_cons, List.flatMap_cons, List.flatMap_cons, indent_append, indent_append,
        codeIn_append, codeIn_append, ih, codeIn_accessorMethods]
  have hblock : ∀ head body, block head body = [head ++ " \x7b"] ++ indent body ++ ["\x7d"] :=
    fun _ _ => rfl
  unfold definitions
  simp only [codeIn_append, hblock, indent_append]
  rw [hmethods]
  rfl

/-- **The code of a class file**: its label may add lines in the title and, if the class has no
comment, above the struct; no other text does. -/
theorem exists_codeIn_classLines (runtime : String) (unit : ClassUnit) :
    ∃ title above, codeIn (classLines runtime unit) =
        title ++ codeBelow ("`: <" ++ unit.self.iri ++ ">.") ++ codeIn (preamble runtime)
          ++ above ++ codeIn (definitions unit.withoutTexts) ∧
      title.length = (codeBelow unit.label).length ∧
      above.length ≤ (codeBelow unit.label).length := by
  obtain ⟨title, htitle, hlength⟩ :=
    exists_codeIn_labelled "//! `" ("`: <" ++ unit.self.iri ++ ">.")
      (c := '`') (by decide) (by decide) (by simp) (by decide) unit.label
  have hlabel : ∃ above, codeIn ["/// " ++ unit.label ++ "."] = above ∧
      above.length = (codeBelow unit.label).length := by
    obtain ⟨above, habove, hlength⟩ := exists_codeIn_labelled "/// " "." (c := '.')
      (by decide) (by decide) (by decide) (by decide) unit.label
    exact ⟨above, habove.trans (List.append_nil _), hlength⟩
  have habove : (codeIn (description unit)).length ≤ (codeBelow unit.label).length := by
    obtain ⟨above, habove, hlength⟩ := hlabel
    unfold description
    split
    · split
      · rw [habove, hlength]
      · rw [codeIn_comment]
        exact Nat.zero_le _
    · rw [habove, hlength]
  refine ⟨title, codeIn (description unit), ?_, hlength, habove⟩
  rw [classLines_eq, codeIn_append, codeIn_append, codeIn_append, htitle, codeIn_definitions]

theorem endsPlain_block (head : String) (body : List String) : EndsPlain (block head body) :=
  ⟨(head ++ " \x7b") :: indent body, "\x7d", '\x7d', rfl, by decide, by decide⟩

theorem endsPlain_conversions (unit : ClassUnit) : EndsPlain (conversions unit) := by
  delta conversions
  dsimp only
  rcases List.eq_nil_or_concat unit.parents with hnone | ⟨parents, last, hparents⟩
  · have hroot : unit.isRootLevel = true := by rw [ClassUnit.isRootLevel, hnone, List.isEmpty_nil]
    rw [hnone, List.flatMap_nil, List.append_nil, if_pos hroot]
    exact ((endsPlain_block _ _).append_left [""]).append_left _
  · rw [hparents, List.concat_eq_append, List.flatMap_append, List.flatMap_singleton]
    exact (((endsPlain_block _ _).append_left [""]).append_left _).append_left _

theorem renderer_renderClass (runtime : String) (unit : ClassUnit) :
    (renderer runtime).renderClass unit = finish (classLines runtime unit) := by
  rw [renderer]

theorem codeLines_renderClass (runtime : String) (unit : ClassUnit) :
    codeLines ((renderer runtime).renderClass unit) = codeIn (classLines runtime unit) ++ [""] := by
  have hend : EndsPlain (classLines runtime unit) := by
    unfold classLines
    exact (endsPlain_conversions unit).append_left _
  rw [renderer_renderClass, codeLines, linesOf_finish_flatMap hend, ← codeIn, codeIn_append]
  rfl

/-- The code is what it is without any texts exactly if the label is quiet. -/
theorem codeLines_withoutTexts_eq_iff (runtime : String) (unit : ClassUnit) :
    codeLines ((renderer runtime).renderClass unit) =
      codeLines ((renderer runtime).renderClass unit.withoutTexts) ↔ Quiet unit.label := by
  obtain ⟨title, above, hcode, htitle, habove⟩ := exists_codeIn_classLines runtime unit
  obtain ⟨noTitle, nothing, hplain, hnoTitle, hnothing⟩ :=
    exists_codeIn_classLines runtime unit.withoutTexts
  have hempty : codeBelow "" = [] := by decide
  have hlabel : unit.withoutTexts.label = "" := rfl
  rw [hlabel, hempty, List.length_nil] at hnoTitle hnothing
  obtain rfl := List.eq_nil_of_length_eq_zero hnoTitle
  obtain rfl := List.eq_nil_of_length_eq_zero (Nat.le_zero.mp hnothing)
  have hiri : unit.withoutTexts.self = unit.self := rfl
  rw [codeLines_renderClass, codeLines_renderClass, hcode, hplain, unit.withoutTexts_withoutTexts,
    hiri, ← codeBelow_eq_nil_iff]
  constructor
  · intro hsame
    have hlengths := congrArg List.length hsame
    simp only [List.length_append, List.length_nil] at hlengths
    exact List.eq_nil_of_length_eq_zero (by omega)
  · intro hquiet
    rw [hquiet, List.length_nil] at htitle habove
    rw [List.eq_nil_of_length_eq_zero htitle, List.eq_nil_of_length_eq_zero (Nat.le_zero.mp habove)]

/-! ## 4. Two plans -/

/-- **Plans that differ in texts only have one code, unless a label leaks.**  Comments never show
outside of comment lines, whatever they are; the label of a plan does not exactly if it is quiet. -/
theorem codeLines_eq_iff (runtime : String) (u v : ClassUnit) (h : SameButTexts u v)
    (hquiet : Quiet v.label) :
    codeLines ((renderer runtime).renderClass u) = codeLines ((renderer runtime).renderClass v) ↔
      Quiet u.label := by
  rw [(codeLines_withoutTexts_eq_iff runtime v).mpr hquiet, ← h]
  exact codeLines_withoutTexts_eq_iff runtime u

/-- The plan of a class without parents and properties. -/
def plainUnit (label : String) (comment : Option String) : ClassUnit :=
  ⟨⟨"x:Cell", "Cell", "x", true⟩, label, comment, [], [], []⟩

/-- A comment may hold what it likes; a label may hold a line end if a comment goes on behind it. -/
theorem codeLines_eq_iff_plainUnit :
    (codeLines ((renderer "crate").renderClass (plainUnit "Cell\n  // phone" (some "\n\x7d\n*/"))) =
      codeLines ((renderer "crate").renderClass (plainUnit "Cell" none)) ↔
        Quiet "Cell\n  // phone") ∧
    (codeLines ((renderer "crate").renderClass (plainUnit "Cell\nphone" none)) =
      codeLines ((renderer "crate").renderClass (plainUnit "Cell" none)) ↔ Quiet "Cell\nphone") ∧
    Quiet "Cell\n  // phone" ∧ ¬ Quiet "Cell\nphone" :=
  ⟨codeLines_eq_iff "crate" (plainUnit "Cell\n  // phone" (some "\n\x7d\n*/"))
      (plainUnit "Cell" none) (by decide) (by decide),
    codeLines_eq_iff "crate" (plainUnit "Cell\nphone" none) (plainUnit "Cell" none) (by decide)
      (by decide),
    by decide, by decide⟩

/-- A store with one class, and a label of it. -/
def labelled (label : String) : Store := .ofList [Index.declaration "x:Cell",
  ⟨.iri "x:Cell", .iri Vocabulary.rdfsLabel, .literal label (some Vocabulary.xsdString), none⟩]

/-- The entry of the class. -/
def labelledInfo (label : String) : ClassInfo := ⟨"x:Cell", label, none, "x", []⟩

theorem ofStore_labelled : ∀ label ∈ ["Cell", "Cell\nphone"],
    Index.ofStore (labelled label) = { classes := [labelledInfo label], properties := [] } := by
  simp only [labelled, Index.inserted.property]
  decide +kernel

theorem plan_labelled {label : String} (h : label ∈ ["Cell", "Cell\nphone"])
    (declare : String → String) :
    (Index.ofStore (labelled label)).plan declare (labelledInfo label)
      = .ok (plainUnit label none) := by
  have hnames : ∀ onClass, Naming.disambiguate onClass declare [] = .ok [] := fun onClass =>
    Naming.disambiguate_eq_ok_iff.mpr ⟨rfl, .nil, .nil⟩
  have hname : Naming.identifierOf "x:Cell" = "Cell" := by decide +kernel
  have hgroup : Naming.groupOf "x" = "x" := by decide +kernel
  rw [ofStore_labelled label h]
  refine plan_eq_ok_iff.mpr ⟨[], by cbv, [], hnames _, ?_⟩
  rw [ClassRef.ofClass, labelledInfo, hname, hgroup]
  rfl

/-- **A label that holds a line end leaks**: two stores that differ in one label have class files
that differ in their code. -/
theorem code_depends_on_label :
    ∃ u v, (Index.ofStore (labelled "Cell\nphone")).plan (renderer "crate").methodName
        (labelledInfo "Cell\nphone") = .ok u ∧
      (Index.ofStore (labelled "Cell")).plan (renderer "crate").methodName (labelledInfo "Cell") =
        .ok v ∧
      SameButTexts u v ∧
      codeLines ((renderer "crate").renderClass u)
        ≠ codeLines ((renderer "crate").renderClass v) := by
  refine ⟨_, _, plan_labelled (by decide) _, plan_labelled (by decide) _, by decide,
    fun hsame => ?_⟩
  have hcell : Quiet "Cell" := by decide
  have hphone : ¬ Quiet "Cell\nphone" := by decide
  rw [(codeLines_withoutTexts_eq_iff "crate" (plainUnit "Cell" none)).mpr hcell] at hsame
  exact hphone ((codeLines_withoutTexts_eq_iff "crate" (plainUnit "Cell\nphone" none)).mp hsame)

end OntoWrap.Rust
