import OntoWrap.Proofs.BlockComments
import OntoWrap.Proofs.OutputPaths

/-!
# Texts in the Qt output

Label and comments stand in block comments, and nowhere else.  A reader that takes the blocks out of
a header (`withoutBlocks`) is left with lines that depend on no text, whatever the texts are; and if
no IRI holds a line end, it takes out the blocks that were written and no other line
(`texts_stay_in_blocks`).
-/
namespace OntoWrap.Qt

open Text Text.Source

/-! ## 1. Exchanging the texts of a header -/

/-- The comments of a property can be exchanged. -/
theorem sameCode_accessorMethods (a : Accessor) :
    SameCode (indent (accessorMethods a)) (indent (accessorMethods a.withoutComment)) := by
  have hcomment : ∀ action, SameCode (indent (accessorComment action a))
      (indent (accessorComment action a.withoutComment)) := fun action =>
    SameCode.indent_blockComment _ _
  have hgetter : getter a.withoutComment = getter a := rfl
  have hsetter : setter a.withoutComment = setter a := rfl
  have hadder : adder a.withoutComment = adder a := rfl
  have hmember : ∀ action lines, SameCode
      (indent [""] ++ indent (accessorComment action a) ++ indent lines)
      (indent [""] ++ indent (accessorComment action a.withoutComment) ++ indent lines) :=
    fun action lines => ((SameCode.refl _).append (hcomment action)).append (.refl _)
  have hmembers := ((hmember "Get" (getter a)).append (hmember "Set" (setter a))).append
    (hmember "Add value to" (adder a))
  simp only [accessorMethods, indent_append, hgetter, hsetter, hadder]
  simpa only [List.append_assoc] using hmembers

theorem sameCode_accessors (accessors : List Accessor) :
    SameCode (indent (accessors.flatMap accessorMethods))
      (indent ((accessors.map Accessor.withoutComment).flatMap accessorMethods)) := by
  induction accessors with
  | nil => exact .refl _
  | cons a rest ih =>
    rw [List.map_cons, List.flatMap_cons, List.flatMap_cons, indent_append, indent_append]
    exact (sameCode_accessorMethods a).append ih

/-- The lines of a header before the comment of the class. -/
def opening (outer : String) (unit : ClassUnit) : List String :=
  let guardName := guardMacro unit.self
  ["#ifndef " ++ guardName, "#define " ++ guardName, ""]
  ++ libraryHeaders.map (fun header => "#include <QtCore/" ++ header ++ ">")
  ++ ["", "#include <" ++ Text.Case.lowerText outer ++ "/simpleresource.h>", ""]
  ++ parentIncludes unit
  ++ ["namespace " ++ outer ++ " \x7b", "namespace " ++ namespaceName unit.self ++ " \x7b"]

/-- The lines of a header from the comment of the class to its first property. -/
def heading (outer : String) (unit : ClassUnit) : List String :=
  ["class " ++ unit.self.name ++ " : "
      ++ ", ".intercalate ((bases outer unit).map ("public virtual " ++ ·)),
    "\x7b"]
  ++ ["public:"]
  ++ indent ((constructor unit false .own).lines unit ++ [""]
    ++ (constructor unit true .own).lines unit ++ [""]
    ++ assignment unit)

/-- The lines of a header after its last property. -/
def closing (unit : ClassUnit) : List String :=
  indent [""] ++ ["protected:"]
  ++ indent ((constructor unit false .passed).lines unit
    ++ (constructor unit true .passed).lines unit)
  ++ ["\x7d;", "\x7d", "\x7d", "", "#endif"]

theorem classLines_eq (outer : String) (unit : ClassUnit) :
    classLines outer unit = opening outer unit ++ blockComment (unit.comment.getD unit.label) ++
      heading outer unit ++ indent (unit.accessors.flatMap accessorMethods) ++ closing unit := by
  delta classLines members opening heading closing
  simp only [indent_append, List.append_assoc]

/-- Without its texts, a plan has a header that differs in blocks only. -/
theorem sameCode_classLines (outer : String) (unit : ClassUnit) :
    SameCode (classLines outer unit) (classLines outer unit.withoutTexts) := by
  have hopening : opening outer unit.withoutTexts = opening outer unit := rfl
  have hheading : heading outer unit.withoutTexts = heading outer unit := rfl
  have hclosing : closing unit.withoutTexts = closing unit := rfl
  rw [classLines_eq, classLines_eq, hopening, hheading, hclosing]
  exact ((((SameCode.refl _).append (.blockComment _ _)).append (.refl _)).append
    (sameCode_accessors _)).append (.refl _)

theorem linesOf_renderClass (outer : String) (unit : ClassUnit) :
    linesOf ((renderer outer).renderClass unit)
      = (classLines outer unit ++ [""]).flatMap linesOf := by
  have hend : EndsPlain (classLines outer unit) := by
    have hlast : EndsPlain ["\x7d;", "\x7d", "\x7d", "", "#endif"] :=
      ⟨["\x7d;", "\x7d", "\x7d", ""], "#endif", 'f', rfl, by decide, by decide⟩
    rw [classLines_eq, closing]
    exact (hlast.append_left _).append_left _
  exact linesOf_finish_flatMap hend

/-- **Plans that differ in texts only have headers that differ in blocks only**, whatever the texts
are. -/
theorem withoutBlocks_eq {u v : ClassUnit} (outer : String) (h : SameButTexts u v) :
    withoutBlocks ((renderer outer).renderClass u)
      = withoutBlocks ((renderer outer).renderClass v) := by
  have hplain : ∀ unit, withoutBlocks ((renderer outer).renderClass unit) =
      withoutBlocks ((renderer outer).renderClass unit.withoutTexts) := by
    intro unit
    rw [withoutBlocks, withoutBlocks, linesOf_renderClass, linesOf_renderClass]
    exact ((sameCode_classLines outer unit).append (.refl [""])).code false
  rw [hplain u, h, ← hplain v]

/-! ## 2. Names on one line -/

/-- A text without line ends. -/
def OneLine (text : String) : Prop := '\n' ∉ text.toList

instance (text : String) : Decidable (OneLine text) :=
  inferInstanceAs (Decidable ('\n' ∉ text.toList))

namespace OneLine

variable {s t : String}

theorem append (hs : OneLine s) (ht : OneLine t) : OneLine (s ++ t) := by
  rw [OneLine, String.toList_append, List.mem_append, not_or]
  exact ⟨hs, ht⟩

theorem intercalate {separator : String} (hseparator : OneLine separator) {texts : List String}
    (h : ∀ text ∈ texts, OneLine text) : OneLine (separator.intercalate texts) := by
  intro hend
  rcases mem_intercalate hend with hmem | ⟨text, htext, hmem⟩
  · exact hseparator hmem
  · exact h text htext hmem

/-- A code point beyond the line end is none. -/
theorem ofNat_ne {n : Nat} (h : 10 < n) : Char.ofNat n ≠ '\n' := by
  by_cases hvalid : n.isValidChar
  · intro heq
    have hn : (Char.ofNat n).toNat = n := by
      delta Char.ofNat
      rw [dif_pos hvalid]
      rfl
    rw [heq] at hn
    exact absurd hn (by simp; omega)
  · have hn : Char.ofNat n = '\x00' := by
      delta Char.ofNat
      rw [dif_neg hvalid]
      rfl
    rw [hn]
    decide

/-- No table of letter case leads to a line end. -/
theorem notMem_formOf {sequences : List (Nat × List Nat)} {runs : List Case.Run}
    (hsequences : (sequences.all fun entry => entry.2.all fun n => decide (10 < n)) = true)
    (hruns : (runs.all fun r => decide (10 < (r.first : Int) + r.shift)) = true) {c : Char}
    (hc : c ≠ '\n') : '\n' ∉ Case.formOf sequences runs c := by
  unfold Case.formOf
  split
  · rename_i key form hfind
    intro hmem
    obtain ⟨n, hn, heq⟩ := List.mem_map.mp hmem
    have hform := List.all_eq_true.mp hsequences _ (List.mem_of_find?_eq_some hfind)
    have hbeyond : 10 < n := by simpa using List.all_eq_true.mp hform n hn
    exact ofNat_ne hbeyond heq
  · split
    · rename_i r hfind
      have hshift : 10 < (r.first : Int) + r.shift := by
        simpa using List.all_eq_true.mp hruns r (List.mem_of_find?_eq_some hfind)
      have hcovers : r.covers c.toNat = true := by simpa using List.find?_some hfind
      have hfirst : r.first ≤ c.toNat := by
        simp only [Case.Run.covers, Bool.and_eq_true, decide_eq_true_eq] at hcovers
        exact hcovers.1.1
      intro hmem
      exact ofNat_ne (by omega) (List.mem_singleton.mp hmem).symm
    · simpa using hc.symm

theorem upperText (h : OneLine s) : OneLine (Case.upperText s) := by
  rw [OneLine, Case.upperText, String.toList_ofList, List.mem_flatMap]
  rintro ⟨c, hc, hmem⟩
  have hne : c ≠ '\n' := fun heq => h (heq ▸ hc)
  unfold Case.upper at hmem
  split at hmem
  · rename_i hascii
    have htoUpper : c.toUpper ≠ '\n' :=
      Naming.forall_isAscii (P := fun c => c ≠ '\n' → c.toUpper ≠ '\n') (by decide) hascii hne
    exact htoUpper (List.mem_singleton.mp hmem).symm
  · exact notMem_formOf (by decide +kernel) (by decide +kernel) hne hmem

theorem lowerText (h : OneLine s) : OneLine (Case.lowerText s) := by
  suffices hfrom : ∀ before cs, '\n' ∉ cs → '\n' ∉ Case.lowerFrom before cs by
    rw [OneLine, Case.lowerText, String.toList_ofList]
    exact hfrom [] _ h
  intro before cs
  induction cs generalizing before with
  | nil => simp [Case.lowerFrom]
  | cons c cs ih =>
    intro hcs
    rw [Case.lowerFrom, List.mem_append, not_or]
    refine ⟨?_, ih _ fun hmem => hcs (List.mem_cons_of_mem _ hmem)⟩
    have hne : c ≠ '\n' := fun heq => hcs (heq ▸ List.mem_cons_self)
    split
    · split
      · decide
      · decide
    · unfold Case.lower
      split
      · rename_i hascii
        have htoLower : c.toLower ≠ '\n' :=
          Naming.forall_isAscii (P := fun c => c ≠ '\n' → c.toLower ≠ '\n') (by decide) hascii hne
        simpa using htoLower.symm
      · exact notMem_formOf (by decide +kernel) (by decide +kernel) hne

theorem urlExpr (h : OneLine s) : OneLine (urlExpr s) := by
  have hescaped : '\n' ∉ escapeChars s.toList := by
    rw [escapeChars, List.mem_flatMap]
    rintro ⟨c, hc, hmem⟩
    have hne : c ≠ '\n' := fun heq => h (heq ▸ hc)
    split at hmem
    · simp [hne.symm] at hmem
    · exact hne (List.mem_singleton.mp hmem).symm
  unfold Qt.urlExpr
  refine append (append (by decide) ?_) (by decide)
  rwa [OneLine, String.toList_ofList]

end OneLine

/-- What a header is written from besides texts holds no line end. -/
structure InOneLine (outer : String) (unit : ClassUnit) : Prop where
  outer : OneLine outer
  refs : ∀ r ∈ unit.self :: unit.parents ++ unit.ancestors, OneLine r.name ∧ OneLine r.group
  iri : OneLine unit.self.iri
  properties : ∀ a ∈ unit.accessors, OneLine a.property
  accessors : ∀ a ∈ unit.accessors, ∀ name ∈ a.names.accessors, OneLine name

/-- The plan of a class is in one line if its IRIs are. -/
theorem inOneLine_of_plan {index : Index} {declare : String → String} {c : ClassInfo}
    {unit : ClassUnit} (h : index.plan declare c = .ok unit) {outer : String}
    (houter : OneLine outer)
    (hiri : OneLine unit.self.iri) (hproperties : ∀ a ∈ unit.accessors, OneLine a.property) :
    InOneLine outer unit := by
  have hidentifier : ∀ {s : String}, Naming.IdentifierText s → OneLine s := fun hs =>
    hs.notMem (by decide)
  have href : ∀ d : ClassInfo, OneLine (ClassRef.ofClass d).name ∧
      OneLine (ClassRef.ofClass d).group :=
    fun d => ⟨hidentifier (wellNamed_ofClass d).name,
      hidentifier (wellNamed_ofClass d).group.identifier⟩
  have hnames := identifierText_of_plan h
  obtain ⟨ancestors, -, named, -, rfl⟩ := plan_eq_ok_iff.mp h
  refine ⟨houter, ?_, hiri, hproperties,
    fun a ha name hname => hidentifier (hnames a ha name hname)⟩
  intro r hr
  rw [List.cons_append, List.mem_cons, List.mem_append] at hr
  rcases hr with rfl | hr | hr
  · exact href c
  · obtain ⟨d, -, rfl⟩ := List.mem_map.mp hr
    exact href d
  · obtain ⟨d, -, rfl⟩ := List.mem_map.mp hr
    exact href d

/-! ## 3. The lines of a header -/

section Header

variable {outer : String} {unit : ClassUnit}

theorem oneLine_scalarName (t : ScalarType) : OneLine (scalarName t) := by
  cases t <;> decide

theorem oneLine_valueTypeName (v : ValueType) : OneLine (valueTypeName v) := by
  cases v with
  | scalar t => exact oneLine_scalarName t
  | list t =>
    exact ((by decide : OneLine "QList<").append (oneLine_scalarName t)).append (by decide)
  | stringList => decide

theorem oneLine_namespaceName {r : ClassRef} (h : OneLine r.group) : OneLine (namespaceName r) :=
  h.upperText

theorem oneLine_qualified {r : ClassRef} (h : OneLine r.name ∧ OneLine r.group) :
    OneLine (qualified r) :=
  ((oneLine_namespaceName h.2).append (by decide)).append h.1

/-- A line is plain if it is fixed text around a name and the fixed text keeps it from opening a
block. -/
theorem plain_around {front s back : String} {c : Char} (hs : OneLine s)
    (hfixed : OneLine front ∧ OneLine back ∧ c ∈ front.toList ++ back.toList ∧
      c ∉ [' ', '/', '*']) :
    Plain (front ++ s ++ back) := by
  obtain ⟨hfront, hback, hc, hne⟩ := hfixed
  refine .of_mem (c := c) ((hfront.append hs).append hback) ?_ hne
  simp only [String.toList_append, List.mem_append] at hc ⊢
  tauto

/-- A directive holds a number sign. -/
theorem plain_directive {front rest : String} (hfront : OneLine front) (hsign : '#' ∈ front.toList)
    (hrest : OneLine rest) : Plain (front ++ rest) :=
  .of_mem (c := '#') (hfront.append hrest) (by simp [hsign]) (by decide)

theorem plain_parentIncludes (h : InOneLine outer unit) :
    ∀ line ∈ parentIncludes unit, Plain line := by
  unfold parentIncludes
  split
  · simp
  · intro line hline
    rcases List.mem_append.mp hline with hline | hline
    · obtain ⟨p, hp, rfl⟩ := List.mem_map.mp hline
      obtain ⟨hname, hgroup⟩ := h.refs p (by simp [hp])
      simp only [String.append_assoc]
      exact plain_directive (by decide) (by decide) (hgroup.append ((by decide : OneLine "/").append
        (hname.lowerText.append (by decide))))
    · rw [List.mem_singleton.mp hline]
      exact plain_empty

theorem plain_opening (h : InOneLine outer unit) : ∀ line ∈ opening outer unit, Plain line := by
  obtain ⟨hname, hgroup⟩ := h.refs unit.self (by simp)
  have hspace := oneLine_namespaceName hgroup
  have hguard : OneLine (guardMacro unit.self) :=
    ((((by decide : OneLine "_").append hspace).append (by decide)).append hname.upperText).append
      (by decide)
  have hlibrary : ∀ line ∈ libraryHeaders.map (fun header => "#include <QtCore/" ++ header ++ ">"),
      Plain line := by
    intro line hline
    obtain ⟨header, hheader, rfl⟩ := List.mem_map.mp hline
    have hone : ∀ header ∈ libraryHeaders, OneLine header := by decide
    exact plain_around (c := '#') (hone header hheader) (by decide)
  have hnamespace : ∀ {name}, OneLine name → Plain ("namespace " ++ name ++ " \x7b") := fun hname =>
    plain_around (c := 'n') hname (by decide)
  have hruntime : Plain ("#include <" ++ Case.lowerText outer ++ "/simpleresource.h>") :=
    plain_around (c := '#') h.outer.lowerText (by decide)
  simp only [opening, List.forall_mem_append, List.forall_mem_cons, List.not_mem_nil, false_imp_iff,
    implies_true, and_true]
  exact ⟨⟨⟨⟨⟨plain_directive (by decide) (by decide) hguard,
      plain_directive (by decide) (by decide) hguard, plain_empty⟩, hlibrary⟩,
    plain_empty, hruntime, plain_empty⟩, plain_parentIncludes h⟩, hnamespace h.outer,
    hnamespace hspace⟩

theorem oneLine_ite {p : Prop} [Decidable p] {s t : String} (hs : OneLine s) (ht : OneLine t) :
    OneLine (if p then s else t) := by
  split
  · exact hs
  · exact ht

theorem oneLine_typeText (h : InOneLine outer unit) (type : TypeArgument) :
    OneLine (type.text unit) := by
  cases type with
  | own => exact h.iri.urlExpr
  | passed => exact (by decide : OneLine "type")

theorem oneLine_parameters (k : Constructor) : OneLine k.parameters := by
  refine .intercalate (by decide) fun text htext => ?_
  rcases List.mem_append.mp htext with htext | htext
  all_goals
    split at htext
    · rw [List.mem_singleton.mp htext]
      decide
    · cases htext

theorem oneLine_initializers (h : InOneLine outer unit) {k : Constructor}
    (hancestors : k.ancestors ⊆ unit.ancestors) : OneLine (k.initializers unit) := by
  have harguments : OneLine (k.arguments unit) :=
    (oneLine_ite (by decide) (by decide)).append (oneLine_typeText h k.type)
  refine oneLine_ite (oneLine_ite (by decide) (by decide))
    ((oneLine_ite (by decide) (by decide)).append (.intercalate (by decide) fun text htext => ?_))
  obtain ⟨a, ha, rfl⟩ := List.mem_map.mp htext
  have hqualified : OneLine (qualified a) := oneLine_qualified (h.refs a (by simp [hancestors ha]))
  exact ((hqualified.append (by decide)).append harguments).append (by decide)

theorem plain_constructor (h : InOneLine outer unit) {k : Constructor}
    (hancestors : k.ancestors ⊆ unit.ancestors) : ∀ line ∈ k.lines unit, Plain line := by
  obtain ⟨hname, -⟩ := h.refs unit.self (by simp)
  have hhead : OneLine (unit.self.name ++ "(" ++ k.parameters ++ ")") :=
    ((hname.append (by decide)).append (oneLine_parameters k)).append (by decide)
  have hbody : ∀ line ∈ if k.tags then ["addType(" ++ k.type.text unit ++ ");"] else [],
      Plain line := by
    intro line hline
    split at hline
    · rw [List.mem_singleton.mp hline]
      exact plain_around (c := '(') (oneLine_typeText h k.type) (by decide)
    · cases hline
  unfold Constructor.lines
  dsimp only
  split
  · exact plain_block hhead hbody
  · refine List.forall_mem_cons.mpr ⟨.of_mem (c := '(') hhead (by simp) (by decide), ?_⟩
    exact plain_block
      ((by decide : OneLine "  : ").append (oneLine_initializers h hancestors)) hbody

theorem ancestors_constructor (unit : ClassUnit) (copies : Bool) (type : TypeArgument) :
    (constructor unit copies type).ancestors ⊆ unit.ancestors := by
  intro a ha
  rw [constructor] at ha
  dsimp only at ha
  split at ha
  · cases ha
  · exact ha

theorem plain_assignment (h : InOneLine outer unit) : ∀ line ∈ assignment unit, Plain line := by
  obtain ⟨hname, -⟩ := h.refs unit.self (by simp)
  refine plain_block (hname.append (by decide)) ?_
  simp only [List.forall_mem_cons, List.not_mem_nil, false_imp_iff, implies_true, and_true]
  exact ⟨⟨by decide, by decide⟩, plain_around (c := '(') (oneLine_typeText h .own) (by decide),
    ⟨by decide, by decide⟩⟩

theorem plain_heading (h : InOneLine outer unit) : ∀ line ∈ heading outer unit, Plain line := by
  obtain ⟨hname, -⟩ := h.refs unit.self (by simp)
  have hbases : ∀ base ∈ (bases outer unit).map ("public virtual " ++ ·), OneLine base := by
    intro base hbase
    obtain ⟨written, hwritten, rfl⟩ := List.mem_map.mp hbase
    refine (by decide : OneLine "public virtual ").append ?_
    unfold bases at hwritten
    split at hwritten
    · rw [List.mem_singleton.mp hwritten]
      exact h.outer.append (by decide)
    · obtain ⟨p, hp, rfl⟩ := List.mem_map.mp hwritten
      exact oneLine_qualified (h.refs p (by simp [hp]))
  have hclass : Plain ("class " ++ unit.self.name ++ " : " ++
      ", ".intercalate ((bases outer unit).map ("public virtual " ++ ·))) :=
    .of_mem (c := 'c') ((((by decide : OneLine "class ").append hname).append (by decide)).append
      (.intercalate (by decide) hbases)) (by simp) (by decide)
  have hmembers : ∀ line ∈ (constructor unit false .own).lines unit ++ [""]
      ++ (constructor unit true .own).lines unit ++ [""] ++ assignment unit, Plain line := by
    simp only [List.forall_mem_append, List.forall_mem_cons, List.not_mem_nil, false_imp_iff,
      implies_true, and_true]
    exact ⟨⟨⟨⟨plain_constructor h (ancestors_constructor ..), plain_empty⟩,
      plain_constructor h (ancestors_constructor ..)⟩, plain_empty⟩, plain_assignment h⟩
  rw [heading, List.forall_mem_append, List.forall_mem_append, List.forall_mem_cons,
    List.forall_mem_singleton, List.forall_mem_singleton]
  exact ⟨⟨⟨hclass, ⟨by decide, by decide⟩⟩, ⟨by decide, by decide⟩⟩, plain_indent hmembers⟩

theorem plain_closing (h : InOneLine outer unit) : ∀ line ∈ closing unit, Plain line := by
  have hmembers : ∀ line ∈ (constructor unit false .passed).lines unit
      ++ (constructor unit true .passed).lines unit, Plain line :=
    List.forall_mem_append.mpr ⟨plain_constructor h (ancestors_constructor ..),
      plain_constructor h (ancestors_constructor ..)⟩
  have hend : ∀ line ∈ ["\x7d;", "\x7d", "\x7d", "", "#endif"],
      OneLine line ∧ opensBlock line = false := by decide
  rw [closing, List.forall_mem_append, List.forall_mem_append, List.forall_mem_append,
    List.forall_mem_singleton]
  exact ⟨⟨⟨plain_indent (by simpa using plain_empty), ⟨by decide, by decide⟩⟩,
      plain_indent hmembers⟩,
    fun line hline => ⟨(hend line hline).1, (hend line hline).2⟩⟩

section Accessor

variable {a : Accessor}

theorem plain_getter (hproperty : OneLine a.property) (hname : OneLine a.names.getter) :
    ∀ line ∈ getter a, Plain line := by
  have hkey := hproperty.urlExpr
  have htype := oneLine_valueTypeName a.valueType
  have helement := oneLine_scalarName a.valueType.element
  refine plain_block (((htype.append (by decide)).append hname).append (by decide)) ?_
  rw [List.forall_mem_append, List.forall_mem_append, List.forall_mem_singleton,
    List.forall_mem_singleton]
  refine ⟨⟨.of_mem (c := ';') (htype.append (by decide)) (by simp) (by decide), ?_⟩,
    ⟨by decide, by decide⟩⟩
  split
  all_goals
    rw [List.forall_mem_cons, List.forall_mem_singleton]
  · exact ⟨plain_around (c := '(') hkey (by decide), plain_around (c := ';') helement (by decide)⟩
  · exact ⟨plain_around (c := '(') hkey (by decide),
      .of_mem (c := ';') (((((by decide : OneLine "    value = property(").append hkey).append
        (by decide)).append helement).append (by decide)) (by simp) (by decide)⟩

theorem plain_setter (hproperty : OneLine a.property) (hname : OneLine a.names.setter) :
    ∀ line ∈ setter a, Plain line := by
  have htype := oneLine_valueTypeName a.valueType
  have helement := oneLine_scalarName a.valueType.element
  refine plain_block (((((by decide : OneLine "void ").append hname).append (by decide)).append
    htype).append (by decide)) ?_
  rw [List.forall_mem_append, List.forall_mem_append, List.forall_mem_singleton,
    List.forall_mem_singleton]
  refine ⟨⟨⟨by decide, by decide⟩, ?_⟩, ?_⟩
  · split
    · rw [List.forall_mem_cons, List.forall_mem_singleton]
      exact ⟨plain_around (c := '(') helement (by decide), ⟨by decide, by decide⟩⟩
    · rw [List.forall_mem_singleton]
      exact ⟨by decide, by decide⟩
  · exact plain_around (c := '(') hproperty.urlExpr (by decide)

theorem plain_adder (hproperty : OneLine a.property) (hname : OneLine a.names.adder) :
    ∀ line ∈ adder a, Plain line := by
  refine plain_block (((((by decide : OneLine "void ").append hname).append (by decide)).append
    (oneLine_scalarName a.valueType.element)).append (by decide)) ?_
  rw [List.forall_mem_singleton]
  exact plain_around (c := '(') hproperty.urlExpr (by decide)

/-- A reader takes the comments out of the methods of a property. -/
theorem reads_accessorMethods (hproperty : OneLine a.property)
    (hnames : ∀ name ∈ a.names.accessors, OneLine name) :
    Reads (indent (accessorMethods a)) (indent (accessorComment "Get" a) ++
      indent (accessorComment "Set" a) ++ indent (accessorComment "Add value to" a)) := by
  have hmember : ∀ action {lines : List String}, (∀ line ∈ lines, Plain line) →
      Reads (indent [""] ++ indent (accessorComment action a) ++ indent lines)
        (indent (accessorComment action a)) := by
    intro action lines hlines
    have hempty : ∀ line ∈ indent [""], Plain line := plain_indent (by simpa using plain_empty)
    have hcomment : Reads (indent (accessorComment action a)) (indent (accessorComment action a)) :=
      .indent_blockComment _
    have hreads := ((Reads.plain hempty).append hcomment).append (.plain (plain_indent hlines))
    rwa [List.nil_append, List.append_nil] at hreads
  have hnames : OneLine a.names.getter ∧ OneLine a.names.setter ∧ OneLine a.names.adder := by
    simpa [Naming.AccessorNames.accessors] using hnames
  have hreads := ((hmember "Get" (plain_getter hproperty hnames.1)).append
    (hmember "Set" (plain_setter hproperty hnames.2.1))).append
    (hmember "Add value to" (plain_adder hproperty hnames.2.2))
  simp only [accessorMethods, indent_append, List.append_assoc] at hreads ⊢
  exact hreads

end Accessor

/-- The lines of a header that stand in blocks. -/
def commentLines (unit : ClassUnit) : List String :=
  blockComment (unit.comment.getD unit.label) ++ unit.accessors.flatMap fun a =>
    indent (accessorComment "Get" a) ++ indent (accessorComment "Set" a)
      ++ indent (accessorComment "Add value to" a)

/-- **The blocks that are read are those that were written**, if no IRI and no name holds a line
end. -/
theorem blockLines_renderClass (h : InOneLine outer unit) :
    blockLines ((renderer outer).renderClass unit) = commentLines unit := by
  have haccessors : Reads (indent (unit.accessors.flatMap accessorMethods))
      (unit.accessors.flatMap fun a => indent (accessorComment "Get" a) ++
        indent (accessorComment "Set" a) ++ indent (accessorComment "Add value to" a)) := by
    rw [indent, List.map_flatMap]
    exact Reads.flatMap fun a ha => reads_accessorMethods (h.properties a ha) (h.accessors a ha)
  have hend : ∀ line ∈ [""], Plain line := by simpa using plain_empty
  have hreads := (((((Reads.plain (plain_opening h)).append
    (.blockComment (unit.comment.getD unit.label))).append (.plain (plain_heading h))).append
    haccessors).append (.plain (plain_closing h))).append (.plain hend)
  rw [← classLines_eq, List.nil_append, List.append_nil, List.append_nil, List.append_nil] at hreads
  rw [blockLines, linesOf_renderClass, hreads.found, commentLines]

end Header

/-! ## 4. Two plans -/

/-- **Texts stay in their blocks.**  Every block is one block comment, whatever its text is; headers
of plans that differ in texts are the same without their blocks; and the lines that are left out are
those that were written as comments, if no name and no IRI holds a line end.  No planned name
does. -/
theorem texts_stay_in_blocks (outer : String) :
    (∀ text, ClosedBlock "" (blockComment text) ∧ ClosedBlock "    " (indent (blockComment text))) ∧
    (∀ u v, SameButTexts u v →
      withoutBlocks ((renderer outer).renderClass u) =
        withoutBlocks ((renderer outer).renderClass v)) ∧
    (∀ u, InOneLine outer u → blockLines ((renderer outer).renderClass u) = commentLines u) ∧
    ∀ (index : Index) (c : ClassInfo) (u : ClassUnit),
      index.plan (renderer outer).methodName c = .ok u →
      OneLine outer → OneLine u.self.iri → (∀ a ∈ u.accessors, OneLine a.property) →
        InOneLine outer u :=
  ⟨fun text => ⟨closedBlock_blockComment text, closedBlock_indent text⟩,
    fun _ _ => withoutBlocks_eq outer,
    fun _ => blockLines_renderClass,
    fun _ _ _ hplan houter hiri hproperties => inOneLine_of_plan hplan houter hiri hproperties⟩

/-- A plan with one property whose label and comments are one text. -/
def loudUnit (text : String) : ClassUnit where
  self := ⟨"x:Cell", "Cell", "x", true⟩
  label := text
  comment := some text
  parents := []
  ancestors := []
  accessors := [⟨"x:number", ⟨"number", "getNumber", "setNumber", "addNumber"⟩, .scalar .int32,
    .one, some text⟩]

/-- Texts that close a comment and open one are read as well as any, and a rendered plan is in one
line. -/
theorem texts_stay_in_blocks_loudUnit :
    ClosedBlock "" (blockComment "**// * \n/ */") ∧
    withoutBlocks ((renderer "Onto").renderClass (loudUnit "*/\n\x7d\n/**")) =
      withoutBlocks ((renderer "Onto").renderClass (loudUnit "a number")) ∧
    blockLines ((renderer "Onto").renderClass (loudUnit "*/\n\x7d\n/**")) =
      commentLines (loudUnit "*/\n\x7d\n/**") ∧
    ∃ c ∈ (Index.ofStore media).classes, ∃ u,
      (Index.ofStore media).plan (renderer "Onto").methodName c = .ok u ∧ InOneLine "Onto" u := by
  obtain ⟨hclosed, hcode, hread, hplanned⟩ := texts_stay_in_blocks "Onto"
  have hloud : InOneLine "Onto" (loudUnit "*/\n\x7d\n/**") :=
    ⟨by decide, by decide, by decide, by decide, by decide⟩
  obtain ⟨rendering, hrendered, hunits⟩ := exists_rendering_media
  have hcell : (⟨"x:Cell", "Cell", none, "x", ["x:Phone"]⟩ : ClassInfo) ∈
      (Index.ofStore media).classes := by
    rw [ofStore_media]
    exact List.mem_cons_self
  obtain ⟨u, hu, hplan⟩ := exists_plan_of_renderAll hrendered hcell
  have hiris : ∀ u ∈ mediaUnits, OneLine u.self.iri ∧ ∀ a ∈ u.accessors, OneLine a.property := by
    decide
  obtain ⟨hiri, hproperties⟩ := hiris u (hunits ▸ hu)
  exact ⟨(hclosed _).1, hcode _ _ (by decide), hread _ hloud, _, hcell, u, hplan,
    hplanned _ _ u hplan (by decide) hiri hproperties⟩

end OntoWrap.Qt
