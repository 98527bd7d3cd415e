import Mathlib.Data.List.TakeWhile
import OntoWrap.Proofs.RustCode
import OntoWrap.Proofs.RustTagging

/-!
# Which paths a Rust class file writes

A class file names other classes in three places: the comment above its struct links the parents,
wrapping a resource calls `init_type` of the ancestors, and the struct is converted into each of its
parents.  The calls are read where they are run (`callees?`).  This module reads the links
(`links?`) and the conversions (`conversionsIn`), and finds the parents in both, in their order and
nothing else (`links?_classLines`, `conversionsIn_classLines`).

A comment may say anything, also what looks like a link.  So links are read only where they have to
stand: below the empty comment line that parts them from the text of the comment, and right above
the attribute of the struct.
-/
namespace OntoWrap.Rust

open Naming Text Text.Source

variable {runtime : String} {unit : ClassUnit}

/-! ## 1. Links -/

/-- A link as it is written. -/
def link (path : String) : String := "[`" ++ path ++ "`]"

/-- The paths that a comment line links. -/
def linksIn? (line : String) : Option (List String) :=
  (between? "/// Converts into " "." line).bind fun text => (listed text).mapM (between? "[`" "`]")

/-- The paths that the comment above the struct of a file links. -/
def links? (lines : List String) : Option (List String) :=
  match (lines.takeWhile (· != "#[derive(Debug, Clone)]")).dropWhile (· != "///") with
  | [] => some []
  | [_, line] => linksIn? line
  | _ => none

/-- **The links of a line are read as they were written.** -/
theorem linksIn?_line {paths : List String} (hne : paths ≠ [])
    (h : ∀ path ∈ paths, Item (link path)) :
    linksIn? ("/// Converts into " ++ ", ".intercalate (paths.map link) ++ ".") = some paths := by
  have hitems : ∀ text ∈ paths.map link, Item text := by
    intro text htext
    obtain ⟨path, hpath, rfl⟩ := List.mem_map.mp htext
    exact h path hpath
  have hread : ∀ path ∈ paths, between? "[`" "`]" (link path) = some path :=
    fun path _ => between?_eq_some_iff.mpr rfl
  have hlisted : listed (", ".intercalate (paths.map link)) = paths.map link := by
    obtain ⟨first, others, rfl⟩ := List.exists_cons_of_ne_nil hne
    exact listed_intercalate hitems
  rw [linksIn?, between?_eq_some_iff.mpr rfl, Option.bind_some, hlisted,
    mapM_map_eq_some link hread, List.map_id']

/-- Links of a class with two parents, one of them in its own module. -/
example : linksIn? "/// Converts into [`super::Phone`], [`super::super::y::Medium`]."
    = some ["super::Phone", "super::super::y::Medium"] := by
  decide +kernel

theorem item_link {target : ClassRef} (h : target.WellNamed) (origin : ClassRef) :
    Item (link (classPath origin target).text) := by
  have hcomma : isIdentifierChar ',' = false := by decide
  have htype : ',' ∉ (typeName target).toList :=
    IdentifierText.notMem h.name.escapeReserved hcomma
  have hmodule : ',' ∉ (moduleName target.group).toList :=
    (smallName_moduleName h).identifier.notMem hcomma
  refine ⟨?_, by simp [link]⟩
  unfold link classPath
  split
  · simp [htype]
  · simp [htype, hmodule]

/-- A line that belongs neither to the links nor to the struct. -/
def Above (line : String) : Prop := line ≠ "///" ∧ line ≠ "#[derive(Debug, Clone)]"

theorem above_title (rest : String) : Above ("//! `" ++ rest) := by
  constructor <;> intro heq <;> simpa using congrArg String.toList heq

theorem above_preamble : ∀ line ∈ preamble runtime, Above line := by
  have huse : Above ("use " ++ (runtime ++ " as rt;")) := by
    constructor <;> intro heq <;> simpa using congrArg String.toList heq
  have hnote : ∀ line ∈ generatedNote, Above line := by
    unfold Above
    decide
  have hempty : Above "" := ⟨by decide, by decide⟩
  simp only [preamble, List.forall_mem_append, List.forall_mem_cons, String.append_assoc]
  exact ⟨hnote, huse, hempty, by simp⟩

theorem above_description : ∀ line ∈ description unit, Above line := by
  have hslashes : ∀ rest, Above ("/// " ++ rest) := by
    intro rest
    constructor <;> intro heq <;> simpa using congrArg String.toList heq
  have hcomment : ∀ text, ∀ line ∈ comment "/// " text, Above line := by
    intro text line hline
    obtain ⟨inner, -, rfl⟩ := List.mem_map.mp hline
    exact hslashes inner
  have hlabel : ∀ line ∈ ["/// " ++ unit.label ++ "."], Above line := by
    rw [List.forall_mem_singleton, String.append_assoc]
    exact hslashes _
  unfold description
  split
  · split
    · exact hlabel
    · exact hcomment _
  · exact hlabel

/-- Without links the attribute of the struct comes next. -/
theorem links?_attribute {front : List String} (h : ∀ line ∈ front, Above line)
    (rest : List String) : links? (front ++ "#[derive(Debug, Clone)]" :: rest) = some [] := by
  have hopen : ∀ line ∈ front, (line != "#[derive(Debug, Clone)]") = true :=
    fun line hline => bne_iff_ne.mpr (h line hline).2
  have hnone : front.dropWhile (· != "///") = [] :=
    List.dropWhile_eq_nil_iff.mpr fun line hline => bne_iff_ne.mpr (h line hline).1
  rw [links?, List.takeWhile_append_of_pos hopen, List.takeWhile_cons_of_neg (by simp),
    List.append_nil, hnone]

theorem links?_note {front : List String} (h : ∀ line ∈ front, Above line) {line : String}
    (hline : line ≠ "#[derive(Debug, Clone)]") (rest : List String) :
    links? (front ++ "///" :: line :: "#[derive(Debug, Clone)]" :: rest) = linksIn? line := by
  have hopen : ∀ line ∈ front, (line != "#[derive(Debug, Clone)]") = true :=
    fun line hline => bne_iff_ne.mpr (h line hline).2
  have hstart : ∀ line ∈ front, (line != "///") = true :=
    fun line hline => bne_iff_ne.mpr (h line hline).1
  rw [links?, List.takeWhile_append_of_pos hopen, List.takeWhile_cons_of_pos (by decide),
    List.takeWhile_cons_of_pos (by simpa using hline), List.takeWhile_cons_of_neg (by simp),
    List.dropWhile_append_of_pos hstart, List.dropWhile_cons_of_neg (by simp)]

/-- **The comment above a struct links the parents of the class**, in their order. -/
theorem links?_classLines (runtime : String) (h : ∀ p ∈ unit.parents, p.WellNamed) :
    links? (classLines runtime unit)
      = some (unit.parents.map fun p => (classPath unit.self p).text) := by
  have habove : ∀ line ∈ ["//! `" ++ unit.label ++ ("`: <" ++ unit.self.iri ++ ">.")]
      ++ preamble runtime ++ description unit, Above line := by
    simp only [List.forall_mem_append, List.forall_mem_singleton, String.append_assoc]
    exact ⟨⟨above_title _, above_preamble⟩, above_description⟩
  rw [classLines_eq, definitions, parentsNote]
  split
  · rename_i hroot
    have hnone : unit.parents = [] := List.isEmpty_iff.mp hroot
    rw [hnone]
    simpa only [List.append_assoc, List.nil_append, List.cons_append, List.map_nil] using
      links?_attribute habove _
  · rename_i hparents
    have hsome : unit.parents ≠ [] := fun hnone => hparents (List.isEmpty_iff.mpr hnone)
    have hnote : ∀ rest, "/// Converts into " ++ rest ≠ "#[derive(Debug, Clone)]" := by
      intro rest heq
      simpa using congrArg String.toList heq
    have hread : linksIn? ("/// Converts into " ++ ", ".intercalate
        (unit.parents.map fun p => "[`" ++ (classPath unit.self p).text ++ "`]") ++ ".")
          = some (unit.parents.map fun p => (classPath unit.self p).text) := by
      rw [← linksIn?_line (by simpa using hsome)
        (List.forall_mem_map.mpr fun p hp => item_link (h p hp) unit.self), List.map_map]
      rfl
    rw [← hread]
    simpa only [List.append_assoc, List.nil_append, List.cons_append, String.append_assoc] using
      links?_note habove (hnote _) _

/-! ## 2. Conversions -/

/-- A conversion of one type into another, as the lines of a file give it: how both are written, and
the body of the conversion. -/
structure Conversion where
  source : String
  target : String
  body : List String
  deriving DecidableEq, Repr

/-- The conversion whose block begins on a line.  It holds one function, which takes the source. -/
def conversion? (line : String) (rest : List String) : Option Conversion :=
  (between? "impl From<" " \x7b" line).bind fun head =>
    let source := String.ofList (head.toList.takeWhile (· != '>'))
    let function := bodyOf rest
    if function.head? = some ("fn from(value: " ++ source ++ ") -> Self \x7b") then
      (afterText? "> for ".toList (head.toList.dropWhile (· != '>'))).map fun target =>
        ⟨source, String.ofList target, bodyOf function.tail⟩
    else none

/-- The conversions among the lines of a file. -/
def conversionsIn : List String → List Conversion
  | [] => []
  | line :: rest => (conversion? line rest).toList ++ conversionsIn rest

/-- Lines that begin otherwise begin no conversion. -/
theorem conversionsIn_append {l : List String}
    (h : ∀ line ∈ l, afterText? "impl From<".toList line.toList = none) (m : List String) :
    conversionsIn (l ++ m) = conversionsIn m := by
  induction l with
  | nil => rfl
  | cons line l ih =>
    obtain ⟨hline, hrest⟩ := List.forall_mem_cons.mp h
    rw [List.cons_append, conversionsIn, conversion?, between?_eq_none hline, ih hrest]
    rfl

/-- The body of a block holds no conversion, as it is moved to the right. -/
theorem conversionsIn_indent (body m : List String) :
    conversionsIn (indent body ++ "\x7d" :: m) = conversionsIn m := by
  have hbody : ∀ line ∈ indent body, afterText? "impl From<".toList line.toList = none :=
    fun line hline => afterText?_eq_none_of_head? rfl (head?_indent (by decide) line hline)
  rw [conversionsIn_append hbody, ← List.singleton_append,
    conversionsIn_append (List.forall_mem_singleton.mpr (by decide))]

theorem conversionsIn_block {head : String} (body m : List String)
    (h : afterText? "impl From<".toList (head ++ " \x7b").toList = none) :
    conversionsIn (block head body ++ m) = conversionsIn m := by
  have hlines : block head body ++ m = [head ++ " \x7b"] ++ (indent body ++ "\x7d" :: m) := by
    simp [block]
  rw [hlines, conversionsIn_append (List.forall_mem_singleton.mpr h), conversionsIn_indent]

/-- **A conversion is read as it was written.** -/
theorem conversionsIn_conversion {name : String} (hname : IdentifierText name)
    (target result : String) (m : List String) :
    conversionsIn (conversion name target result ++ m)
      = ⟨name, target, [result]⟩ :: conversionsIn m := by
  have hlines : ∀ head body, block head body ++ m
      = (head ++ " \x7b") :: (indent body ++ "\x7d" :: m) := by
    simp [block]
  have hclose : ∀ c ∈ name.toList, (c != '>') = true := by
    intro c hc
    rw [bne_iff_ne]
    rintro rfl
    exact hname.notMem (by decide) hc
  have hhead : between? "impl From<" " \x7b" ("impl From<" ++ name ++ "> for " ++ target ++ " \x7b")
      = some (name ++ "> for " ++ target) :=
    between?_eq_some_iff.mpr (by simp only [String.append_assoc])
  have hsource : (name ++ "> for " ++ target).toList.takeWhile (· != '>') = name.toList := by
    rw [String.append_assoc, String.toList_append, List.takeWhile_append_of_pos hclose]
    simp
  have htarget : afterText? "> for ".toList
      ((name ++ "> for " ++ target).toList.dropWhile (· != '>')) = some target.toList := by
    rw [String.append_assoc, String.toList_append, List.dropWhile_append_of_pos hclose]
    exact afterText?_eq_some_iff.mpr (by simp)
  have hfunction : block ("fn from(value: " ++ name ++ ") -> Self") [result]
      = ("fn from(value: " ++ name ++ ") -> Self \x7b") :: (indent [result] ++ "\x7d" :: []) := by
    rw [block, String.append_assoc]
    rfl
  rw [conversion, hlines, conversionsIn, conversionsIn_indent, conversion?, hhead, Option.bind_some]
  simp only [bodyOf_indent, hsource, String.ofList_toList, hfunction, List.head?_cons, if_true,
    List.tail_cons, htarget, Option.map_some, Option.toList_some, List.singleton_append]

/-- The conversion of a class into one of its parents. -/
def parentConversion (unit : ClassUnit) (path : String) : Conversion :=
  ⟨typeName unit.self, path, [path ++ "::wrap(value.resource)"]⟩

/-- The conversion of a class without parents into its resource. -/
def rootConversion (unit : ClassUnit) : Conversion :=
  ⟨typeName unit.self, "rt::SimpleResource", ["value.resource"]⟩

/-- **A class is converted into each of its parents**, in their order, and without parents into its
resource. -/
theorem conversionsIn_classLines (runtime : String) (h : unit.self.WellNamed) :
    conversionsIn (classLines runtime unit)
      = (if unit.isRootLevel then [rootConversion unit] else [])
        ++ unit.parents.map fun p => parentConversion unit (classPath unit.self p).text := by
  have hname : IdentifierText (typeName unit.self) := h.name.escapeReserved
  have hbefore : ∀ line ∈ linesBefore runtime unit,
      afterText? "impl From<".toList line.toList = none := fun line hline =>
    afterText?_eq_none_of_head? rfl (head?_linesBefore runtime unit line hline)
  -- a type could be called `From`, but it has no angle bracket in its name
  have hstruct : afterText? "impl From<".toList ("impl " ++ typeName unit.self ++ " \x7b").toList
      = none := by
    refine Option.eq_none_iff_forall_ne_some.mpr fun rest hrest =>
      hname.notMem (c := '<') (by decide) ?_
    have hchars : (typeName unit.self).toList ++ " \x7b".toList = "From<".toList ++ rest := by
      simpa using afterText?_eq_some_iff.mp hrest
    have hbracket : '<' ∈ (typeName unit.self).toList ++ " \x7b".toList := by
      rw [hchars]
      simp
    simpa using hbracket
  have hempty : ∀ m, conversionsIn ([""] ++ m) = conversionsIn m :=
    conversionsIn_append (List.forall_mem_singleton.mpr (by decide))
  have hparents : ∀ parents : List ClassRef,
      conversionsIn (parents.flatMap fun parent =>
        [""] ++ conversion (typeName unit.self) (classPath unit.self parent).text
          ((classPath unit.self parent).text ++ "::wrap(value.resource)"))
        = parents.map fun p => parentConversion unit (classPath unit.self p).text := by
    intro parents
    induction parents with
    | nil => rfl
    | cons parent rest ih =>
      rw [List.flatMap_cons, List.append_assoc, hempty, conversionsIn_conversion hname, ih]
      rfl
  have hdefault : afterText? "impl From<".toList
      ("impl Default for " ++ typeName unit.self ++ " \x7b").toList = none := by
    simp [afterText?]
  have hasRef : afterText? "impl From<".toList
      ("impl AsRef<rt::SimpleResource> for " ++ typeName unit.self ++ " \x7b").toList = none := by
    simp [afterText?]
  rw [classLines_eq_append, List.append_assoc, conversionsIn_append hbefore,
    conversionsIn_block _ _ hstruct, ← List.singleton_append, hempty]
  delta conversions
  dsimp only
  rw [List.append_assoc, List.append_assoc, List.append_assoc, conversionsIn_block _ _ hdefault,
    hempty, conversionsIn_block _ _ hasRef]
  split
  · rw [List.append_assoc, hempty, conversionsIn_conversion hname, hparents]
    rfl
  · rw [List.nil_append, hparents, List.nil_append]

end OntoWrap.Rust
