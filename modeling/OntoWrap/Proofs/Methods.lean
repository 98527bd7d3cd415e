import Mathlib.Data.List.Basic
import OntoWrap.Proofs.Identifiers
import OntoWrap.Text.Lexer
import OntoWrap.Wrapper.Render.Rust

/-!
# The methods of a Rust wrapper

`declaredMethods` reads off the lines of an `impl` block which methods it declares.  The
constructors of every wrapper declare the same nine (`declaredMethods_constructors`), and the lines
of an accessor declare its three names as respelled (`declaredMethods_accessorMethods`).
-/
namespace OntoWrap.Rust

open Naming Text Text.Source

/-! ## 1. Reading a line -/

/-- What is left of a line after its visibility. -/
def afterVisibility (cs : List Char) : List Char :=
  (afterText? "pub ".toList cs <|> afterText? "pub(crate) ".toList cs).getD cs

/-- The method that a line of some characters declares: the name between `fn` and the parameters. -/
def methodIn? (cs : List Char) : Option String :=
  (afterText? "fn ".toList (afterVisibility cs)).map fun rest =>
    String.ofList (rest.takeWhile (· != '('))

/-- The method that a line declares. -/
def declaredMethod? (line : String) : Option String := methodIn? line.toList

/-- The methods that some lines declare, in order. -/
def declaredMethods (lines : List String) : List String := lines.filterMap declaredMethod?

/-- The methods that every wrapper has. -/
def fixedMethods : List String := [
  "new", "from_resource", "assign", "with_type", "from_resource_with_type", "init_type", "wrap",
  "resource", "into_resource"]

theorem methodIn?_pub (cs : List Char) :
    methodIn? ('p' :: 'u' :: 'b' :: ' ' :: 'f' :: 'n' :: ' ' :: cs)
      = some (String.ofList (cs.takeWhile (· != '('))) :=
  rfl

theorem methodIn?_crate (cs : List Char) :
    methodIn? ('p' :: 'u' :: 'b' :: '(' :: 'c' :: 'r' :: 'a' :: 't' :: 'e' :: ')' :: ' ' ::
        'f' :: 'n' :: ' ' :: cs)
      = some (String.ofList (cs.takeWhile (· != '('))) :=
  rfl

theorem methodIn?_comment (cs : List Char) : methodIn? ('/' :: cs) = none := rfl

theorem methodIn?_blank (cs : List Char) : methodIn? (' ' :: cs) = none := rfl

/-- A fixed line is read character by character. -/
theorem declaredMethod?_ofList (cs : List Char) :
    declaredMethod? (String.ofList cs) = methodIn? cs := by
  rw [declaredMethod?, String.toList_ofList]

/-- A line with a fixed beginning is read character by character up to the rest. -/
theorem declaredMethod?_ofList_append (cs : List Char) (rest : String) :
    declaredMethod? (String.ofList cs ++ rest) = methodIn? (cs ++ rest.toList) := by
  rw [declaredMethod?, String.toList_append, String.toList_ofList]

theorem declaredMethod?_empty : declaredMethod? "" = none := by decide

/-- **A public method is declared under the name that its line gives.** -/
theorem declaredMethod?_pub {name : String} (hname : IdentifierText name) (cs : List Char)
    (rest : String) :
    declaredMethod? ("pub fn " ++ (name ++ (String.ofList ('(' :: cs) ++ rest))) = some name := by
  have hopen : ∀ c ∈ name.toList, (c != '(') = true := by
    intro c hc
    rw [bne_iff_ne]
    rintro rfl
    exact absurd (hname _ hc) (by decide)
  have hread : (name.toList ++ '(' :: (cs ++ rest.toList)).takeWhile (· != '(') = name.toList := by
    rw [List.takeWhile_append_of_pos hopen]
    simp
  rw [declaredMethod?_ofList_append, String.toList_append, String.toList_append,
    String.toList_ofList]
  simp only [List.cons_append, List.nil_append, methodIn?_pub, hread, String.ofList_toList]

/-! ## 2. Reading lines -/

theorem declaredMethods_append (l m : List String) :
    declaredMethods (l ++ m) = declaredMethods l ++ declaredMethods m :=
  List.filterMap_append

theorem declaredMethods_cons (line : String) (l : List String) :
    declaredMethods (line :: l) = (declaredMethod? line).toList ++ declaredMethods l := by
  rw [declaredMethods, List.filterMap_cons]
  cases declaredMethod? line <;> rfl

theorem declaredMethods_indent (body : List String) : declaredMethods (indent body) = [] := by
  refine List.filterMap_eq_nil_iff.mpr fun line hline => ?_
  obtain ⟨inner, -, rfl⟩ := List.mem_map.mp hline
  split
  · rename_i hempty
    rw [String.isEmpty_iff.mp hempty, declaredMethod?_empty]
  · rw [declaredMethod?_ofList_append, List.cons_append, methodIn?_blank]

/-- A block declares what its head declares. -/
theorem declaredMethods_block (head : String) (body : List String) :
    declaredMethods (block head body) = (declaredMethod? (head ++ " \x7b")).toList := by
  have hclose : declaredMethods ["\x7d"] = [] := by decide
  rw [block, List.cons_append, declaredMethods_cons, declaredMethods_append,
    declaredMethods_indent, hclose, List.append_nil, List.append_nil]

theorem declaredMethods_accessorComment (action : String) (a : Accessor) :
    declaredMethods (accessorComment action a) = [] := by
  refine List.filterMap_eq_nil_iff.mpr fun line hline => ?_
  obtain ⟨inner, -, rfl⟩ := List.mem_map.mp hline
  rw [declaredMethod?_ofList_append, List.cons_append, methodIn?_comment]

/-! ## 3. Constructors and accessors -/

theorem declaredMethods_initType (unit : ClassUnit) :
    declaredMethods (initType unit) = ["init_type"] := by
  unfold initType
  split
  · rw [declaredMethods_cons, declaredMethods_block, declaredMethod?_ofList_append,
      declaredMethod?_ofList]
    rfl
  · rw [declaredMethods_cons, declaredMethods_cons, declaredMethod?_ofList, declaredMethod?_ofList]
    rfl

/-- **Every wrapper has the same fixed methods.** -/
theorem declaredMethods_constructors (unit : ClassUnit) :
    declaredMethods (constructors unit) = fixedMethods := by
  have hconst (rest : String) :
      declaredMethod? ("pub const TYPE_URI: &'static str = " ++ rest) = none := by
    rw [declaredMethod?_ofList_append]
    rfl
  have hattribute : declaredMethod? "#[allow(dead_code)]" = none := by
    rw [declaredMethod?_ofList]
    rfl
  delta constructors
  simp only [declaredMethods_append, declaredMethods_block, declaredMethods_cons,
    String.append_assoc, declaredMethods_initType, declaredMethod?_empty, hconst, hattribute]
  -- What is left are comments and the heads of methods.
  repeat rw [declaredMethod?_ofList_append]
  repeat rw [declaredMethod?_ofList]
  simp only [List.cons_append, methodIn?_comment, methodIn?_pub, methodIn?_crate]
  rfl

/-- **An accessor declares its three names**, as they are respelled. -/
theorem declaredMethods_accessorMethods (a : Accessor)
    (h : ∀ name ∈ a.names.accessors, IdentifierText name) :
    declaredMethods (accessorMethods a) = a.names.accessors.map snakeCase := by
  have hgetter : IdentifierText (snakeCase a.names.getter) :=
    (h _ (by simp [AccessorNames.accessors])).snakeCase
  have hsetter : IdentifierText (snakeCase a.names.setter) :=
    (h _ (by simp [AccessorNames.accessors])).snakeCase
  have hadder : IdentifierText (snakeCase a.names.adder) :=
    (h _ (by simp [AccessorNames.accessors])).snakeCase
  delta accessorMethods
  simp only [declaredMethods_append, declaredMethods_block, declaredMethods_cons,
    declaredMethods_accessorComment, declaredMethod?_empty, String.append_assoc]
  rw [declaredMethod?_pub hgetter, declaredMethod?_pub hsetter, declaredMethod?_pub hadder]
  rfl

/-- **A generated struct declares the fixed methods and its accessors**, and nothing else. -/
theorem declaredMethods_struct (unit : ClassUnit)
    (h : ∀ a ∈ unit.accessors, ∀ name ∈ a.names.accessors, IdentifierText name) :
    declaredMethods (constructors unit ++ unit.accessors.flatMap accessorMethods)
      = fixedMethods ++ unit.accessors.flatMap fun a => a.names.accessors.map snakeCase := by
  have haccessors : declaredMethods (unit.accessors.flatMap accessorMethods)
      = unit.accessors.flatMap fun a => declaredMethods (accessorMethods a) :=
    List.filterMap_flatMap
  rw [declaredMethods_append, declaredMethods_constructors, haccessors]
  exact congrArg _ (List.flatMap_congr fun a ha => declaredMethods_accessorMethods a (h a ha))

end OntoWrap.Rust
