import OntoWrap.Text.Lexer
import OntoWrap.Text.Source

/-!
# The lines of a finished file

A file is written from lines, and its lines can be read back (`linesOf_finish`): none is lost, and
nothing is added but the empty line after the last line end.  This takes lines without line ends of
their own, the last of which does not end in a blank.  What stands in a line between two fixed texts
is read by `between?`, a list between commas by `listed`, and the body of a block by `bodyOf`.
-/
namespace OntoWrap.Text.Source

/-! ## 1. From text to lines -/

/-- The lines of a text, among them what follows its last line end. -/
def linesOf (text : String) : List String := (text.toList.splitOn '\n').map String.ofList

/-- The last line ends in a character that is no blank. -/
def EndsPlain (lines : List String) : Prop :=
  ∃ before last c, lines = before ++ [last] ∧ last.toList.getLast? = some c ∧ isBlank c = false

theorem EndsPlain.append_left {lines : List String} (h : EndsPlain lines) (front : List String) :
    EndsPlain (front ++ lines) := by
  obtain ⟨before, last, c, rfl, hlast, hc⟩ := h
  exact ⟨front ++ before, last, c, (List.append_assoc ..).symm, hlast, hc⟩

/-- Lines that all end in the same text, which does not end in a blank. -/
theorem endsPlain_map {α : Type} {front : α → String} {back : String} {c : Char}
    (hback : back.toList.getLast? = some c) (hc : isBlank c = false) {l : List α} (hne : l ≠ []) :
    EndsPlain (l.map fun a => front a ++ back) := by
  refine ⟨l.dropLast.map (front · ++ back), front (l.getLast hne) ++ back, c, ?_, ?_, hc⟩
  · rw [← List.map_singleton (f := fun a => front a ++ back), ← List.map_append,
      List.dropLast_concat_getLast hne]
  · rw [String.toList_append, List.getLast?_append, hback]
    rfl

theorem toList_render (lines : List String) :
    (render lines).toList = lines.flatMap fun line => line.toList ++ ['\n'] := by
  rw [render, String.toList_join, List.flatMap_map]
  simp only [String.toList_append]
  rfl

/-- Rendered lines are separated by line ends, and so is the empty line after them. -/
theorem toList_render_eq_intercalate (lines : List String) :
    (render lines).toList = ['\n'].intercalate (lines.map String.toList ++ [[]]) := by
  rw [toList_render]
  induction lines with
  | nil => rfl
  | cons line rest ih =>
    have hne : rest.map String.toList ++ [[]] ≠ [] := by simp
    obtain ⟨next, others, hnext⟩ := List.exists_cons_of_ne_nil hne
    rw [List.flatMap_cons, ih, List.map_cons, List.cons_append, hnext, List.intercalate_cons_cons]

theorem linesOf_render {lines : List String} (h : ∀ line ∈ lines, '\n' ∉ line.toList) :
    linesOf (render lines) = lines ++ [""] := by
  have hnone : ∀ l ∈ lines.map String.toList ++ [[]], '\n' ∉ l := by
    intro l hl
    rcases List.mem_append.mp hl with hl | hl
    · obtain ⟨line, hline, rfl⟩ := List.mem_map.mp hl
      exact h line hline
    · simp [List.mem_singleton.mp hl]
  rw [linesOf, toList_render_eq_intercalate, List.splitOn_intercalate _ hnone (by simp),
    List.map_append, List.map_map]
  simp

/-- Behind a last line that ends in no blank there is no blank to drop but its line end. -/
theorem finish_eq_render {lines : List String} (h : EndsPlain lines) :
    finish lines = render lines := by
  obtain ⟨before, last, c, rfl, hlast, hc⟩ := h
  obtain ⟨front, hfront⟩ : ∃ front, last.toList = front ++ [c] :=
    List.getLast?_eq_some_iff.mp hlast
  have hrender : (render (before ++ [last])).toList
      = (before.flatMap fun line => line.toList ++ ['\n']) ++ front ++ [c] ++ ['\n'] := by
    rw [toList_render, List.flatMap_append, List.flatMap_singleton, hfront]
    simp
  have htrim : trimEndChars (render (before ++ [last])).toList
      = (before.flatMap fun line => line.toList ++ ['\n']) ++ front ++ [c] := by
    have hend : isBlank '\n' = true := by decide
    rw [hrender, trimEndChars, List.reverse_append, List.reverse_singleton, List.singleton_append,
      List.dropWhile_cons_of_pos hend, List.reverse_append, List.reverse_singleton,
      List.singleton_append, List.dropWhile_cons_of_neg (by simp [hc])]
    simp
  refine String.toList_injective ?_
  rw [finish, trimEnd, htrim, hrender, String.toList_append, String.toList_ofList]
  rfl

/-- An empty line at the end is dropped. -/
theorem finish_append_empty (lines : List String) : finish (lines ++ [""]) = finish lines := by
  have hend : isBlank '\n' = true := by decide
  have hrender : (render (lines ++ [""])).toList = (render lines).toList ++ ['\n'] := by
    rw [toList_render, toList_render, List.flatMap_append, List.flatMap_singleton]
    rfl
  have htrim : trimEndChars (render (lines ++ [""])).toList
      = trimEndChars (render lines).toList := by
    rw [hrender, trimEndChars, List.reverse_append, List.reverse_singleton, List.singleton_append,
      List.dropWhile_cons_of_pos hend, trimEndChars]
  rw [finish, trimEnd, htrim, finish, trimEnd]

/-- **The lines of a finished file are those it was written from.** -/
theorem linesOf_finish {lines : List String} (hlines : ∀ line ∈ lines, '\n' ∉ line.toList)
    (hlast : EndsPlain lines) : linesOf (finish lines) = lines ++ [""] := by
  rw [finish_eq_render hlast, linesOf_render hlines]

/-! ## 2. Texts that hold line ends -/

theorem linesOf_eq_singleton {text : String} (h : '\n' ∉ text.toList) : linesOf text = [text] := by
  rw [linesOf, List.splitOn_eq_singleton h, List.map_singleton, String.ofList_toList]

/-- Lines without line ends are read as they are. -/
theorem flatMap_linesOf {lines : List String} (h : ∀ line ∈ lines, '\n' ∉ line.toList) :
    lines.flatMap linesOf = lines := by
  induction lines with
  | nil => rfl
  | cons line rest ih =>
    obtain ⟨hline, hrest⟩ := List.forall_mem_cons.mp h
    rw [List.flatMap_cons, linesOf_eq_singleton hline, ih hrest, List.singleton_append]

theorem linesOf_ne_nil (text : String) : linesOf text ≠ [] :=
  fun h => List.splitOn_ne_nil _ _ (List.map_eq_nil_iff.mp h)

/-- What is appended to a list goes on in its last part. -/
theorem splitOn_append {α : Type} [BEq α] {a : α} {l m first : List α} {others : List (List α)}
    (h : m.splitOn a = first :: others) :
    ∃ front last, l.splitOn a = front ++ [last] ∧
      (l ++ m).splitOn a = front ++ (last ++ first) :: others := by
  induction l with
  | nil => exact ⟨[], [], List.splitOn_nil a, h⟩
  | cons b l ih =>
    obtain ⟨front, last, hl, hlm⟩ := ih
    rw [List.cons_append, List.splitOn_cons_eq_if_modifyHead, List.splitOn_cons_eq_if_modifyHead,
      hl, hlm]
    split
    · exact ⟨[] :: front, last, rfl, rfl⟩
    · cases front with
      | nil => exact ⟨[], b :: last, rfl, rfl⟩
      | cons part front => exact ⟨(b :: part) :: front, last, rfl, rfl⟩

/-- **What is appended to a text goes on in its last line.** -/
theorem linesOf_append {s t first : String} {others : List String}
    (h : linesOf t = first :: others) :
    ∃ front last, linesOf s = front ++ [last] ∧
      linesOf (s ++ t) = front ++ (last ++ first) :: others := by
  obtain ⟨firstChars, otherChars, ht, rfl, rfl⟩ := List.map_eq_cons_iff.mp h
  obtain ⟨front, last, hs, hst⟩ := splitOn_append (l := s.toList) ht
  refine ⟨front.map String.ofList, String.ofList last, ?_, ?_⟩
  · rw [linesOf, hs, List.map_append, List.map_singleton]
  · rw [linesOf, String.toList_append, hst, List.map_append, List.map_cons, String.ofList_append]

/-- A text without line ends goes on in the first line of what is appended. -/
theorem linesOf_append_of_notMem {s t first : String} {others : List String} (hs : '\n' ∉ s.toList)
    (h : linesOf t = first :: others) : linesOf (s ++ t) = (s ++ first) :: others := by
  obtain ⟨front, last, hlines, hboth⟩ := linesOf_append (s := s) h
  rw [linesOf_eq_singleton hs] at hlines
  obtain ⟨rfl, hlast⟩ := List.append_eq_singleton_iff.mp hlines.symm |>.resolve_right (by simp)
  rw [hboth, List.nil_append, List.singleton_inj.mp hlast]

/-- The first line begins as the text does. -/
theorem head?_of_linesOf_eq {text first : String} {others : List String} {c : Char}
    (htext : text.toList.head? = some c) (hc : c ≠ '\n') (h : linesOf text = first :: others) :
    first.toList.head? = some c := by
  obtain ⟨rest, hrest⟩ := List.head?_eq_some_iff.mp htext
  obtain ⟨part, parts, hparts⟩ := List.exists_cons_of_ne_nil (List.splitOn_ne_nil '\n' rest)
  have hother : ¬(c == '\n') = true := by simpa using hc
  rw [linesOf, hrest, List.splitOn_cons_eq_if_modifyHead, if_neg hother, hparts,
    List.modifyHead_cons, List.map_cons] at h
  rw [← (List.cons.inj h).1, String.toList_ofList]
  rfl

/-- Rendered lines are read with the line ends in them. -/
theorem linesOf_render_flatMap (lines : List String) :
    linesOf (render lines) = lines.flatMap linesOf ++ [""] := by
  induction lines with
  | nil => rfl
  | cons line rest ih =>
    have hchars : (render (line :: rest)).toList = line.toList ++ '\n' :: (render rest).toList := by
      rw [toList_render, toList_render, List.flatMap_cons, List.append_assoc, List.singleton_append]
    rw [linesOf, hchars, List.splitOn_append_cons_self, List.map_append, List.flatMap_cons,
      List.append_assoc, ← ih]
    rfl

/-- The lines of a finished file, with the line ends in them. -/
theorem linesOf_finish_flatMap {lines : List String} (hlast : EndsPlain lines) :
    linesOf (finish lines) = (lines ++ [""]).flatMap linesOf := by
  rw [finish_eq_render hlast, linesOf_render_flatMap, List.flatMap_append]
  rfl

/-! ## 3. Reading a line -/

/-- What stands in a line between a fixed beginning and a fixed end. -/
def between? (front back line : String) : Option String :=
  (afterText? front.toList line.toList).bind fun rest =>
    (afterText? back.toList.reverse rest.reverse).map fun inner => String.ofList inner.reverse

/-- **A line is read in one way only.** -/
theorem between?_eq_some_iff {front back line inner : String} :
    between? front back line = some inner ↔ line = front ++ inner ++ back := by
  have hback : ∀ rest : List Char, ((afterText? back.toList.reverse rest.reverse).map
      fun inner => String.ofList inner.reverse) = some inner ↔ rest = (inner ++ back).toList := by
    intro rest
    simp only [Option.map_eq_some_iff, afterText?_eq_some_iff]
    constructor
    · rintro ⟨reversed, hreversed, rfl⟩
      rw [← List.reverse_reverse rest, hreversed]
      simp
    · rintro rfl
      exact ⟨inner.toList.reverse, by simp, by simp⟩
  simp only [between?, Option.bind_eq_some_iff, hback, afterText?_eq_some_iff]
  rw [← String.toList_inj]
  simp

/-- A line that begins otherwise is not read. -/
theorem between?_eq_none {front back line : String}
    (h : afterText? front.toList line.toList = none) : between? front back line = none := by
  rw [between?, h, Option.bind_none]

/-- Lines that begin otherwise begin with no fixed text. -/
theorem afterText?_eq_none_of_head? {text cs : List Char} {c : Char} (htext : text.head? = some c)
    (hcs : cs.head? ≠ some c) : afterText? text cs = none := by
  refine Option.eq_none_iff_forall_ne_some.mpr fun rest hrest => hcs ?_
  obtain ⟨others, rfl⟩ := List.head?_eq_some_iff.mp htext
  simp [afterText?_eq_some_iff.mp hrest]

/-- The parts of a text between its commas, each without the spaces in front of it. -/
def listed (text : String) : List String :=
  (text.toList.splitOn ',').map fun part => String.ofList (part.dropWhile (· == ' '))

/-- A text that can stand in a list: no comma is in it, and no space in front. -/
def Item (text : String) : Prop := ',' ∉ text.toList ∧ text.toList.head? ≠ some ' '

/-- A space in front of a list is passed over. -/
theorem map_splitOn_space (cs : List Char) :
    ((' ' :: cs).splitOn ',').map (fun part => String.ofList (part.dropWhile (· == ' '))) =
      (cs.splitOn ',').map fun part => String.ofList (part.dropWhile (· == ' ')) := by
  obtain ⟨part, parts, hparts⟩ := List.exists_cons_of_ne_nil (List.splitOn_ne_nil ',' cs)
  rw [List.splitOn_cons_eq_if_modifyHead, if_neg (by decide), hparts, List.modifyHead_cons]
  simp

theorem Item.listed_eq {text : String} (h : Item text) : listed text = [text] := by
  have hdrop : text.toList.dropWhile (· == ' ') = text.toList := by
    cases hchars : text.toList with
    | nil => rfl
    | cons c rest =>
      have hc : c ≠ ' ' := by simpa [hchars] using h.2
      exact List.dropWhile_cons_of_neg (by simpa using hc)
  rw [listed, List.splitOn_eq_singleton h.1, List.map_singleton, hdrop, String.ofList_toList]

theorem Item.listed_append {text : String} (h : Item text) (rest : String) :
    listed (text ++ ", " ++ rest) = text :: listed rest := by
  have hchars : (text ++ ", " ++ rest).toList = text.toList ++ ',' :: ' ' :: rest.toList := by simp
  have hfirst := h.listed_eq
  rw [listed] at hfirst ⊢
  rw [hchars, List.splitOn_append_cons_self, List.map_append, hfirst, map_splitOn_space]
  rfl

/-- **A list is read as it was written.** -/
theorem listed_intercalate {first : String} {others : List String}
    (h : ∀ text ∈ first :: others, Item text) :
    listed (", ".intercalate (first :: others)) = first :: others := by
  induction others generalizing first with
  | nil => exact (h first List.mem_cons_self).listed_eq
  | cons next others ih =>
    have hrest := ih fun text htext => h text (List.mem_cons_of_mem _ htext)
    rw [String.intercalate_cons_cons, (h first List.mem_cons_self).listed_append, hrest]

/-- Texts that are read one by one are read together. -/
theorem mapM_map_eq_some {α β γ : Type} {read : β → Option γ} (write : α → β)
    {result : α → γ} {l : List α} (h : ∀ a ∈ l, read (write a) = some (result a)) :
    (l.map write).mapM read = some (l.map result) := by
  induction l with
  | nil => rfl
  | cons a l ih =>
    rw [List.map_cons, List.mapM_cons, h a List.mem_cons_self,
      ih fun b hb => h b (List.mem_cons_of_mem _ hb)]
    rfl

/-! ## 4. Indented lines -/

/-- A line moved four columns to the left. -/
def outdent (line : String) : String := (between? "    " "" line).getD line

/-- A line moved to the right begins with a space. -/
theorem head?_indent {body : List String} {c : Char} (hc : c ≠ ' ') :
    ∀ line ∈ indent body, line.toList.head? ≠ some c := by
  intro line hline
  obtain ⟨inner, -, rfl⟩ := List.mem_map.mp hline
  split
  · rename_i hempty
    simp [String.isEmpty_iff.mp hempty]
  · simpa using hc.symm

/-- The lines of a block begin as its head does, or with a space or a brace. -/
theorem head?_block {head : String} {body : List String} {c : Char}
    (hhead : (head ++ " \x7b").toList.head? ≠ some c) (hc : c ≠ ' ' ∧ c ≠ '\x7d') :
    ∀ line ∈ block head body, line.toList.head? ≠ some c := by
  intro line hline
  rw [block, List.cons_append, List.mem_cons, List.mem_append, List.mem_singleton] at hline
  rcases hline with rfl | hline | rfl
  · exact hhead
  · exact head?_indent hc.1 line hline
  · simpa using hc.2.symm

theorem indent_append (l m : List String) : indent (l ++ m) = indent l ++ indent m :=
  List.map_append

/-- Lines can be moved to the right and back. -/
theorem map_outdent_indent (body : List String) : (indent body).map outdent = body := by
  rw [indent, List.map_map]
  refine List.map_id'' (fun line => ?_) body
  rw [Function.comp_apply]
  split
  · rename_i hempty
    rw [String.isEmpty_iff.mp hempty]
    decide
  · rw [outdent, between?_eq_some_iff.mpr String.append_empty.symm]
    rfl

theorem takeWhile_indent (body m : List String) :
    (indent body ++ "\x7d" :: m).takeWhile (· != "\x7d") = indent body := by
  have hopen : ∀ line ∈ indent body, (line != "\x7d") = true := by
    intro line hline
    rw [bne_iff_ne]
    rintro rfl
    exact head?_indent (c := '\x7d') (by decide) _ hline (by decide)
  rw [List.takeWhile_append_of_pos hopen, List.takeWhile_cons_of_neg (by simp), List.append_nil]

/-- The lines up to the brace that closes a body, moved to the left. -/
def bodyOf (lines : List String) : List String := (lines.takeWhile (· != "\x7d")).map outdent

/-- **A body is read as it was written.** -/
theorem bodyOf_indent (body m : List String) : bodyOf (indent body ++ "\x7d" :: m) = body := by
  rw [bodyOf, takeWhile_indent, map_outdent_indent]

end OntoWrap.Text.Source
