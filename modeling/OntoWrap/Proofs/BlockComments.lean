import Mathlib.Data.List.Chain
import Mathlib.Data.List.TakeWhile
import OntoWrap.Proofs.WithoutTexts
import OntoWrap.Wrapper.Render.Qt

/-!
# Block comments

A block comment ends at the first star that a slash follows.  Before a text is filled into a block,
a space is put between the two wherever they meet, and nothing that happens to the text afterwards
brings them together again: words are taken out whole, and blanks, line ends and stars are put
between them.  So whatever the text is, a block ends where its last line does
(`closedBlock_blockComment`).

A reader that knows a block by its first and its last line finds whole blocks in lines that are
written (`Reads`), and is left with the same lines if the text of a block is exchanged
(`SameCode.block`).
-/
namespace OntoWrap.Qt

open Text Text.Source

/-! ## 1. Characters that end no comment -/

/-- A character and the next one do not end a comment. -/
def EndsNone (a b : Char) : Prop := ¬ (a = '*' ∧ b = '/')

/-- The end of a comment does not stand in a text in which no comment ends. -/
theorem not_isInfix_of_isChain {cs : List Char} (h : cs.IsChain EndsNone) :
    ¬ ['*', '/'] <:+: cs := by
  intro hends
  have hpair : ['*', '/'].IsChain EndsNone := List.IsChain.infix h hends
  exact List.isChain_pair.mp hpair ⟨rfl, rfl⟩

theorem head?_openComment (cs : List Char) : (openComment cs).head? = cs.head? := by
  fun_cases openComment cs <;> rfl

/-- **No comment ends in an opened text.** -/
theorem isChain_openComment (cs : List Char) : (openComment cs).IsChain EndsNone := by
  fun_induction openComment cs with
  | case1 rest ih =>
    refine List.isChain_cons_cons.mpr ⟨by simp [EndsNone], List.isChain_cons_cons.mpr
      ⟨by simp [EndsNone], List.isChain_cons.mpr ⟨fun d _ hends => ?_, ih⟩⟩⟩
    exact absurd hends.1 (by decide)
  | case2 c rest hother ih =>
    refine List.isChain_cons.mpr ⟨fun d hd hends => ?_, ih⟩
    -- a slash behind a star is what the first case takes
    obtain ⟨rfl, rfl⟩ := hends
    rw [head?_openComment] at hd
    obtain ⟨others, rfl⟩ := List.head?_eq_some_iff.mp hd
    exact hother others rfl rfl
  | case3 => exact .nil

/-- The front word begins a text, and the other words stand in it. -/
theorem frontWord_isInfix (cs : List Char) :
    (frontWord cs).1 <+: cs ∧ ∀ w ∈ (frontWord cs).2, w <:+: cs := by
  induction cs with
  | nil => exact ⟨List.prefix_rfl, by simp [frontWord]⟩
  | cons c cs ih =>
    obtain ⟨hfront, hothers⟩ := ih
    rw [frontWord]
    dsimp only
    split
    · refine ⟨List.nil_prefix, fun w hw => ?_⟩
      rcases mem_consWord.mp hw with ⟨-, rfl⟩ | hw
      · exact (hfront.isInfix).trans (List.suffix_cons c cs).isInfix
      · exact (hothers w hw).trans (List.suffix_cons c cs).isInfix
    · exact ⟨List.cons_prefix_cons.mpr ⟨rfl, hfront⟩,
        fun w hw => (hothers w hw).trans (List.suffix_cons c cs).isInfix⟩

theorem isInfix_of_mem_wordsChars {cs w : List Char} (h : w ∈ wordsChars cs) : w <:+: cs := by
  rcases mem_consWord.mp h with ⟨-, rfl⟩ | h
  · exact (frontWord_isInfix cs).1.isInfix
  · exact (frontWord_isInfix cs).2 w h

/-- Texts in which no comment ends can be joined by another character. -/
theorem isChain_intercalate {separator : Char} (hstar : separator ≠ '*') (hslash : separator ≠ '/')
    {texts : List (List Char)} (h : ∀ cs ∈ texts, cs.IsChain EndsNone) :
    ([separator].intercalate texts).IsChain EndsNone := by
  induction texts with
  | nil => exact .nil
  | cons cs rest ih =>
    obtain ⟨hcs, hrest⟩ := List.forall_mem_cons.mp h
    by_cases hnil : rest = []
    · rw [hnil, List.intercalate_singleton]
      exact hcs
    · rw [List.intercalate_cons_of_ne_nil hnil, List.append_assoc]
      refine hcs.append (List.isChain_cons.mpr ⟨?_, ih hrest⟩) ?_
      · exact fun b _ hends => hstar hends.1
      · intro a _ b hb hends
        obtain rfl : separator = b := by simpa using hb
        exact hslash hends.2

/-- No comment ends in a line that is filled with an opened text. -/
theorem isChain_of_mem_wrap {width : Nat} {cs : List Char} {line : String}
    (h : line ∈ wrap width (String.ofList (openComment cs))) : line.toList.IsChain EndsNone := by
  obtain ⟨filled, hfilled, rfl⟩ := List.mem_map.mp h
  rw [joinWords, String.toList_intercalate]
  refine isChain_intercalate (by decide : ' ' ≠ '*') (by decide) fun w hw => ?_
  obtain ⟨word, hword, rfl⟩ := List.mem_map.mp hw
  obtain ⟨chars, hchars, rfl⟩ := List.mem_map.mp (mem_words_of_mem_wrapWords hfilled hword)
  rw [String.toList_ofList] at hchars ⊢
  exact List.IsChain.infix (isChain_openComment cs) (isInfix_of_mem_wordsChars hchars)

/-! ## 2. Blocks -/

/-- **A block comment after a margin**: a line that opens it, lines that begin with a star, and a
line that closes it.  None of them holds a line end, and the comment ends where they do. -/
structure ClosedBlock (margin : String) (lines : List String) : Prop where
  shape : ∃ body, lines = (margin ++ "/**") :: body ++ [margin ++ " */"] ∧
    ∀ line ∈ body, ∃ rest, line = margin ++ " *" ++ rest
  oneLine : ∀ line ∈ lines, '\n' ∉ line.toList
  ends : ∀ before after, ("\n".intercalate lines).toList = before ++ ['*', '/'] ++ after →
    after = []

/-- The lines between the first and the last one of a block. -/
def blockBody (text : String) : List String :=
  let lines := wrap commentWidth (String.ofList (openComment text.toList))
  if lines.isEmpty then [" *"] else lines.map (" * " ++ ·)

theorem blockComment_eq (text : String) :
    blockComment text = "/**" :: blockBody text ++ [" */"] := by
  delta blockComment blockBody
  dsimp only
  rw [List.singleton_append]

/-- A line of a block begins with a star, holds no line end and ends no comment. -/
theorem of_mem_blockBody {text line : String} (h : line ∈ blockBody text) :
    (∃ rest, line = " *" ++ rest) ∧ '\n' ∉ line.toList ∧ line.toList.IsChain EndsNone := by
  unfold blockBody at h
  dsimp only at h
  split at h
  · rw [List.mem_singleton.mp h]
    exact ⟨⟨"", rfl⟩, by decide, by simp [EndsNone]⟩
  · obtain ⟨filled, hfilled, rfl⟩ := List.mem_map.mp h
    refine ⟨⟨" " ++ filled, by rw [← String.append_assoc]; rfl⟩, ?_, ?_⟩
    · simpa using lineEnd_notMem_wrap hfilled
    · rw [String.toList_append]
      refine List.IsChain.append (by simp [EndsNone]) (isChain_of_mem_wrap hfilled) ?_
      intro a ha b _ hends
      obtain rfl : ' ' = a := by simpa using ha
      exact absurd hends.1 (by decide)

theorem intercalate_concat_append {α : Type} (separator l m : List α) (front : List (List α)) :
    separator.intercalate (front ++ [l ++ m]) = separator.intercalate (front ++ [l]) ++ m := by
  induction front with
  | nil => simp only [List.nil_append, List.intercalate_singleton]
  | cons first rest ih =>
    rw [List.cons_append, List.cons_append, List.intercalate_cons_of_ne_nil (by simp),
      List.intercalate_cons_of_ne_nil (by simp), ih, ← List.append_assoc]

/-- In a text in which no comment ends, and a slash, a comment ends with the slash if anywhere. -/
theorem eq_nil_of_append_slash {cs before after : List Char} (h : cs.IsChain EndsNone)
    (heq : cs ++ ['/'] = before ++ ['*', '/'] ++ after) : after = [] := by
  rcases List.eq_nil_or_concat after with hnil | ⟨front, last, hafter⟩
  · exact hnil
  · rw [hafter, List.concat_eq_append, ← List.append_assoc] at heq
    obtain ⟨rfl, -⟩ := List.append_inj' heq rfl
    exact absurd (List.infix_append _ _ _) (not_isInfix_of_isChain h)

/-- A margin of spaces ends no comment. -/
theorem isChain_margin {margin line : String} (hmargin : ∀ c ∈ margin.toList, c = ' ')
    (h : line.toList.IsChain EndsNone) : (margin ++ line).toList.IsChain EndsNone := by
  rw [String.toList_append]
  generalize margin.toList = spaces at hmargin
  induction spaces with
  | nil => exact h
  | cons c cs ih =>
    obtain ⟨rfl, hcs⟩ := List.forall_mem_cons.mp hmargin
    exact List.isChain_cons.mpr ⟨fun d _ hends => absurd hends.1 (by decide), ih hcs⟩

/-- **Every block is a block comment**, whatever its text is and wherever it stands. -/
theorem closedBlock_map {margin : String} (hmargin : ∀ c ∈ margin.toList, c = ' ') (text : String) :
    ClosedBlock margin ((blockComment text).map (margin ++ ·)) where
  shape := by
    refine ⟨(blockBody text).map (margin ++ ·), by rw [blockComment_eq]; simp, fun line hline => ?_⟩
    obtain ⟨inner, hinner, rfl⟩ := List.mem_map.mp hline
    obtain ⟨⟨rest, rfl⟩, -⟩ := of_mem_blockBody hinner
    exact ⟨rest, (String.append_assoc ..).symm⟩
  oneLine := by
    have hspaces : '\n' ∉ margin.toList := fun hmem => absurd (hmargin _ hmem) (by decide)
    have hbody : ∀ line ∈ blockComment text, '\n' ∉ line.toList := by
      rw [blockComment_eq, List.forall_mem_append, List.forall_mem_cons, List.forall_mem_singleton]
      exact ⟨⟨by decide, fun line hline => (of_mem_blockBody hline).2.1⟩, by decide⟩
    intro line hline
    obtain ⟨inner, hinner, rfl⟩ := List.mem_map.mp hline
    rw [String.toList_append, List.mem_append, not_or]
    exact ⟨hspaces, hbody inner hinner⟩
  ends := by
    intro before after heq
    -- without its last slash no comment ends in the block, so the only end is at this slash
    have hclose : (margin ++ " */").toList = (margin ++ " *").toList ++ ['/'] := by simp
    have hfront : ∀ line ∈ "/**" :: blockBody text, line.toList.IsChain EndsNone := by
      rw [List.forall_mem_cons]
      exact ⟨by simp [EndsNone], fun line hline => (of_mem_blockBody hline).2.2⟩
    rw [blockComment_eq, String.toList_intercalate, List.map_append, List.map_append,
      List.map_singleton, List.map_singleton, hclose] at heq
    have hlines := heq.symm.trans (intercalate_concat_append _ _ _ _)
    refine eq_nil_of_append_slash (isChain_intercalate (by decide : '\n' ≠ '*') (by decide)
      fun cs hcs => ?_) hlines.symm
    rcases List.mem_append.mp hcs with hcs | hcs
    · obtain ⟨line, hline, rfl⟩ := List.mem_map.mp hcs
      obtain ⟨inner, hinner, rfl⟩ := List.mem_map.mp hline
      exact isChain_margin hmargin (hfront inner hinner)
    · rw [List.mem_singleton.mp hcs]
      exact isChain_margin hmargin (by simp [EndsNone])

theorem margin_empty : ∀ c ∈ "".toList, c = ' ' := by simp

theorem margin_indent : ∀ c ∈ "    ".toList, c = ' ' := by simp

theorem closedBlock_blockComment (text : String) : ClosedBlock "" (blockComment text) := by
  have hblock := closedBlock_map margin_empty text
  simpa using hblock

/-- A block that is moved to the right. -/
theorem indent_blockComment (text : String) :
    indent (blockComment text) = (blockComment text).map ("    " ++ ·) := by
  refine List.map_congr_left fun line hline => if_neg fun hempty => ?_
  have hopen : ∀ line ∈ blockComment text, line.toList ≠ [] := by
    rw [blockComment_eq, List.forall_mem_append, List.forall_mem_cons, List.forall_mem_singleton]
    refine ⟨⟨by decide, fun line hline => ?_⟩, by decide⟩
    obtain ⟨⟨rest, rfl⟩, -⟩ := of_mem_blockBody hline
    simp
  exact hopen line hline (by rw [String.isEmpty_iff.mp hempty]; rfl)

theorem closedBlock_indent (text : String) : ClosedBlock "    " (indent (blockComment text)) := by
  rw [indent_blockComment]
  exact closedBlock_map margin_indent text

/-! ## 3. A reader of block comments -/

/-- A line without the spaces at its front. -/
def unindented (line : String) : List Char := line.toList.dropWhile (· == ' ')

/-- Whether a line opens a block. -/
def opensBlock (line : String) : Bool := unindented line == ['/', '*', '*']

/-- Whether a line closes a block. -/
def closesBlock (line : String) : Bool := unindented line == ['*', '/']

/-- Whether the line after a line is inside a block. -/
def insideAfter (inside : Bool) (line : String) : Bool :=
  if inside then !closesBlock line else opensBlock line

/-- Lines, each with whether it belongs to a block; the first one stands inside of a block or
not. -/
def marked (inside : Bool) : List String → List (Bool × String)
  | [] => []
  | line :: rest => (inside || opensBlock line, line) :: marked (insideAfter inside line) rest

/-- The lines that are marked one way. -/
def linesMarked (mark : Bool) (lines : List (Bool × String)) : List String :=
  (lines.filter (·.1 == mark)).map (·.2)

/-- The lines of a text that belong to no block. -/
def withoutBlocks (text : String) : List String := linesMarked false (marked false (linesOf text))

/-- The lines of a text that belong to blocks. -/
def blockLines (text : String) : List String := linesMarked true (marked false (linesOf text))

theorem marked_append (inside : Bool) (l m : List String) :
    marked inside (l ++ m) = marked inside l ++ marked (l.foldl insideAfter inside) m := by
  induction l generalizing inside with
  | nil => rfl
  | cons line l ih => rw [List.cons_append, marked, marked, ih, List.cons_append, List.foldl_cons]

theorem linesMarked_append (mark : Bool) (l m : List (Bool × String)) :
    linesMarked mark (l ++ m) = linesMarked mark l ++ linesMarked mark m := by
  rw [linesMarked, List.filter_append, List.map_append]
  rfl

theorem linesMarked_map (mark : Bool) (lines : List String) (given : Bool) :
    linesMarked mark (lines.map (given, ·)) = if given = mark then lines else [] := by
  induction lines with
  | nil => simp [linesMarked]
  | cons line rest ih =>
    rw [linesMarked, List.map_cons, List.filter_cons]
    split_ifs at ih ⊢ <;> simp_all [linesMarked]

/-! ## 4. Reading what is written -/

/-- A line in which no comment ends closes no block. -/
theorem closesBlock_eq_false {line : String} (h : line.toList.IsChain EndsNone) :
    closesBlock line = false := by
  rw [closesBlock, beq_eq_false_iff_ne]
  intro hends
  have hsuffix : unindented line <:+ line.toList := List.dropWhile_suffix _
  rw [hends] at hsuffix
  exact not_isInfix_of_isChain h hsuffix.isInfix

theorem unindented_append {margin : String} (hmargin : ∀ c ∈ margin.toList, c = ' ')
    (line : String) : unindented (margin ++ line) = unindented line := by
  rw [unindented, String.toList_append, List.dropWhile_append_of_pos]
  · rfl
  · intro c hc
    rw [hmargin c hc]
    rfl

/-- The lines inside of a block, up to one that closes it. -/
theorem marked_inside {l : List String} (h : ∀ line ∈ l, closesBlock line = false) :
    marked true l = l.map (true, ·) ∧ l.foldl insideAfter true = true := by
  induction l with
  | nil => exact ⟨rfl, rfl⟩
  | cons line l ih =>
    obtain ⟨hline, hl⟩ := List.forall_mem_cons.mp h
    have hinside : insideAfter true line = true := by rw [insideAfter, if_pos rfl, hline]; rfl
    rw [marked, hinside, (ih hl).1, List.foldl_cons, hinside, (ih hl).2]
    exact ⟨rfl, rfl⟩

/-- **A block is taken out whole**, and wherever a reader stands before it, it stands outside of a
block after it. -/
theorem marked_block {margin : String} (hmargin : ∀ c ∈ margin.toList, c = ' ') (text : String)
    (inside : Bool) :
    marked inside ((blockComment text).map (margin ++ ·)) =
        ((blockComment text).map (margin ++ ·)).map (true, ·) ∧
      ((blockComment text).map (margin ++ ·)).foldl insideAfter inside = false := by
  have hopen : opensBlock (margin ++ "/**") = true := by
    rw [opensBlock, unindented_append hmargin]
    decide
  have hnotClosed : closesBlock (margin ++ "/**") = false := by
    rw [closesBlock, unindented_append hmargin]
    decide
  have hclose : closesBlock (margin ++ " */") = true := by
    rw [closesBlock, unindented_append hmargin]
    decide
  have hfirst : insideAfter inside (margin ++ "/**") = true := by
    cases inside with
    | true => rw [insideAfter, if_pos rfl, hnotClosed]; rfl
    | false => rw [insideAfter, if_neg Bool.false_ne_true, hopen]
  have hlast : insideAfter true (margin ++ " */") = false := by
    rw [insideAfter, if_pos rfl, hclose]; rfl
  obtain ⟨hbody, hstate⟩ :=
    marked_inside (l := (blockBody text).map (margin ++ ·)) fun line hline => by
    obtain ⟨inner, hinner, rfl⟩ := List.mem_map.mp hline
    exact closesBlock_eq_false (isChain_margin hmargin (of_mem_blockBody hinner).2.2)
  rw [blockComment_eq, List.map_append, List.map_cons, List.map_singleton, List.cons_append, marked,
    hfirst, marked_append, hbody, hstate, List.foldl_cons, hfirst, List.foldl_append, hstate,
    List.foldl_cons, hlast, hopen, Bool.or_true]
  exact ⟨by simp [marked], rfl⟩

/-! ## 5. Lines that differ in blocks only -/

/-- Wherever a reader stands before some lines, and others in their place, it is left with the same
lines outside of blocks and stands in the same place after them. -/
structure SameCode (l m : List String) : Prop where
  code : ∀ inside, linesMarked false (marked inside (l.flatMap linesOf)) =
    linesMarked false (marked inside (m.flatMap linesOf))
  state : ∀ inside, (l.flatMap linesOf).foldl insideAfter inside =
    (m.flatMap linesOf).foldl insideAfter inside

namespace SameCode

theorem refl (l : List String) : SameCode l l := ⟨fun _ => rfl, fun _ => rfl⟩

theorem append {l l' m m' : List String} (hl : SameCode l l') (hm : SameCode m m') :
    SameCode (l ++ m) (l' ++ m') where
  code := by
    intro inside
    simp only [List.flatMap_append, marked_append, linesMarked_append]
    rw [hl.code, hl.state, hm.code]
  state := by
    intro inside
    simp only [List.flatMap_append, List.foldl_append]
    rw [hl.state, hm.state]

/-- **Blocks in one place can be exchanged.** -/
theorem block {margin : String} (hmargin : ∀ c ∈ margin.toList, c = ' ') (s t : String) :
    SameCode ((blockComment s).map (margin ++ ·)) ((blockComment t).map (margin ++ ·)) := by
  have hwhole : ∀ text, ((blockComment text).map (margin ++ ·)).flatMap linesOf =
      (blockComment text).map (margin ++ ·) := fun text =>
    flatMap_linesOf (closedBlock_map hmargin text).oneLine
  have hcode : ∀ text inside, linesMarked false
      (marked inside ((blockComment text).map (margin ++ ·))) = [] := by
    intro text inside
    rw [(marked_block hmargin text inside).1, linesMarked_map, if_neg (by decide)]
  constructor
  · intro inside
    rw [hwhole, hwhole, hcode, hcode]
  · intro inside
    rw [hwhole, hwhole, (marked_block hmargin s inside).2, (marked_block hmargin t inside).2]

theorem blockComment (s t : String) : SameCode (blockComment s) (Qt.blockComment t) := by
  have hblock := block margin_empty s t
  simpa using hblock

theorem indent_blockComment (s t : String) :
    SameCode (indent (Qt.blockComment s)) (indent (Qt.blockComment t)) := by
  rw [Qt.indent_blockComment, Qt.indent_blockComment]
  exact block margin_indent s t

end SameCode

/-! ## 6. Which lines are read as blocks -/

/-- A line that is read as one line outside of blocks. -/
structure Plain (line : String) : Prop where
  oneLine : '\n' ∉ line.toList
  opens : opensBlock line = false

/-- A line is plain if it holds a character that no line that opens a block holds. -/
theorem Plain.of_mem {line : String} {c : Char} (hend : '\n' ∉ line.toList) (hc : c ∈ line.toList)
    (hne : c ∉ [' ', '/', '*']) : Plain line := by
  refine ⟨hend, ?_⟩
  rw [opensBlock, beq_eq_false_iff_ne]
  intro hopen
  rw [← List.takeWhile_append_dropWhile (p := (· == ' ')) (l := line.toList), List.mem_append] at hc
  rcases hc with hspace | hrest
  · have heq : (c == ' ') = true := List.mem_takeWhile_imp (p := (· == ' ')) hspace
    exact hne (by simp [beq_iff_eq.mp heq])
  · have hmem : c ∈ ['/', '*', '*'] := hopen ▸ hrest
    exact hne (by simp at hmem ⊢; tauto)

theorem plain_empty : Plain "" := ⟨by decide, by decide⟩

theorem plain_indent {lines : List String} (h : ∀ line ∈ lines, Plain line) :
    ∀ line ∈ indent lines, Plain line := by
  intro line hline
  obtain ⟨inner, hinner, rfl⟩ := List.mem_map.mp hline
  obtain ⟨hend, hopens⟩ := h inner hinner
  split
  · exact ⟨hend, hopens⟩
  · refine ⟨by simpa using hend, ?_⟩
    rw [opensBlock, unindented_append margin_indent]
    exact hopens

theorem plain_block {head : String} (hhead : '\n' ∉ head.toList) {body : List String}
    (hbody : ∀ line ∈ body, Plain line) : ∀ line ∈ block head body, Plain line := by
  have hopen : Plain (head ++ " \x7b") :=
    .of_mem (c := '\x7b') (by simpa using hhead) (by simp) (by decide)
  have hclose : Plain "\x7d" := ⟨by decide, by decide⟩
  intro line hline
  rcases List.mem_cons.mp hline with rfl | hline
  · exact hopen
  · rcases List.mem_append.mp hline with hline | hline
    · exact plain_indent hbody line hline
    · rw [List.mem_singleton.mp hline]
      exact hclose

/-- **What a reader takes out of some lines** that begin and end outside of blocks. -/
structure Reads (lines blocks : List String) : Prop where
  found : linesMarked true (marked false (lines.flatMap linesOf)) = blocks
  outside : (lines.flatMap linesOf).foldl insideAfter false = false

namespace Reads

theorem append {l m b c : List String} (hl : Reads l b) (hm : Reads m c) :
    Reads (l ++ m) (b ++ c) where
  found := by
    rw [List.flatMap_append, marked_append, hl.outside, linesMarked_append, hl.found, hm.found]
  outside := by rw [List.flatMap_append, List.foldl_append, hl.outside, hm.outside]

theorem plain {lines : List String} (h : ∀ line ∈ lines, Plain line) : Reads lines [] := by
  have hwhole : lines.flatMap linesOf = lines :=
    flatMap_linesOf fun line hline => (h line hline).oneLine
  have hread : marked false lines = lines.map (false, ·) ∧
      lines.foldl insideAfter false = false := by
    clear hwhole
    induction lines with
    | nil => exact ⟨rfl, rfl⟩
    | cons line rest ih =>
      obtain ⟨hline, hrest⟩ := List.forall_mem_cons.mp h
      have hafter : insideAfter false line = false := by
        rw [insideAfter, if_neg Bool.false_ne_true, hline.opens]
      rw [marked, hafter, hline.opens, (ih hrest).1, List.foldl_cons, hafter, (ih hrest).2]
      exact ⟨rfl, rfl⟩
  constructor
  · rw [hwhole, hread.1, linesMarked_map, if_neg (by decide)]
  · rw [hwhole, hread.2]

theorem block {margin : String} (hmargin : ∀ c ∈ margin.toList, c = ' ') (text : String) :
    Reads ((blockComment text).map (margin ++ ·)) ((blockComment text).map (margin ++ ·)) := by
  have hwhole := flatMap_linesOf (closedBlock_map hmargin text).oneLine
  obtain ⟨hmarked, hstate⟩ := marked_block hmargin text false
  constructor
  · rw [hwhole, hmarked, linesMarked_map, if_pos rfl]
  · rw [hwhole, hstate]

theorem blockComment (text : String) : Reads (blockComment text) (Qt.blockComment text) := by
  have hblock := block margin_empty text
  simpa using hblock

theorem indent_blockComment (text : String) :
    Reads (indent (Qt.blockComment text)) (indent (Qt.blockComment text)) := by
  rw [Qt.indent_blockComment]
  exact block margin_indent text

theorem flatMap {α : Type} {lines blocks : α → List String} {l : List α}
    (h : ∀ a ∈ l, Reads (lines a) (blocks a)) : Reads (l.flatMap lines) (l.flatMap blocks) := by
  induction l with
  | nil => exact ⟨rfl, rfl⟩
  | cons a rest ih =>
    obtain ⟨ha, hrest⟩ := List.forall_mem_cons.mp h
    rw [List.flatMap_cons, List.flatMap_cons]
    exact ha.append (ih hrest)

end Reads

end OntoWrap.Qt
