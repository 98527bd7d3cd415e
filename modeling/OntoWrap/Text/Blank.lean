/-!
# Blank characters, trimming, and words

A blank is a character of the `White_Space` property, ASCII or not.  A text is a sequence of words
with blanks around them: `words` finds them, `trimEnd` and `trim` drop the blanks at the ends.

The main facts: trimming drops all blanks around a text without any (`trimChars_append`), and blanks
only (`exists_trimChars`); no word is empty or holds a blank (`ne_nil_of_mem_words`,
`isBlank_of_mem_words`), and a text that is one such word is its own only word (`words_of_noBlank`).
-/
namespace OntoWrap.Text

/-! ## 1. The class -/

/-- Blank characters: the controls from tab to carriage return, the space, and the separators and
spaces of other scripts. -/
def isBlank (c : Char) : Bool :=
  let n := c.toNat
  (0x09 ≤ n && n ≤ 0x0D) || n == 0x20 || n == 0x85 || n == 0xA0 || n == 0x1680
    || (0x2000 ≤ n && n ≤ 0x200A) || n == 0x2028 || n == 0x2029 || n == 0x202F || n == 0x205F
    || n == 0x3000

/-! ## 2. Trimming -/

/-- Drops the blanks at the end. -/
def trimEndChars (cs : List Char) : List Char :=
  (cs.reverse.dropWhile isBlank).reverse

/-- Drops the blanks at both ends. -/
def trimChars (cs : List Char) : List Char :=
  trimEndChars (cs.dropWhile isBlank)

/-- Drops the blanks at the end of a text. -/
def trimEnd (s : String) : String := String.ofList (trimEndChars s.toList)

/-- Drops the blanks at both ends of a text. -/
def trim (s : String) : String := String.ofList (trimChars s.toList)

/-- A text is what trimming leaves of it, with blanks around. -/
theorem exists_trimChars (cs : List Char) : ∃ front back, cs = front ++ trimChars cs ++ back ∧
    (∀ c ∈ front, isBlank c = true) ∧ ∀ c ∈ back, isBlank c = true := by
  have hback : trimChars cs ++ ((cs.dropWhile isBlank).reverse.takeWhile isBlank).reverse
      = cs.dropWhile isBlank := by
    rw [trimChars, trimEndChars, ← List.reverse_append, List.takeWhile_append_dropWhile,
      List.reverse_reverse]
  refine ⟨cs.takeWhile isBlank, ((cs.dropWhile isBlank).reverse.takeWhile isBlank).reverse, ?_,
    ?_, ?_⟩
  · rw [List.append_assoc, hback, List.takeWhile_append_dropWhile]
  · exact List.all_eq_true.mp List.all_takeWhile
  · exact fun c hc => List.all_eq_true.mp List.all_takeWhile c (List.mem_reverse.mp hc)

theorem dropWhile_isBlank_append {core : List Char} (h : ∀ c ∈ core, isBlank c = false)
    (hne : core ≠ []) (rest : List Char) : (core ++ rest).dropWhile isBlank = core ++ rest := by
  obtain ⟨c, cs, rfl⟩ := List.exists_cons_of_ne_nil hne
  rw [List.cons_append, List.dropWhile_cons_of_neg (by simp [h c])]

/-- Blanks around a text without any are dropped. -/
theorem trimChars_append {front core back : List Char} (hfront : ∀ c ∈ front, isBlank c = true)
    (hcore : ∀ c ∈ core, isBlank c = false) (hne : core ≠ [])
    (hback : ∀ c ∈ back, isBlank c = true) : trimChars (front ++ core ++ back) = core := by
  have hfirst : (front ++ core ++ back).dropWhile isBlank = core ++ back := by
    rw [List.append_assoc, List.dropWhile_append_of_pos hfront, dropWhile_isBlank_append hcore hne]
  have hlast : (core ++ back).reverse.dropWhile isBlank = core.reverse := by
    rw [List.reverse_append,
      List.dropWhile_append_of_pos fun c hc => hback c (List.mem_reverse.mp hc)]
    simpa using dropWhile_isBlank_append (fun c hc => hcore c (List.mem_reverse.mp hc))
      (mt List.reverse_eq_nil_iff.mp hne) []
  rw [trimChars, hfirst, trimEndChars, hlast, List.reverse_reverse]

/-! ## 3. Words -/

/-- Puts a word in front of others, unless it is empty. -/
def consWord (w : List Char) (ws : List (List Char)) : List (List Char) :=
  if w = [] then ws else w :: ws

/-- Splits a text into the word that it begins with (empty if it begins with a blank) and the words
after that one. -/
def frontWord : List Char → List Char × List (List Char)
  | [] => ([], [])
  | c :: cs =>
    let (w, ws) := frontWord cs
    if isBlank c then ([], consWord w ws) else (c :: w, ws)

/-- The words of a text, first to last. -/
def wordsChars (cs : List Char) : List (List Char) :=
  consWord (frontWord cs).1 (frontWord cs).2

/-- The words of a text, first to last. -/
def words (s : String) : List String := (wordsChars s.toList).map String.ofList

/-! ## 4. What a word is -/

theorem mem_consWord {v w : List Char} {ws : List (List Char)} :
    v ∈ consWord w ws ↔ (w ≠ [] ∧ v = w) ∨ v ∈ ws := by
  unfold consWord
  split <;> simp_all

/-- What the splitting keeps: no blank in the front word, and only non-empty, blank-free words
after it. -/
theorem frontWord_words (cs : List Char) :
    (∀ c ∈ (frontWord cs).1, isBlank c = false) ∧
      ∀ w ∈ (frontWord cs).2, w ≠ [] ∧ ∀ c ∈ w, isBlank c = false := by
  induction cs with
  | nil => simp [frontWord]
  | cons c cs ih =>
    simp only [frontWord]
    split
    · refine ⟨by simp, fun w hw => ?_⟩
      rcases mem_consWord.mp hw with ⟨hne, rfl⟩ | hw
      · exact ⟨hne, ih.1⟩
      · exact ih.2 w hw
    · rename_i hc
      refine ⟨fun d hd => ?_, ih.2⟩
      rcases List.mem_cons.mp hd with rfl | hd
      · simpa using hc
      · exact ih.1 d hd

theorem ne_nil_of_mem_words {cs w : List Char} (h : w ∈ wordsChars cs) : w ≠ [] := by
  rcases mem_consWord.mp h with ⟨hne, rfl⟩ | h
  · exact hne
  · exact ((frontWord_words cs).2 w h).1

theorem isBlank_of_mem_words {cs w : List Char} {c : Char} (h : w ∈ wordsChars cs) (hc : c ∈ w) :
    isBlank c = false := by
  rcases mem_consWord.mp h with ⟨-, rfl⟩ | h
  · exact (frontWord_words cs).1 c hc
  · exact ((frontWord_words cs).2 w h).2 c hc

theorem frontWord_of_noBlank {w : List Char} (h : ∀ c ∈ w, isBlank c = false) :
    frontWord w = (w, []) := by
  induction w with
  | nil => rfl
  | cons c cs ih =>
    have hc := h c (by simp)
    have hcs := ih fun d hd => h d (by simp [hd])
    simp [frontWord, hc, hcs]

theorem words_of_noBlank {w : List Char} (hne : w ≠ []) (h : ∀ c ∈ w, isBlank c = false) :
    wordsChars w = [w] := by
  simp [wordsChars, frontWord_of_noBlank h, consWord, hne]

end OntoWrap.Text
