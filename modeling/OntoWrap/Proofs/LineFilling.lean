import OntoWrap.Proofs.WithoutTexts

/-!
# Filled lines

Filling lines with the words of a text loses nothing: the lines hold the words of the text in their
order, and with a space between any two of them they are the text with its blanks normalized.  It is
greedy as well.  A line is closed as soon as its words have `width` characters, so every line but
the last has that many, and none has them without its last word (`wrap_greedy`).

The induction is on the words that are still to come (`filled_fill`).  What carries it is that the
words of the open line, the last one left out, have fewer than `width` characters.  A width of zero
is left out, for it closes a line before there is a word on it.
-/
namespace OntoWrap.Text

/-! ## 1. Words of joined texts -/

theorem consWord_append (w : List Char) (ws vs : List (List Char)) :
    consWord w (ws ++ vs) = consWord w ws ++ vs := by
  unfold consWord
  split <;> rfl

/-- A blank stands between the words before it and those after it. -/
theorem frontWord_append_blank {c : Char} (hc : isBlank c = true) (cs ds : List Char) :
    frontWord (cs ++ c :: ds) = ((frontWord cs).1, (frontWord cs).2 ++ wordsChars ds) := by
  induction cs with
  | nil => simp [frontWord, hc, wordsChars]
  | cons d cs ih =>
    simp only [List.cons_append, frontWord, ih]
    split
    · rw [consWord_append]
    · rfl

theorem wordsChars_append_blank {c : Char} (hc : isBlank c = true) (cs ds : List Char) :
    wordsChars (cs ++ c :: ds) = wordsChars cs ++ wordsChars ds := by
  rw [wordsChars, frontWord_append_blank hc, consWord_append, ← wordsChars]

/-- The words of texts with a space between them. -/
theorem words_joinWords (texts : List String) : words (joinWords texts) = texts.flatMap words := by
  induction texts with
  | nil => rfl
  | cons text rest ih =>
    by_cases hrest : rest = []
    · rw [hrest, joinWords, String.intercalate_singleton, List.flatMap_singleton]
    · have hchars : (joinWords (text :: rest)).toList =
          text.toList ++ ' ' :: (joinWords rest).toList := by
        rw [joinWords, String.intercalate_cons_of_ne_nil hrest, ← joinWords]
        simp
      rw [List.flatMap_cons, ← ih, words, hchars, wordsChars_append_blank (by decide),
        List.map_append]
      rfl

/-- A word of a text is its own only word. -/
theorem words_of_mem_words {text w : String} (h : w ∈ words text) : words w = [w] := by
  obtain ⟨cs, hcs, rfl⟩ := List.mem_map.mp h
  rw [words, String.toList_ofList,
    words_of_noBlank (ne_nil_of_mem_words hcs) fun c hc => isBlank_of_mem_words hcs hc]
  rfl

/-- **Words that are joined are found again.** -/
theorem words_joinWords_of_subset {text : String} {ws : List String} (h : ws ⊆ words text) :
    words (joinWords ws) = ws := by
  rw [words_joinWords]
  induction ws with
  | nil => rfl
  | cons w ws ih =>
    obtain ⟨hw, hws⟩ := List.cons_subset.mp h
    rw [List.flatMap_cons, words_of_mem_words hw, ih hws, List.singleton_append]

theorem words_normalize (text : String) : words (normalize text) = words text :=
  words_joinWords_of_subset (List.Subset.refl _)

/-- Lines are joined as the words on them are. -/
theorem joinWords_map_joinWords {lines : List (List String)} (h : ∀ line ∈ lines, line ≠ []) :
    joinWords (lines.map joinWords) = joinWords lines.flatten := by
  induction lines with
  | nil => rfl
  | cons line rest ih =>
    obtain ⟨hline, hrest⟩ := List.forall_mem_cons.mp h
    by_cases hnil : rest = []
    · rw [hnil, List.map_singleton, List.flatten_singleton, joinWords, String.intercalate_singleton]
    · have hwords : rest.flatten ≠ [] := by
        obtain ⟨next, others, rfl⟩ := List.exists_cons_of_ne_nil hnil
        simp [hrest next List.mem_cons_self]
      calc joinWords ((line :: rest).map joinWords)
          = joinWords line ++ " " ++ joinWords (rest.map joinWords) :=
            String.intercalate_cons_of_ne_nil (by simpa using hnil)
        _ = joinWords line ++ " " ++ joinWords rest.flatten := by rw [ih hrest]
        _ = joinWords (line :: rest).flatten :=
            (String.intercalate_append_of_ne_nil hline hwords).symm

/-! ## 2. Greedy filling -/

/-- Number of the characters of some words. -/
def letters : List String → Nat
  | [] => 0
  | w :: ws => w.length + letters ws

theorem letters_append (ws vs : List String) : letters (ws ++ vs) = letters ws + letters vs := by
  induction ws with
  | nil => rw [List.nil_append, letters, Nat.zero_add]
  | cons w ws ih => rw [List.cons_append, letters, letters, ih, Nat.add_assoc]

theorem letters_reverse (ws : List String) : letters ws.reverse = letters ws := by
  induction ws with
  | nil => rfl
  | cons w ws ih =>
    rw [List.reverse_cons, letters_append, ih, letters, letters, letters, Nat.add_zero,
      Nat.add_comm]

/-- **Lines that hold some words in their order, and are closed as soon as they can be.** -/
structure Filled (width : Nat) (ws : List String) (lines : List (List String)) : Prop where
  words : lines.flatten = ws
  nonempty : ∀ line ∈ lines, line ≠ []
  /-- A line with another one after it is full. -/
  full : ∀ line ∈ lines.dropLast, width ≤ letters line
  /-- No line is full without its last word. -/
  needed : ∀ line ∈ lines, letters line.dropLast < width

variable {width : Nat} {ws line : List String} {lines : List (List String)}

/-- A full line may stand in front of others. -/
theorem Filled.cons (h : Filled width ws lines) (hlines : lines ≠ []) (hline : line ≠ [])
    (hfull : width ≤ letters line) (hneeded : letters line.dropLast < width) :
    Filled width (line ++ ws) (line :: lines) where
  words := by rw [List.flatten_cons, h.words]
  nonempty := List.forall_mem_cons.mpr ⟨hline, h.nonempty⟩
  full := by
    rw [List.dropLast_cons_of_ne_nil hlines]
    exact List.forall_mem_cons.mpr ⟨hfull, h.full⟩
  needed := List.forall_mem_cons.mpr ⟨hneeded, h.needed⟩

/-- **Words are filled into lines greedily**, from any open line on. -/
theorem filled_fill (hwidth : 1 ≤ width) (hopen : letters line.tail < width) :
    Filled width (line.reverse ++ ws) (fill width line (letters line) ws) := by
  induction ws generalizing line with
  | nil =>
    rw [fill, List.append_nil]
    cases line with
    | nil => exact ⟨rfl, by simp, by simp, by simp⟩
    | cons w line =>
      refine ⟨by simp, by simp, by simp, ?_⟩
      simpa [letters_reverse] using hopen
  | cons w ws ih =>
    rw [fill]
    split
    · rename_i hfull
      -- a line without words has no characters, so the line that is closed holds some
      have hline : line ≠ [] := by
        rintro rfl
        have hnone : letters [] = 0 := rfl
        omega
      have hrest : Filled width (w :: ws) (fill width [w] w.length ws) := by
        have hnone : letters [w].tail < width := hwidth
        have hfirst : letters [w] = w.length := by simp [letters]
        rw [← hfirst]
        exact ih hnone
      have hmore : fill width [w] w.length ws ≠ [] := by
        intro hnil
        have hwords := hrest.words
        rw [hnil] at hwords
        cases hwords
      refine hrest.cons hmore (by simpa using hline) (by rwa [letters_reverse]) ?_
      rw [List.dropLast_reverse, letters_reverse]
      exact hopen
    · rename_i hroom
      have hcount : letters line + w.length = letters (w :: line) := by
        rw [letters, Nat.add_comm]
      have hwords : line.reverse ++ w :: ws = (w :: line).reverse ++ ws := by simp
      rw [hcount, hwords]
      exact ih (Nat.not_le.mp hroom)

theorem filled_wrapWords (hwidth : 1 ≤ width) (text : String) :
    Filled width (words text) (wrapWords width text) := by
  have hnone : letters (List.tail []) < width := hwidth
  exact filled_fill hwidth hnone

/-- The words on a line are those that it was filled with. -/
theorem words_of_mem_wrap {text : String} (h : line ∈ wrapWords width text) :
    words (joinWords line) = line :=
  words_joinWords_of_subset fun _ hw => mem_words_of_mem_wrapWords h hw

/-! ## 3. Lines as texts -/

/-- **Filling lines with the words of a text loses nothing and is greedy.**

- No line is empty.  The lines with a space between any two of them are the normalized text, and the
  words on them are the words of the text, in order.
- Every line but the last has `width` characters of words or more, and no line has them without its
  last word.
- A normalized text is filled into the same lines, and is its own normalized text. -/
theorem wrap_greedy (text : String) (width : Nat) (hwidth : 1 ≤ width) :
    (∀ line ∈ wrap width text, line ≠ "") ∧
      joinWords (wrap width text) = normalize text ∧
      (wrap width text).flatMap words = words text ∧
      (∀ line ∈ (wrap width text).dropLast, width ≤ letters (words line)) ∧
      (∀ line ∈ wrap width text, letters (words line).dropLast < width) ∧
      wrap width (normalize text) = wrap width text ∧
      normalize (normalize text) = normalize text := by
  have hfilled := filled_wrapWords hwidth text
  have hjoined : joinWords (wrap width text) = normalize text := by
    rw [wrap, joinWords_map_joinWords hfilled.nonempty, hfilled.words, normalize]
  refine ⟨?_, hjoined, ?_, ?_, ?_, ?_, ?_⟩
  · intro text hline hempty
    obtain ⟨line, hmem, rfl⟩ := List.mem_map.mp hline
    have hwords := words_of_mem_wrap hmem
    rw [hempty] at hwords
    exact hfilled.nonempty line hmem hwords.symm
  · rw [← words_joinWords, hjoined, words_normalize]
  · intro text hline
    rw [wrap, ← List.map_dropLast] at hline
    obtain ⟨line, hmem, rfl⟩ := List.mem_map.mp hline
    rw [words_of_mem_wrap (List.dropLast_subset _ hmem)]
    exact hfilled.full line hmem
  · intro text hline
    obtain ⟨line, hmem, rfl⟩ := List.mem_map.mp hline
    rw [words_of_mem_wrap hmem]
    exact hfilled.needed line hmem
  · rw [wrap, wrap, wrapWords, wrapWords, words_normalize]
  · rw [normalize, words_normalize, normalize]

/-- A line is closed where its words reach the width exactly, and any blank may stand between
words. -/
theorem wrap_greedy_exactWidth :
    1 ≤ 5 ∧ wrap 5 " ab\tcde\u00a0\nf " = ["ab cde", "f"] ∧
      joinWords (wrap 5 " ab\tcde\u00a0\nf ") = normalize " ab\tcde\u00a0\nf " ∧
      5 ≤ letters (words "ab cde") ∧ letters (words "ab cde").dropLast < 5 := by
  have hlines : wrap 5 " ab\tcde\u00a0\nf " = ["ab cde", "f"] := by decide
  obtain ⟨-, hjoined, -, hfull, hneeded, -⟩ := wrap_greedy " ab\tcde\u00a0\nf " 5 (by decide)
  rw [hlines] at hfull hneeded
  exact ⟨by decide, hlines, hjoined, hfull "ab cde" (by decide), hneeded "ab cde" (by decide)⟩

/-- A width of zero closes the first line before there is a word on it. -/
example : wrap 0 "ab" = ["", "ab"] := by decide

end OntoWrap.Text
