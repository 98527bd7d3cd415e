import OntoWrap.Proofs.Identifiers

/-!
# Names without capitals

Folders and files are named in lower case.  Lower case leaves no ASCII capital in any text
(`isUpper_of_mem_lowerFrom`), so the identifier of a namespace is a SMALL name: small letters,
digits and underscores (`smallName_groupOf`).  On small names upper case loses nothing
(`upperText_inj`), and a reserved word and the same word with an underscore are told apart by no
letter case (`stem_eq_of_escapeReserved_eq`).
-/
namespace OntoWrap.Naming

open Text

/-! ## 1. Lower case has no capitals -/

theorem isUpper_iff {c : Char} : c.isUpper = true ↔ 65 ≤ c.toNat ∧ c.toNat ≤ 90 := by
  delta Char.isUpper
  simp [UInt32.le_iff_toNat_le, ← Char.toNat_val]

theorem isUpper_ofNat {n : Nat} (h : 90 < n) : (Char.ofNat n).isUpper = false := by
  rw [← Bool.not_eq_true, isUpper_iff]
  by_cases hvalid : n.isValidChar
  · have hn : (Char.ofNat n).toNat = n := by
      delta Char.ofNat
      rw [dif_pos hvalid]
      rfl
    omega
  · have hn : Char.ofNat n = '\x00' := by
      delta Char.ofNat
      rw [dif_neg hvalid]
      rfl
    rw [hn]
    decide

/-- No run of the table leads to a capital. -/
theorem shifted_lowerRuns {r : Case.Run} (hr : r ∈ Case.lowerRuns) :
    90 < (r.first : Int) + r.shift := by
  have hall : (Case.lowerRuns.all fun r => decide (90 < (r.first : Int) + r.shift)) = true := by
    decide +kernel
  simpa using List.all_eq_true.mp hall r hr

/-- No sequence of the table holds a capital. -/
theorem form_lowerSequences {entry : Nat × List Nat} (hentry : entry ∈ Case.lowerSequences) :
    ∀ n ∈ entry.2, 90 < n := by
  have hall : (Case.lowerSequences.all fun entry => entry.2.all fun n => decide (90 < n))
      = true := by
    decide +kernel
  have hform := List.all_eq_true.mp hall entry hentry
  exact fun n hn => by simpa using List.all_eq_true.mp hform n hn

/-- Beyond ASCII, no lower-case form is an ASCII capital. -/
theorem isUpper_formOf_lower {c d : Char} (hc : Case.isAscii c = false)
    (hd : d ∈ Case.formOf Case.lowerSequences Case.lowerRuns c) : d.isUpper = false := by
  unfold Case.formOf at hd
  split at hd
  · rename_i key form hfind
    obtain ⟨n, hn, rfl⟩ := List.mem_map.mp hd
    exact isUpper_ofNat (form_lowerSequences (List.mem_of_find?_eq_some hfind) n hn)
  · split at hd
    · rename_i r hfind
      obtain rfl := List.mem_singleton.mp hd
      have hshift := shifted_lowerRuns (List.mem_of_find?_eq_some hfind)
      have hcovers : r.covers c.toNat = true := by simpa using List.find?_some hfind
      have hfirst : r.first ≤ c.toNat := by
        simp only [Case.Run.covers, Bool.and_eq_true, decide_eq_true_eq] at hcovers
        exact hcovers.1.1
      exact isUpper_ofNat (by omega)
    · obtain rfl := List.mem_singleton.mp hd
      rw [← Bool.not_eq_true, isUpper_iff]
      have hbeyond : ¬ d.toNat < 128 := by simpa [Case.isAscii] using hc
      omega

theorem isUpper_toLower {c : Char} (hc : Case.isAscii c = true) : c.toLower.isUpper = false :=
  forall_isAscii (P := fun c => c.toLower.isUpper = false) (by decide) hc

theorem isUpper_of_mem_lower {c d : Char} (hd : d ∈ Case.lower c) : d.isUpper = false := by
  unfold Case.lower at hd
  split at hd
  · rename_i hascii
    obtain rfl := List.mem_singleton.mp hd
    exact isUpper_toLower hascii
  · rename_i hbeyond
    exact isUpper_formOf_lower (by simpa using hbeyond) hd

/-- **A text in lower case has no ASCII capital.** -/
theorem isUpper_of_mem_lowerFrom {d : Char} {cs : List Char} :
    ∀ {before}, d ∈ Case.lowerFrom before cs → d.isUpper = false := by
  induction cs with
  | nil => simp [Case.lowerFrom]
  | cons c cs ih =>
    intro before hd
    rw [Case.lowerFrom, List.mem_append] at hd
    rcases hd with hd | hd
    · split at hd
      · rw [List.mem_singleton.mp hd]
        split
        · decide
        · decide
      · exact isUpper_of_mem_lower hd
    · exact ih hd

/-! ## 2. Small names -/

/-- Small letters, digits and underscores, at least one. -/
structure SmallName (s : String) : Prop where
  identifier : IdentifierText s
  small : ∀ c ∈ s.toList, c.isUpper = false
  nonempty : s ≠ ""

theorem IdentifierText.notMem {s : String} (hs : IdentifierText s) {c : Char}
    (hc : isIdentifierChar c = false) : c ∉ s.toList := by
  intro hmem
  rw [hs c hmem] at hc
  cases hc

theorem SmallName.exists_cons {s : String} (hs : SmallName s) : ∃ c rest, s.toList = c :: rest := by
  refine List.exists_cons_of_ne_nil fun hnil => hs.nonempty ?_
  exact String.toList_injective hnil

theorem sanitize_ne_empty (s : String) : sanitize s ≠ "" := by
  intro h
  have hnil : sanitizeChars s.toList = [] := by
    have hchars := congrArg String.toList h
    rwa [sanitize, String.toList_ofList] at hchars
  unfold sanitizeChars guardStart at hnil
  split at hnil
  · cases hnil
  · split at hnil <;> cases hnil

/-- A name that is sanitized has no capitals but those it had. -/
theorem isUpper_of_mem_sanitizeChars {cs : List Char} (h : ∀ c ∈ cs, c.isUpper = false) :
    ∀ c ∈ sanitizeChars cs, c.isUpper = false := by
  have hmapped : ∀ c ∈ cs.map (fun c => if isIdentifierChar c then c else '_'),
      c.isUpper = false := by
    intro c hc
    obtain ⟨d, hd, rfl⟩ := List.mem_map.mp hc
    split
    · exact h d hd
    · decide
  intro c hc
  unfold sanitizeChars guardStart at hc
  split at hc
  · rw [List.mem_singleton.mp hc]
    decide
  · rename_i first rest hchars
    rw [hchars] at hmapped
    split at hc
    · rcases List.mem_cons.mp hc with rfl | hc
      · decide
      · exact hmapped c hc
    · exact hmapped c hc

/-- **The identifier of a namespace is a small name.** -/
theorem smallName_groupOf (abbreviation : String) : SmallName (groupOf abbreviation) where
  identifier := identifierText_sanitize _
  small := by
    intro c hc
    rw [groupOf, sanitize, String.toList_ofList] at hc
    refine isUpper_of_mem_sanitizeChars (fun d hd => ?_) c hc
    rw [Case.lowerText, String.toList_ofList] at hd
    exact isUpper_of_mem_lowerFrom hd
  nonempty := sanitize_ne_empty _

theorem IdentifierText.isAscii {s : String} (hs : IdentifierText s) :
    ∀ c ∈ s.toList, Case.isAscii c = true :=
  fun c hc => isAscii_of_isIdentifierChar (hs c hc)

theorem IdentifierText.toList_lowerText {s : String} (hs : IdentifierText s) :
    (Case.lowerText s).toList = s.toList.map Char.toLower := by
  rw [Case.lowerText, String.toList_ofList, Case.lowerFrom_of_ascii hs.isAscii]

theorem IdentifierText.toList_upperText {s : String} (hs : IdentifierText s) :
    (Case.upperText s).toList = s.toList.map Char.toUpper := by
  rw [Case.upperText, String.toList_ofList, Case.upper_map_of_ascii hs.isAscii]

theorem IdentifierText.lowerText {s : String} (hs : IdentifierText s) :
    IdentifierText (Case.lowerText s) := by
  intro c hc
  rw [hs.toList_lowerText] at hc
  obtain ⟨d, hd, rfl⟩ := List.mem_map.mp hc
  exact isIdentifierChar_toLower (hs d hd)

/-- An identifier in lower case is a small name. -/
theorem IdentifierText.smallName_lowerText {s : String} (hs : IdentifierText s) (hne : s ≠ "") :
    SmallName (Case.lowerText s) where
  identifier := hs.lowerText
  small := by
    intro c hc
    rw [Case.lowerText, String.toList_ofList] at hc
    exact isUpper_of_mem_lowerFrom hc
  nonempty := by
    intro h
    have hchars := congrArg String.toList h
    rw [hs.toList_lowerText, String.toList_empty, List.map_eq_nil_iff] at hchars
    exact hne (String.toList_injective hchars)

theorem SmallName.escapeReserved {s : String} (hs : SmallName s) :
    SmallName (escapeReserved s) := by
  refine ⟨hs.identifier.escapeReserved, ?_, ?_⟩
  · unfold Naming.escapeReserved
    split
    · intro c hc
      rw [String.toList_append, List.mem_append] at hc
      rcases hc with hc | hc
      · exact hs.small c hc
      · rw [List.mem_singleton.mp hc]
        decide
    · exact hs.small
  · unfold Naming.escapeReserved
    split
    · intro h
      have hchars := congrArg String.toList h
      simp at hchars
    · exact hs.nonempty

theorem toLower_toUpper {c : Char} (hc : isIdentifierChar c = true) :
    c.toUpper.toLower = c.toLower :=
  forall_isAscii (P := fun c => isIdentifierChar c = true → c.toUpper.toLower = c.toLower)
    (by decide) (isAscii_of_isIdentifierChar hc) hc

/-- Lower case leaves ASCII without capitals as it is. -/
theorem lowerText_eq_self {s : String}
    (h : ∀ c ∈ s.toList, Case.isAscii c = true ∧ c.isUpper = false) : Case.lowerText s = s := by
  have hkept : ∀ c ∈ s.toList, c.toLower = c := fun c hc =>
    forall_isAscii (P := fun c => c.isUpper = false → c.toLower = c) (by decide)
      (h c hc).1 (h c hc).2
  rw [Case.lowerText, Case.lowerFrom_of_ascii fun c hc => (h c hc).1,
    (List.map_congr_left hkept).trans (List.map_id' _), String.ofList_toList]

theorem SmallName.lowerText {s : String} (hs : SmallName s) : Case.lowerText s = s :=
  lowerText_eq_self fun c hc => ⟨hs.identifier.isAscii c hc, hs.small c hc⟩

theorem upperText_append (s t : String) :
    Case.upperText (s ++ t) = Case.upperText s ++ Case.upperText t := by
  simp only [Case.upperText, String.toList_append, List.flatMap_append, String.ofList_append]

theorem IdentifierText.upperText {s : String} (hs : IdentifierText s) :
    IdentifierText (Case.upperText s) := by
  intro c hc
  rw [hs.toList_upperText] at hc
  obtain ⟨d, hd, rfl⟩ := List.mem_map.mp hc
  exact isIdentifierChar_toUpper (hs d hd)

/-- Lower case does not depend on the letter case. -/
theorem IdentifierText.lowerText_upperText {s : String} (hs : IdentifierText s) :
    Case.lowerText (Case.upperText s) = Case.lowerText s := by
  refine String.toList_injective ?_
  rw [hs.upperText.toList_lowerText, hs.toList_upperText, hs.toList_lowerText, List.map_map]
  exact List.map_congr_left fun c hc => toLower_toUpper (hs c hc)

/-- **Upper case tells small names apart.** -/
theorem upperText_inj {s t : String} (hs : SmallName s) (ht : SmallName t)
    (h : Case.upperText s = Case.upperText t) : s = t := by
  rw [← hs.lowerText, ← ht.lowerText, ← hs.identifier.lowerText_upperText, h,
    ht.identifier.lowerText_upperText]

/-! ## 3. Reserved words -/

/-- An escaped name is no reserved word. -/
theorem escapeReserved_notMem (name : String) : escapeReserved name ∉ reservedWords := by
  have hends : ∀ word ∈ reservedWords, word.toList.getLast? ≠ some '_' := by decide
  unfold escapeReserved
  split
  · intro hmem
    exact hends _ hmem (by simp)
  · rename_i hplain
    exact fun hmem => hplain (List.contains_iff_mem.mpr hmem)

/-- Names that are told apart by an escape alone are told apart by none once they are in lower case.
One is a reserved word and the other the same word with an underscore. -/
theorem stem_eq_of_escapeReserved_eq {s t : String} (h : escapeReserved s = escapeReserved t) :
    escapeReserved (Case.lowerText s) = escapeReserved (Case.lowerText t) := by
  have hwords : ∀ w ∈ reservedWords,
      escapeReserved (Case.lowerText w) = escapeReserved (Case.lowerText (w ++ "_")) := by
    decide +kernel
  unfold escapeReserved at h
  split at h
  · rename_i hs
    split at h
    · rw [String.append_left_inj] at h
      rw [h]
    · rw [← h]
      exact hwords s (List.contains_iff_mem.mp hs)
  · split at h
    · rename_i ht
      rw [h]
      exact (hwords t (List.contains_iff_mem.mp ht)).symm
    · rw [h]

end OntoWrap.Naming
