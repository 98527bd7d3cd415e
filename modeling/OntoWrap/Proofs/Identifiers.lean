import OntoWrap.Wrapper.Naming

/-!
# The characters of names

Identifiers and accessors consist of ASCII letters, digits and underscores, whatever the IRIs and
abbreviations they come from (`identifierText_accessors`).  Respelling keeps this, and it keeps the
word that an accessor begins with (`prefix_snakeCase`), so getters, setters and adders never meet
one another.
-/
namespace OntoWrap.Naming

open Text

/-! ## 1. Characters -/

/-- What holds of the 128 ASCII characters one by one holds of every ASCII character. -/
theorem forall_isAscii {P : Char → Prop} (h : ∀ n < 128, P (Char.ofNat n)) {c : Char}
    (hc : Case.isAscii c = true) : P c := by
  have hlt : c.toNat < 128 := by simpa [Case.isAscii] using hc
  have hP := h c.toNat hlt
  rwa [Char.ofNat_toNat] at hP

theorem isAscii_of_isIdentifierChar {c : Char} (h : isIdentifierChar c = true) :
    Case.isAscii c = true := by
  delta isIdentifierChar Char.isAlphanum Char.isAlpha Char.isUpper Char.isLower Char.isDigit at h
  simp only [Bool.or_eq_true, Bool.and_eq_true, decide_eq_true_eq, beq_iff_eq,
    UInt32.le_iff_toNat_le, ge_iff_le] at h
  have hval : c.toNat = c.val.toNat := rfl
  have hZ : 'Z'.val.toNat = 90 := rfl
  have hz : 'z'.val.toNat = 122 := rfl
  have h9 : '9'.val.toNat = 57 := rfl
  rw [Case.isAscii, decide_eq_true_eq]
  rcases h with ((⟨-, h⟩ | ⟨-, h⟩) | ⟨-, h⟩) | rfl
  · omega
  · omega
  · omega
  · decide

theorem isIdentifierChar_toUpper {c : Char} (h : isIdentifierChar c = true) :
    isIdentifierChar c.toUpper = true :=
  forall_isAscii (P := fun c => isIdentifierChar c = true → isIdentifierChar c.toUpper = true)
    (by decide) (isAscii_of_isIdentifierChar h) h

theorem isIdentifierChar_toLower {c : Char} (h : isIdentifierChar c = true) :
    isIdentifierChar c.toLower = true :=
  forall_isAscii (P := fun c => isIdentifierChar c = true → isIdentifierChar c.toLower = true)
    (by decide) (isAscii_of_isIdentifierChar h) h

/-! ## 2. Texts -/

/-- A text of identifier characters only. -/
def IdentifierText (s : String) : Prop := ∀ c ∈ s.toList, isIdentifierChar c = true

instance (s : String) : Decidable (IdentifierText s) :=
  List.decidableBAll (isIdentifierChar · = true) s.toList

theorem IdentifierText.append {s t : String} (hs : IdentifierText s) (ht : IdentifierText t) :
    IdentifierText (s ++ t) := by
  intro c hc
  rw [String.toList_append, List.mem_append] at hc
  rcases hc with hc | hc
  · exact hs c hc
  · exact ht c hc

theorem identifierText_sanitize (s : String) : IdentifierText (sanitize s) := by
  have hmapped : ∀ c ∈ s.toList.map (fun c => if isIdentifierChar c then c else '_'),
      isIdentifierChar c = true := by
    intro c hc
    obtain ⟨d, -, rfl⟩ := List.mem_map.mp hc
    split
    · assumption
    · decide
  intro c hc
  rw [sanitize, String.toList_ofList, sanitizeChars] at hc
  revert hmapped hc
  generalize s.toList.map (fun c => if isIdentifierChar c then c else '_') = cs
  intro hmapped hc
  cases cs with
  | nil =>
    rw [guardStart, List.mem_singleton] at hc
    rw [hc]
    decide
  | cons first rest =>
    rw [guardStart] at hc
    split at hc
    · rcases List.mem_cons.mp hc with rfl | hc
      · decide
      · exact hmapped c hc
    · exact hmapped c hc

/-- Changing the case of the first character leaves a text of identifier characters. -/
theorem identifierText_mapFirst {f : Char → List Char} {g : Char → Char} {s : String}
    (hf : ∀ c, Case.isAscii c = true → f c = [g c])
    (hg : ∀ c, isIdentifierChar c = true → isIdentifierChar (g c) = true)
    (hs : IdentifierText s) : IdentifierText (String.ofList (mapFirst f s.toList)) := by
  intro c hc
  rw [String.toList_ofList] at hc
  unfold IdentifierText at hs
  cases hchars : s.toList with
  | nil => simp [hchars, mapFirst] at hc
  | cons first rest =>
    have hfirst : isIdentifierChar first = true := hs first (by simp [hchars])
    rw [hchars, mapFirst, hf first (isAscii_of_isIdentifierChar hfirst),
      List.singleton_append] at hc
    rcases List.mem_cons.mp hc with rfl | hc
    · exact hg first hfirst
    · exact hs c (by simp [hchars, hc])

theorem IdentifierText.upperFirst {s : String} (hs : IdentifierText s) :
    IdentifierText (upperFirst s) :=
  identifierText_mapFirst (fun _ => Case.upper_of_ascii) (fun _ => isIdentifierChar_toUpper) hs

theorem IdentifierText.lowerFirst {s : String} (hs : IdentifierText s) :
    IdentifierText (lowerFirst s) :=
  identifierText_mapFirst (fun _ => Case.lower_of_ascii) (fun _ => isIdentifierChar_toLower) hs

theorem IdentifierText.withoutHas {s : String} (hs : IdentifierText s) :
    IdentifierText (withoutHas s) := by
  unfold Naming.withoutHas
  split
  · rename_i c rest hchars
    split
    · refine IdentifierText.lowerFirst fun d hd => hs d ?_
      rw [String.toList_ofList] at hd
      simp [hchars, List.mem_cons.mp hd]
    · exact hs
  · exact hs

theorem IdentifierText.displayName {s : String} (hs : IdentifierText s)
    (cardinality : Cardinality) :
    IdentifierText (displayName s cardinality) := by
  unfold Naming.displayName
  split
  · exact hs.withoutHas
  · unfold plural
    split
    · exact hs.withoutHas.append (by decide)
    · exact hs.withoutHas.append (by decide)

/-- **Accessors are identifiers** if they come from one. -/
theorem identifierText_accessors {identifier : String} (h : IdentifierText identifier)
    (cardinality : Cardinality) :
    ∀ a ∈ (AccessorNames.ofIdentifier identifier cardinality).accessors, IdentifierText a := by
  intro a ha
  simp only [AccessorNames.accessors, AccessorNames.ofIdentifier, List.mem_cons, List.not_mem_nil,
    or_false] at ha
  have hwhole := (h.displayName cardinality).upperFirst
  rcases ha with rfl | rfl | rfl
  · exact IdentifierText.append (by decide) hwhole
  · exact IdentifierText.append (by decide) hwhole
  · exact IdentifierText.append (by decide) (h.displayName .one).upperFirst

/-! ## 3. Respelling -/

theorem isIdentifierChar_snakeChars {cs : List Char} (h : ∀ c ∈ cs, isIdentifierChar c = true) :
    ∀ before, ∀ c ∈ snakeChars before cs, isIdentifierChar c = true := by
  induction cs with
  | nil => simp [snakeChars]
  | cons d cs ih =>
    intro before c hc
    have hd : isIdentifierChar d = true := h d List.mem_cons_self
    rw [snakeChars, List.mem_append] at hc
    rcases hc with hc | hc
    · split at hc
      · rw [Case.lower_of_ascii (isAscii_of_isIdentifierChar hd), List.mem_append] at hc
        rcases hc with hc | hc
        · split at hc
          · rw [List.mem_singleton.mp hc]
            decide
          · simp at hc
        · rw [List.mem_singleton.mp hc]
          exact isIdentifierChar_toLower hd
      · rwa [List.mem_singleton.mp hc]
    · exact ih (fun e he => h e (List.mem_cons_of_mem _ he)) _ c hc

theorem IdentifierText.escapeReserved {s : String} (hs : IdentifierText s) :
    IdentifierText (escapeReserved s) := by
  unfold Naming.escapeReserved
  split
  · exact hs.append (by decide)
  · exact hs

theorem IdentifierText.snakeCase {s : String} (hs : IdentifierText s) :
    IdentifierText (snakeCase s) := by
  refine IdentifierText.escapeReserved fun c hc => ?_
  rw [String.toList_ofList] at hc
  exact isIdentifierChar_snakeChars hs none c hc

/-- Characters in front that are no capitals stay in front. -/
theorem prefix_snakeChars {verb rest : List Char} (h : ∀ c ∈ verb, Case.isUpper c = false) :
    ∀ before, verb <+: snakeChars before (verb ++ rest) := by
  induction verb with
  | nil => exact fun _ => List.nil_prefix
  | cons c verb ih =>
    intro before
    have hc : Case.isUpper c = false := h c List.mem_cons_self
    simp only [List.cons_append, snakeChars, hc, Bool.false_eq_true, if_false, List.nil_append,
      List.cons_prefix_cons, true_and]
    exact ih (fun d hd => h d (List.mem_cons_of_mem _ hd)) _

/-- **Respelling keeps a first word without capitals.** -/
theorem prefix_snakeCase {verb : String} (h : ∀ c ∈ verb.toList, Case.isUpper c = false)
    (rest : String) : verb.toList <+: (snakeCase (verb ++ rest)).toList := by
  have hkept : verb.toList <+:
      (String.ofList (snakeChars none (verb ++ rest).toList)).toList := by
    rw [String.toList_ofList, String.toList_append]
    exact prefix_snakeChars h none
  unfold snakeCase escapeReserved
  split
  · rw [String.toList_append]
    exact hkept.trans (List.prefix_append _ _)
  · exact hkept

/-! ## 4. Verbs -/

/-- The words that accessors begin with. -/
def verbs : List String := ["get", "set", "add"]

/-- A way to declare accessors that keeps the word they begin with. -/
def KeepsVerbs (declare : String → String) : Prop :=
  ∀ verb ∈ verbs, ∀ rest, verb.toList <+: (declare (verb ++ rest)).toList

theorem keepsVerbs_id : KeepsVerbs id := by
  intro verb _ rest
  rw [id, String.toList_append]
  exact List.prefix_append _ _

theorem keepsVerbs_snakeCase : KeepsVerbs snakeCase := by
  intro verb hverb rest
  have hsmall : (verbs.all fun verb => verb.toList.all fun c => !Case.isUpper c) = true := by decide
  have hverb' := List.all_eq_true.mp (List.all_eq_true.mp hsmall verb hverb)
  exact prefix_snakeCase (fun c hc => by simpa using hverb' c hc) rest

/-- Accessors are declared as they are spelled, or in snake case; both keep the word. -/
theorem keepsVerbs_of_eq {declare : String → String} (h : declare = id ∨ declare = snakeCase) :
    KeepsVerbs declare := by
  rcases h with rfl | rfl
  · exact keepsVerbs_id
  · exact keepsVerbs_snakeCase

/-- Accessors that begin with different words are declared under different names. -/
theorem KeepsVerbs.ne {declare : String → String} (h : KeepsVerbs declare) {v w : String}
    (hv : v ∈ verbs) (hw : w ∈ verbs) (hne : v ≠ w) (s t : String) :
    declare (v ++ s) ≠ declare (w ++ t) := by
  intro heq
  have hthree : ∀ verb ∈ verbs, verb.toList.length = 3 := by decide
  have hlength : v.toList.length = w.toList.length := (hthree v hv).trans (hthree w hw).symm
  have hpv := h v hv s
  rw [heq] at hpv
  have hverbs := List.prefix_of_prefix_length_le hpv (h w hw t) (Nat.le_of_eq hlength)
  exact hne (String.toList_injective (hverbs.eq_of_length hlength))

/-- **The accessors of one property are declared under three different names.** -/
theorem KeepsVerbs.nodup_accessors {declare : String → String} (h : KeepsVerbs declare)
    (identifier : String) (cardinality : Cardinality) :
    ((AccessorNames.ofIdentifier identifier cardinality).accessors.map declare).Nodup := by
  have hgs := h.ne (v := "get") (w := "set") (by decide) (by decide) (by decide)
  have hga := h.ne (v := "get") (w := "add") (by decide) (by decide) (by decide)
  have hsa := h.ne (v := "set") (w := "add") (by decide) (by decide) (by decide)
  simp [AccessorNames.accessors, AccessorNames.ofIdentifier, hgs, hga, hsa]

end OntoWrap.Naming
