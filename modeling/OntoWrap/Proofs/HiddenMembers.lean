import OntoWrap.Proofs.Accessors
import OntoWrap.Proofs.QtTagging

/-!
# Members of the runtime that a Qt class hides

A generated class calls members of the runtime class without naming it: constructors and assignments
call `addType`, and accessors call `addProperty`, `setProperty`, `property` and `contains`.  In C++
a member of a class hides all members of its bases that have the same name, so such a call is taken
by the generated class if an accessor is called alike.  The names of accessors begin with a verb,
and so do those of three of the members; what follows the verb comes from the IRI of a property.
`Hides` lists the identifiers from which it comes out as `Type` or `Property`, and
`members_hidden_iff` says that these are all.
-/
namespace OntoWrap

open Text

namespace Naming

/-! ## 1. Identifiers that become a word -/

/-- A word of small letters behind a capital. -/
structure Capitalized (word : String) (first : Char) (rest : List Char) : Prop where
  toList : word.toList = first :: rest
  upper : first.isUpper = true
  small : ∀ c ∈ rest, c.isLower = true

theorem isAscii_of_isUpper {c : Char} (h : c.isUpper = true) : Case.isAscii c = true := by
  have hbounds := isUpper_iff.mp h
  simp only [Case.isAscii, decide_eq_true_eq]
  omega

theorem toUpper_eq_iff {c d : Char} (hc : Case.isAscii c = true) (hd : d.isUpper = true) :
    c.toUpper = d ↔ c = d ∨ c = d.toLower := by
  have hkept : c.toUpper = c ∨ c = c.toUpper.toLower :=
    forall_isAscii (P := fun c => c.toUpper = c ∨ c = c.toUpper.toLower) (by decide) hc
  have hback : d.toUpper = d ∧ d.toLower.toUpper = d :=
    forall_isAscii (P := fun d => d.isUpper = true → d.toUpper = d ∧ d.toLower.toUpper = d)
      (by decide) (isAscii_of_isUpper hd) hd
  constructor
  · rintro rfl
    rcases hkept with hsame | hsame
    · exact .inl hsame.symm
    · exact .inr hsame
  · rintro (rfl | rfl)
    · exact hback.1
    · exact hback.2

theorem toList_upperFirst {s : String} {c : Char} {rest : List Char} (hs : s.toList = c :: rest)
    (hc : Case.isAscii c = true) : (upperFirst s).toList = c.toUpper :: rest := by
  rw [upperFirst, String.toList_ofList, hs, mapFirst, Case.upper_of_ascii hc, List.singleton_append]

theorem toList_lowerFirst {s : String} {c : Char} {rest : List Char} (hs : s.toList = c :: rest)
    (hc : Case.isAscii c = true) : (lowerFirst s).toList = c.toLower :: rest := by
  rw [lowerFirst, String.toList_ofList, hs, mapFirst, Case.lower_of_ascii hc, List.singleton_append]

variable {s word : String} {first : Char} {rest : List Char}

/-- A text becomes a word by a capital exactly if it is the word, with or without its capital. -/
theorem upperFirst_eq_iff (hs : IdentifierText s) (hword : Capitalized word first rest) :
    upperFirst s = word ↔ s = word ∨ s = lowerFirst word := by
  have hlower := toList_lowerFirst hword.toList (isAscii_of_isUpper hword.upper)
  simp only [← String.toList_inj, hword.toList, hlower]
  cases hchars : s.toList with
  | nil => simp [upperFirst, hchars, mapFirst]
  | cons c cs =>
    have hc : Case.isAscii c = true := hs.isAscii c (by simp [hchars])
    rw [toList_upperFirst hchars hc, List.cons.injEq, List.cons.injEq, List.cons.injEq,
      toUpper_eq_iff hc hword.upper]
    tauto

/-- What begins with `has` before a capital. -/
def BeginsWithHas (s : String) (c : Char) (cs : List Char) : Prop :=
  s.toList = 'h' :: 'a' :: 's' :: c :: cs ∧ c.isUpper = true

theorem withoutHas_eq_self (h : ∀ c cs, ¬ BeginsWithHas s c cs) : withoutHas s = s := by
  unfold withoutHas
  split
  · rename_i c cs hchars
    exact if_neg fun hupper => h c cs ⟨hchars, hupper⟩
  · rfl

/-- Where `has` is dropped the rest gets its capital back. -/
theorem toList_upperFirst_withoutHas {c : Char} {cs : List Char} (h : BeginsWithHas s c cs) :
    (upperFirst (withoutHas s)).toList = c :: cs := by
  obtain ⟨hchars, hupper⟩ := h
  have hc : Case.isAscii c = true := isAscii_of_isUpper hupper
  have hlowered : Case.isAscii c.toLower = true :=
    forall_isAscii (P := fun c => Case.isAscii c.toLower = true) (by decide) hc
  have hback : c.toLower.toUpper = c := (toUpper_eq_iff hlowered hupper).mpr (.inr rfl)
  have hdropped : withoutHas s = lowerFirst (String.ofList (c :: cs)) := by
    rw [withoutHas, hchars]
    exact if_pos hupper
  rw [hdropped, toList_upperFirst (toList_lowerFirst String.toList_ofList hc) hlowered, hback]

/-- **A text becomes a word without its `has` and with a capital** exactly if it is the word, with
or without its capital, or the word behind `has`. -/
theorem upperFirst_withoutHas_eq_iff (hs : IdentifierText s) (hword : Capitalized word first rest)
    (hfirst : first ≠ 'H') :
    upperFirst (withoutHas s) = word ↔ s = word ∨ s = lowerFirst word ∨ s = "has" ++ word := by
  have hhas : ("has" ++ word).toList = 'h' :: 'a' :: 's' :: first :: rest := by
    rw [String.toList_append, hword.toList]
    rfl
  by_cases hdrops : ∃ c cs, BeginsWithHas s c cs
  · obtain ⟨c, cs, hbegins⟩ := hdrops
    -- The word begins with another letter than `has`.
    have hword_ne : s ≠ word := by
      rintro rfl
      obtain ⟨rfl, -⟩ := List.cons.inj (hbegins.1.symm.trans hword.toList)
      exact absurd hword.upper (by decide)
    have hlower_ne : s ≠ lowerFirst word := by
      rintro rfl
      have hlower := toList_lowerFirst hword.toList (isAscii_of_isUpper hword.upper)
      obtain ⟨hh, -⟩ := List.cons.inj (hbegins.1.symm.trans hlower)
      exact hfirst ((toUpper_eq_iff (by decide) hword.upper).mpr (.inr hh)).symm
    rw [or_iff_right hword_ne, or_iff_right hlower_ne, ← String.toList_inj, ← String.toList_inj,
      toList_upperFirst_withoutHas hbegins, hword.toList, hbegins.1, hhas]
    simp
  · have hnone : ∀ c cs, ¬ BeginsWithHas s c cs := fun c cs hbegins => hdrops ⟨c, cs, hbegins⟩
    have hne : s ≠ "has" ++ word := by
      rintro rfl
      exact hnone first rest ⟨hhas, hword.upper⟩
    rw [withoutHas_eq_self hnone, upperFirst_eq_iff hs hword, or_iff_left hne]

/-- The plural of a name is no word that ends otherwise than in an `s`. -/
theorem upperFirst_plural_ne (hs : IdentifierText (plural s)) (hword : Capitalized word first rest)
    {c : Char} (hend : rest.getLast? = some c) (hne : c ≠ 's') : upperFirst (plural s) ≠ word := by
  intro heq
  have hlast : (plural s).toList.getLast? = some 's' := by
    unfold plural
    split <;> simp
  have hlower := toList_lowerFirst hword.toList (isAscii_of_isUpper hword.upper)
  have hkept : ∀ d, (d :: rest).getLast? = some c := by
    intro d
    rw [List.getLast?_cons, hend]
    rfl
  rcases (upperFirst_eq_iff hs hword).mp heq with hsame | hsame
  · rw [hsame, hword.toList, hkept] at hlast
    exact hne (Option.some.inj hlast)
  · rw [hsame, hlower, hkept] at hlast
    exact hne (Option.some.inj hlast)

/-- A text is cut at its first capital: what stands before it are small letters, and what is put
before a capital has none. -/
theorem append_cons_eq_append_cons_iff {group low ds w : List Char} {c d : Char}
    (hgroup : ∀ a ∈ group, a.isUpper = false) (hd : d.isLower = false)
    (hlow : ∀ a ∈ low, a.isLower = true) (hc : c.isUpper = true) :
    group ++ d :: ds = low ++ c :: w ↔ group = low ∧ d :: ds = c :: w := by
  constructor
  · intro h
    rcases List.append_eq_append_iff.mp h with ⟨more, hfront, hback⟩ | ⟨more, hfront, hback⟩
    · cases more with
      | nil => exact ⟨by simpa using hfront.symm, hback⟩
      | cons a more =>
        obtain ⟨rfl, -⟩ := List.cons.inj hback
        rw [hlow d (by simp [hfront])] at hd
        cases hd
    · cases more with
      | nil => exact ⟨by simpa using hfront, hback.symm⟩
      | cons a more =>
        obtain ⟨rfl, -⟩ := List.cons.inj hback
        rw [hgroup c (by simp [hfront])] at hc
        cases hc
  · rintro ⟨rfl, h⟩
    rw [h]

variable {group plain : String}

theorem exists_upperFirst (hplain : IdentifierText plain) (hne : plain ≠ "") :
    ∃ d ds, (upperFirst plain).toList = d :: ds ∧ d.isLower = false := by
  obtain ⟨c, cs, hchars⟩ : ∃ c cs, plain.toList = c :: cs :=
    List.exists_cons_of_ne_nil fun hnil => hne (String.toList_injective hnil)
  have hc : Case.isAscii c = true := hplain.isAscii c (by simp [hchars])
  exact ⟨c.toUpper, cs, toList_upperFirst hchars hc,
    forall_isAscii (P := fun c => c.toUpper.isLower = false) (by decide) hc⟩

/-- A prefixed text is a word behind small letters exactly if these are the prefix. -/
theorem prefixed_eq_append_iff (hgroup : SmallName group) (hplain : IdentifierText plain)
    (hne : plain ≠ "") (hword : Capitalized word first rest) {low : String}
    (hlow : ∀ c ∈ low.toList, c.isLower = true) :
    group ++ upperFirst plain = low ++ word ↔ group = low ∧ upperFirst plain = word := by
  obtain ⟨d, ds, hupper, hbig⟩ := exists_upperFirst hplain hne
  simp only [← String.toList_inj, String.toList_append, hupper, hword.toList]
  exact append_cons_eq_append_cons_iff hgroup.small hbig hlow hword.upper

/-- A prefixed text has a capital inside, and a word without its capital has none. -/
theorem prefixed_ne_lowerFirst (hplain : IdentifierText plain) (hne : plain ≠ "")
    (hword : Capitalized word first rest) : group ++ upperFirst plain ≠ lowerFirst word := by
  intro heq
  obtain ⟨d, ds, hupper, hbig⟩ := exists_upperFirst hplain hne
  have hfirst : Case.isAscii first = true := isAscii_of_isUpper hword.upper
  have hlowered : first.toLower.isLower = true :=
    forall_isAscii (P := fun c => c.isUpper = true → c.toLower.isLower = true) (by decide) hfirst
      hword.upper
  have hmem : d ∈ first.toLower :: rest := by
    rw [← toList_lowerFirst hword.toList hfirst, ← heq, String.toList_append, hupper]
    simp
  rcases List.mem_cons.mp hmem with rfl | hmem
  · rw [hbig] at hlowered
    cases hlowered
  · rw [hword.small d hmem] at hbig
    cases hbig

/-- **A prefixed text becomes a word** exactly if the prefix is `has` and what is prefixed is the
word, with or without its capital. -/
theorem prefixed_eq_iff (hgroup : SmallName group) (hplain : IdentifierText plain)
    (hne : plain ≠ "") (hword : Capitalized word first rest) :
    (group ++ upperFirst plain = word ∨ group ++ upperFirst plain = lowerFirst word ∨
        group ++ upperFirst plain = "has" ++ word) ↔
      group = "has" ∧ (plain = word ∨ plain = lowerFirst word) := by
  have hword_ne : group ++ upperFirst plain ≠ word := by
    intro heq
    rw [← String.empty_append (s := word)] at heq
    exact hgroup.nonempty ((prefixed_eq_append_iff hgroup hplain hne hword (by simp)).mp heq).1
  have hhas : ∀ c ∈ "has".toList, c.isLower = true := List.all_eq_true.mp (by decide)
  rw [or_iff_right hword_ne, or_iff_right (prefixed_ne_lowerFirst hplain hne hword),
    prefixed_eq_append_iff hgroup hplain hne hword hhas, upperFirst_eq_iff hplain hword]

end Naming

namespace Qt

open Naming Text.Source

/-! ## 2. Properties whose accessors hide members -/

/-- The members of the runtime class that generated classes call without naming it. -/
def runtimeMembers : List String :=
  ["addType", "addProperty", "setProperty", "property", "contains"]

/-- A property has an identifier that comes out as a word in the names of its accessors. -/
def SpeltAs (prefixed : Bool) (p : PropertyInfo) (word : String) : Prop :=
  if prefixed then groupOf p.abbreviation = "has" ∧ plainIdentifier p ∈ [word, lowerFirst word]
  else plainIdentifier p ∈ [word, lowerFirst word, "has" ++ word]

instance (prefixed : Bool) (p : PropertyInfo) (word : String) :
    Decidable (SpeltAs prefixed p word) := by
  unfold SpeltAs
  infer_instance

/-- **The members that the accessors of a property hide.**  Setters are called in the plural unless
there is one value. -/
def Hides (prefixed : Bool) (p : PropertyInfo) (name : String) : Prop :=
  name = "addType" ∧ SpeltAs prefixed p "Type" ∨
    name = "addProperty" ∧ SpeltAs prefixed p "Property" ∨
    name = "setProperty" ∧ p.cardinality.isSingle = true ∧ SpeltAs prefixed p "Property"

/-- The identifier that gives a property its names. -/
def chosenIdentifier (prefixed : Bool) (p : PropertyInfo) : String :=
  if prefixed then prefixedIdentifier p else plainIdentifier p

variable {prefixed : Bool} {p : PropertyInfo}

theorem identifierText_chosenIdentifier : IdentifierText (chosenIdentifier prefixed p) := by
  have hplain : IdentifierText (plainIdentifier p) := identifierText_sanitize _
  unfold chosenIdentifier
  split
  · exact (identifierText_sanitize _).append hplain.upperFirst
  · exact hplain

theorem upperFirst_withoutHas_iff {word : String} {first : Char} {rest : List Char}
    (hword : Capitalized word first rest) (hfirst : first ≠ 'H') :
    upperFirst (withoutHas (chosenIdentifier prefixed p)) = word ↔ SpeltAs prefixed p word := by
  rw [upperFirst_withoutHas_eq_iff identifierText_chosenIdentifier hword hfirst]
  unfold SpeltAs chosenIdentifier
  cases prefixed with
  | true =>
    simp only [if_true, List.mem_cons, List.not_mem_nil, or_false]
    exact prefixed_eq_iff (smallName_groupOf _) (identifierText_sanitize _)
      (sanitize_ne_empty _) hword
  | false => simp

theorem verb_append_eq_iff {v w s t : String} (hv : v ∈ verbs) (hw : w ∈ verbs) :
    v ++ s = w ++ t ↔ v = w ∧ s = t := by
  have hlength : ∀ verb ∈ verbs, verb.toList.length = 3 := by decide
  constructor
  · intro h
    have hchars : v.toList ++ s.toList = w.toList ++ t.toList := by
      rw [← String.toList_append, h, String.toList_append]
    obtain ⟨hverb, hrest⟩ := List.append_inj hchars ((hlength v hv).trans (hlength w hw).symm)
    exact ⟨String.toList_injective hverb, String.toList_injective hrest⟩
  · rintro ⟨rfl, rfl⟩
    rfl

/-- The accessors that begin with a verb. -/
theorem verb_append_mem_accessors_iff {verb word : String} (hverb : verb ∈ verbs) :
    verb ++ word ∈ (namesOf prefixed p).accessors ↔
      (verb = "get" ∨ verb = "set") ∧
          upperFirst (displayName (chosenIdentifier prefixed p) p.cardinality) = word ∨
        verb = "add" ∧ upperFirst (withoutHas (chosenIdentifier prefixed p)) = word := by
  have hnames : (namesOf prefixed p).accessors = [
      "get" ++ upperFirst (displayName (chosenIdentifier prefixed p) p.cardinality),
      "set" ++ upperFirst (displayName (chosenIdentifier prefixed p) p.cardinality),
      "add" ++ upperFirst (withoutHas (chosenIdentifier prefixed p))] := rfl
  have hget : "get" ∈ verbs := by decide
  have hset : "set" ∈ verbs := by decide
  have hadd : "add" ∈ verbs := by decide
  simp only [hnames, List.mem_cons, List.not_mem_nil, or_false, verb_append_eq_iff hverb hget,
    verb_append_eq_iff hverb hset, verb_append_eq_iff hverb hadd, @eq_comm _ word]
  tauto

/-- **An accessor is called as a member of the runtime class exactly if its property is spelt
so.** -/
theorem mem_accessors_iff_hides {name : String} (hname : name ∈ runtimeMembers) :
    name ∈ (namesOf prefixed p).accessors ↔ Hides prefixed p name := by
  have hType : Capitalized "Type" 'T' ['y', 'p', 'e'] :=
    ⟨rfl, rfl, List.all_eq_true.mp (by decide)⟩
  have hProperty : Capitalized "Property" 'P' ['r', 'o', 'p', 'e', 'r', 't', 'y'] :=
    ⟨rfl, rfl, List.all_eq_true.mp (by decide)⟩
  -- What begins with no verb is no accessor.
  have hother : ∀ name : String, (∀ verb ∈ verbs, ¬ verb.toList <+: name.toList) →
      name ∉ (namesOf prefixed p).accessors := by
    intro name hnone hmem
    obtain ⟨verb, hverb, rest, rfl⟩ := exists_verb_of_mem_accessors hmem
    refine hnone verb hverb ?_
    rw [String.toList_append]
    exact List.prefix_append _ _
  have hread : ∀ verb ∈ verbs, ∀ word, name = verb ++ word →
      (name ∈ (namesOf prefixed p).accessors ↔ (verb = "get" ∨ verb = "set") ∧
          upperFirst (displayName (chosenIdentifier prefixed p) p.cardinality) = word ∨
        verb = "add" ∧ upperFirst (withoutHas (chosenIdentifier prefixed p)) = word) := by
    rintro verb hverb word rfl
    exact verb_append_mem_accessors_iff hverb
  simp only [runtimeMembers, List.mem_cons, List.not_mem_nil, or_false] at hname
  rcases hname with rfl | rfl | rfl | rfl | rfl
  · rw [hread "add" (by decide) "Type" rfl, upperFirst_withoutHas_iff hType (by decide)]
    simp [Hides]
  · rw [hread "add" (by decide) "Property" rfl, upperFirst_withoutHas_iff hProperty (by decide)]
    simp [Hides]
  · rw [hread "set" (by decide) "Property" rfl]
    cases hsingle : p.cardinality.isSingle with
    | true =>
      rw [displayName, if_pos hsingle, upperFirst_withoutHas_iff hProperty (by decide)]
      simp [Hides, hsingle]
    | false =>
      have hplural : IdentifierText (displayName (chosenIdentifier prefixed p) p.cardinality) :=
        identifierText_chosenIdentifier.displayName _
      rw [displayName, if_neg (by simp [hsingle])] at hplural ⊢
      have hne := upperFirst_plural_ne hplural hProperty rfl (by decide)
      simp [Hides, hsingle, hne]
  · simp [Hides, hother "property" (by decide)]
  · simp [Hides, hother "contains" (by decide)]

/-! ## 3. The methods of a class -/

/-- The method that a line declares, behind its type and in front of its parameters. -/
def methodIn? (line : String) : Option String :=
  match (line.toList.takeWhile (· != '(')).splitOn ' ' with
  | [type, name] => if type.isEmpty then none else some (.ofList name)
  | _ => none

/-- The methods of a class, without its constructors. -/
def methodsOf (unit : ClassUnit) : List String := ((members unit).map outdent).filterMap methodIn?

/-- A line that begins with a space goes on with the body of a method, or with a comment. -/
theorem methodIn?_of_space {line : String} (h : line.toList.head? = some ' ') :
    methodIn? line = none := by
  obtain ⟨cs, hcs⟩ := List.head?_eq_some_iff.mp h
  obtain ⟨part, parts, hparts⟩ :=
    List.exists_cons_of_ne_nil (List.splitOn_ne_nil ' ' (cs.takeWhile (· != '(')))
  have hsplit : (' ' :: cs.takeWhile (· != '(')).splitOn ' ' = [] :: part :: parts := by
    rw [List.splitOn_cons_eq_if_modifyHead, if_pos (by decide), hparts]
  rw [methodIn?, hcs, List.takeWhile_cons_of_pos rfl, hsplit]
  cases parts <;> rfl

/-- The front of a line up to a bracket. -/
theorem takeWhile_front {front : String} (hfront : '(' ∉ front.toList) (rest : String) :
    (front ++ "(" ++ rest).toList.takeWhile (· != '(') = front.toList := by
  have hopen : ∀ c ∈ front.toList, (c != '(') = true := by
    intro c hc
    rw [bne_iff_ne]
    rintro rfl
    exact hfront hc
  have hchars : (front ++ "(" ++ rest).toList = front.toList ++ '(' :: rest.toList := by simp
  rw [hchars, List.takeWhile_append_of_pos hopen, List.takeWhile_cons_of_neg (by simp),
    List.append_nil]

/-- Constructors have no type. -/
theorem methodIn?_constructor {name : String} (hname : IdentifierText name) (rest : String) :
    methodIn? (name ++ "(" ++ rest) = none := by
  rw [methodIn?, takeWhile_front (hname.notMem (by decide)),
    List.splitOn_eq_singleton (hname.notMem (by decide))]

/-- A declared method is read. -/
theorem methodIn?_declaration {type name : String} (hne : type ≠ "") (htype : ' ' ∉ type.toList)
    (hname : ' ' ∉ name.toList) (hfront : '(' ∉ type.toList ++ name.toList) (rest : String) :
    methodIn? (type ++ " " ++ name ++ "(" ++ rest) = some name := by
  have hchars : (type ++ " " ++ name).toList = type.toList ++ ' ' :: name.toList := by simp
  have hopen : '(' ∉ (type ++ " " ++ name).toList := by
    rw [hchars]
    simpa using hfront
  have hsome : type.toList.isEmpty = false := by
    rw [List.isEmpty_eq_false_iff]
    exact fun hnil => hne (String.toList_injective hnil)
  rw [methodIn?, takeWhile_front hopen, hchars, List.splitOn_append_cons_self_of_not_mem htype,
    List.splitOn_eq_singleton hname]
  simp [hsome]

theorem filterMap_indent (body : List String) : (indent body).filterMap methodIn? = [] := by
  refine List.filterMap_eq_nil_iff.mpr fun line hline => ?_
  obtain ⟨inner, -, rfl⟩ := List.mem_map.mp hline
  split
  · rename_i hempty
    rw [String.isEmpty_iff.mp hempty]
    rfl
  · exact methodIn?_of_space (by simp)

/-- A block declares what its head declares. -/
theorem filterMap_block (head : String) (body : List String) :
    (block head body).filterMap methodIn? = (methodIn? (head ++ " \x7b")).toList := by
  have hclose : methodIn? "\x7d" = none := by decide
  rw [block, List.cons_append, List.filterMap_cons, List.filterMap_append, filterMap_indent,
    List.filterMap_cons, hclose, List.filterMap_nil]
  cases methodIn? (head ++ " \x7b") <;> rfl

theorem filterMap_blockComment (text : String) : (blockComment text).filterMap methodIn? = [] := by
  have hclosed : ∀ line ∈ ["/**", " *", " */"], methodIn? line = none := by decide
  refine List.filterMap_eq_nil_iff.mpr fun line hline => ?_
  simp only [blockComment, List.mem_append, List.mem_singleton] at hline
  rcases hline with (rfl | hline) | rfl
  · exact hclosed _ (by simp)
  · split at hline
    · rw [List.mem_singleton.mp hline]
      exact hclosed _ (by simp)
    · obtain ⟨inner, -, rfl⟩ := List.mem_map.mp hline
      exact methodIn?_of_space (by simp)
  · exact hclosed _ (by simp)

/-- Types are named by one word. -/
theorem valueTypeName_word (v : ValueType) :
    valueTypeName v ≠ "" ∧ ' ' ∉ (valueTypeName v).toList ∧ '(' ∉ (valueTypeName v).toList := by
  cases v with
  | scalar t => cases t <;> decide
  | list t => cases t <;> decide
  | stringList => decide

/-- **A property declares its accessors.** -/
theorem filterMap_accessorMethods {a : Accessor}
    (h : ∀ name ∈ a.names.accessors, IdentifierText name) :
    (accessorMethods a).filterMap methodIn? = a.names.accessors := by
  have hempty : methodIn? "" = none := by decide
  have hdeclared : ∀ type name rest, type ≠ "" ∧ ' ' ∉ type.toList ∧ '(' ∉ type.toList →
      name ∈ a.names.accessors → methodIn? (type ++ " " ++ name ++ "(" ++ rest) = some name := by
    rintro type name rest ⟨hne, hspace, hbracket⟩ hname
    refine methodIn?_declaration hne hspace ((h name hname).notMem (by decide)) ?_ rest
    rw [List.mem_append, not_or]
    exact ⟨hbracket, (h name hname).notMem (by decide)⟩
  have hvoid : "void" ≠ "" ∧ ' ' ∉ "void".toList ∧ '(' ∉ "void".toList := by decide
  have hgetter : (getter a).filterMap methodIn? = [a.names.getter] := by
    have hline : valueTypeName a.valueType ++ " " ++ a.names.getter ++ "() const" ++ " \x7b"
        = valueTypeName a.valueType ++ " " ++ a.names.getter ++ "(" ++ ") const \x7b" :=
      String.toList_injective (by simp)
    rw [getter, filterMap_block, hline,
      hdeclared _ _ _ (valueTypeName_word a.valueType) (by simp [AccessorNames.accessors])]
    rfl
  have hmutator : ∀ name ∈ a.names.accessors, ∀ value body,
      (block ("void " ++ name ++ "(const " ++ value ++ "& value)") body).filterMap methodIn?
        = [name] := by
    intro name hname value body
    have hline : "void " ++ name ++ "(const " ++ value ++ "& value)" ++ " \x7b"
        = "void" ++ " " ++ name ++ "(" ++ ("const " ++ value ++ "& value) \x7b") :=
      String.toList_injective (by simp)
    rw [filterMap_block, hline, hdeclared _ _ _ hvoid hname]
    rfl
  have hsetter : (setter a).filterMap methodIn? = [a.names.setter] :=
    hmutator _ (by simp [AccessorNames.accessors]) _ _
  have hadder : (adder a).filterMap methodIn? = [a.names.adder] :=
    hmutator _ (by simp [AccessorNames.accessors]) _ _
  simp only [accessorMethods, accessorComment, List.filterMap_append, List.filterMap_cons, hempty,
    List.filterMap_nil, filterMap_blockComment, hgetter, hsetter, hadder]
  rfl

/-- Constructors are no methods. -/
theorem filterMap_lines {unit : ClassUnit} (hname : IdentifierText unit.self.name)
    (k : Constructor) : (k.lines unit).filterMap methodIn? = [] := by
  have hhead : ∀ after : String,
      methodIn? (unit.self.name ++ "(" ++ k.parameters ++ ")" ++ after) = none := by
    intro after
    have hread := methodIn?_constructor hname (k.parameters ++ ")" ++ after)
    simpa only [String.append_assoc] using hread
  rw [Constructor.lines]
  split
  · rw [filterMap_block, hhead]
    rfl
  · have hline := hhead ""
    rw [String.append_empty] at hline
    rw [List.filterMap_cons, hline, filterMap_block, methodIn?_of_space (by simp)]
    rfl

theorem filterMap_assignment {unit : ClassUnit} (hname : IdentifierText unit.self.name) :
    (assignment unit).filterMap methodIn? = ["operator="] := by
  have hspace : ' ' ∉ (unit.self.name ++ "&").toList := by
    simpa using hname.notMem (by decide)
  have hbracket : '(' ∉ (unit.self.name ++ "&").toList ++ "operator=".toList := by
    simpa using hname.notMem (by decide)
  have hne : unit.self.name ++ "&" ≠ "" := by
    intro hnil
    simpa using congrArg String.toList hnil
  have hline : unit.self.name ++ "& operator=(const SimpleResource& res)" ++ " \x7b"
      = unit.self.name ++ "&" ++ " " ++ "operator=" ++ "(" ++ "const SimpleResource& res) \x7b" :=
    String.toList_injective (by simp)
  rw [assignment, filterMap_block, hline, methodIn?_declaration hne hspace (by decide) hbracket]
  rfl

/-- **A class declares its assignment and the accessors of its properties.** -/
theorem methodsOf_eq {unit : ClassUnit} (hname : IdentifierText unit.self.name)
    (h : ∀ a ∈ unit.accessors, ∀ name ∈ a.names.accessors, IdentifierText name) :
    methodsOf unit = "operator=" :: unit.accessors.flatMap (·.names.accessors) := by
  have haccessors : (unit.accessors.flatMap accessorMethods).filterMap methodIn?
      = unit.accessors.flatMap (·.names.accessors) := by
    rw [List.filterMap_flatMap]
    exact List.flatMap_congr fun a ha => filterMap_accessorMethods (h a ha)
  have hempty : methodIn? "" = none := by decide
  have hpublic : methodIn? (outdent "public:") = none := by decide
  have hprotected : methodIn? (outdent "protected:") = none := by decide
  simp only [methodsOf, members, List.map_append, map_outdent_indent, List.map_cons, List.map_nil,
    List.filterMap_append, List.filterMap_cons, List.filterMap_nil, filterMap_lines hname,
    filterMap_assignment hname, haccessors, hempty, hpublic, hprotected, List.append_nil,
    List.nil_append]
  rfl

/-! ## 4. What is found in the scope of a class -/

/-- The names that a class declares: its own and those of its methods. -/
def scopeOf (unit : ClassUnit) : List String := unit.self.name :: methodsOf unit

/-- **A name is hidden** if it is found in a class or in a generated class above it: then it is not
looked for in the runtime class. -/
def Hidden (outer : String) (rendering : Rendering) (unit : ClassUnit) (name : String) : Prop :=
  ∃ base, Relation.ReflTransGen (DerivedFrom outer rendering) unit base ∧ name ∈ scopeOf base

/-- The members of the runtime class that the methods of a class hide. -/
theorem mem_methodsOf_iff {index : Index} {c : ClassInfo} {unit : ClassUnit}
    (h : index.plan id c = .ok unit) {name : String} (hname : name ∈ runtimeMembers) :
    name ∈ methodsOf unit ↔
      ∃ p ∈ index.effectiveProperties c,
        Hides (isPrefixed id (index.effectiveProperties c) p) p name := by
  have hself : IdentifierText unit.self.name := by
    rw [self_of_plan h]
    exact identifierText_sanitize _
  have hoperator : name ≠ "operator=" := by
    rintro rfl
    exact absurd hname (by decide)
  rw [methodsOf_eq hself (identifierText_of_plan h), List.mem_cons, or_iff_right hoperator,
    accessors_of_plan h, List.flatMap_map, List.mem_flatMap]
  exact exists_congr fun p => and_congr_right fun _ => mem_accessors_iff_hides hname

section Rendered

variable {store : Store} {outer : String} {rendering : Rendering} {unit base : ClassUnit}

/-- What a class is looked up in: itself and the classes above it. -/
theorem reflTransGen_derivedFrom_iff
    (h : renderAll (Index.ofStore store) (renderer outer) = .ok rendering)
    (hunit : unit ∈ rendering.units) :
    Relation.ReflTransGen (DerivedFrom outer rendering) unit base ↔ base ∈ rendering.units ∧
      Relation.ReflTransGen (Index.ofStore store).Parent unit.self.iri base.self.iri := by
  rw [Relation.reflTransGen_iff_eq_or_transGen, transGen_derivedFrom_iff h hunit,
    Relation.reflTransGen_iff_eq_or_transGen]
  constructor
  · rintro (rfl | ⟨hbase, habove⟩)
    · exact ⟨hunit, .inl rfl⟩
    · exact ⟨hbase, .inr habove⟩
  · rintro ⟨hbase, hsame | habove⟩
    · exact .inl (unit_eq_of_iri_eq h hbase hunit hsame)
    · exact .inr ⟨hbase, habove⟩

end Rendered

/-- **Hidden members.**  A planned class declares a member of the runtime class exactly if one of
its properties is spelt so, be it prefixed or not.  Whenever an index is rendered, a member is
hidden in a class exactly if the class, or one above it, is called so or declares it. -/
theorem members_hidden_iff (store : Store) (outer : String) :
    (∀ c unit, (Index.ofStore store).plan (renderer outer).methodName c = .ok unit →
      ∀ name ∈ runtimeMembers, (name ∈ methodsOf unit ↔
        ∃ p ∈ (Index.ofStore store).effectiveProperties c,
          Hides (isPrefixed id ((Index.ofStore store).effectiveProperties c) p) p name)) ∧
    ∀ rendering, renderAll (Index.ofStore store) (renderer outer) = .ok rendering →
      ∀ unit ∈ rendering.units, ∀ name ∈ runtimeMembers, (Hidden outer rendering unit name ↔
        ∃ c ∈ (Index.ofStore store).classes,
          Relation.ReflTransGen (Index.ofStore store).Parent unit.self.iri c.iri ∧
          (identifierOf c.iri = name ∨ ∃ p ∈ (Index.ofStore store).effectiveProperties c,
            Hides (isPrefixed id ((Index.ofStore store).effectiveProperties c) p) p name)) := by
  refine ⟨fun c unit hplan name hname => mem_methodsOf_iff hplan hname, ?_⟩
  intro rendering h unit hunit name hname
  -- A class declares the members that it is called as, and those of its properties.
  have hscope : ∀ {c base}, (Index.ofStore store).plan id c = .ok base →
      (name ∈ scopeOf base ↔ identifierOf c.iri = name ∨
        ∃ p ∈ (Index.ofStore store).effectiveProperties c,
          Hides (isPrefixed id ((Index.ofStore store).effectiveProperties c) p) p name) := by
    intro c base hplan
    have hself : base.self.name = identifierOf c.iri := by
      rw [self_of_plan hplan]
      rfl
    rw [scopeOf, List.mem_cons, mem_methodsOf_iff hplan hname, hself, eq_comm]
  constructor
  · rintro ⟨base, hpath, hmem⟩
    obtain ⟨hbase, habove⟩ := (reflTransGen_derivedFrom_iff h hunit).mp hpath
    obtain ⟨c, hc, hplan⟩ := exists_class_of_renderAll h hbase
    obtain ⟨chain, hplanned⟩ := Index.planOf_of_plan (Index.wellFormed_ofStore store) hc hplan
    rw [hplanned.iri] at habove
    exact ⟨c, hc, habove, (hscope hplan).mp hmem⟩
  · rintro ⟨c, hc, habove, hdeclares⟩
    obtain ⟨base, hbase, hplan⟩ := exists_plan_of_renderAll h hc
    obtain ⟨chain, hplanned⟩ := Index.planOf_of_plan (Index.wellFormed_ofStore store) hc hplan
    rw [← hplanned.iri] at habove
    exact ⟨base, (reflTransGen_derivedFrom_iff h hunit).mpr ⟨hbase, habove⟩,
      (hscope hplan).mpr hdeclares⟩

/-- `x:Cell` is below `x:Phone`, and `x:type` is a property of the latter. -/
def typedPhone : Store := .ofList (textPropertyDeclaration "x:type" ++ [
  domainOf "x:type" (.iri "x:Phone"), Index.declaration "x:Cell", Index.declaration "x:Phone",
  Index.parentage "x:Cell" "x:Phone"])

/-- The upper of the two classes, and its property, as they are indexed. -/
def typedClass : ClassInfo := ⟨"x:Phone", "Phone", none, "x", []⟩
@[inherit_doc typedClass] def typeProperty : PropertyInfo :=
  ⟨"x:type", ["x:Phone"], Vocabulary.xsdString, .unbounded, none, "x"⟩

theorem ofStore_typedPhone : Index.ofStore typedPhone =
    { classes := [⟨"x:Cell", "Cell", none, "x", ["x:Phone"]⟩, typedClass]
      properties := [typeProperty] } :=
  (Index.inserted.property _).trans (by decide +kernel)

/-- The plan of the upper class. -/
def typedUnit : ClassUnit :=
  ⟨.ofClass typedClass, "Phone", none, [], [],
    [.ofProperty ⟨typeProperty, ⟨"type", "getTypes", "setTypes", "addType"⟩⟩]⟩

theorem plan_typedClass :
    (Index.ofStore typedPhone).plan (renderer "Onto").methodName typedClass = .ok typedUnit := by
  rw [ofStore_typedPhone]
  exact plan_eq_ok_iff.mpr ⟨[], by cbv,
    [⟨typeProperty, ⟨"type", "getTypes", "setTypes", "addType"⟩⟩],
    disambiguate_eq_ok_iff.mpr ⟨by decide +kernel, by decide +kernel, by decide +kernel⟩, rfl⟩

/-- The plans of the two classes. -/
def typedUnits : List ClassUnit :=
  [⟨cellRef, "Cell", none, [.ofClass typedClass], [.ofClass typedClass], []⟩, typedUnit]

theorem renderAll_typedPhone : renderAll (Index.ofStore typedPhone) (renderer "Onto")
    = .ok ⟨typedUnits, (renderer "Onto").outputs typedUnits⟩ := by
  have hplan := plan_typedClass
  have hpaths : sharedPath? [] ((renderer "Onto").outputs typedUnits) = none :=
    sharedPath?_eq_none_iff.mpr ⟨by decide +kernel, by simp [renderer]⟩
  refine renderAll_eq_ok_iff.mpr ⟨?_, rfl, hpaths⟩
  rw [ofStore_typedPhone] at hplan ⊢
  refine .cons ?_ (.cons hplan .nil)
  exact plan_eq_ok_iff.mpr
    ⟨_, by cbv, [], disambiguate_eq_ok_iff.mpr ⟨by decide +kernel, .nil, .nil⟩, rfl⟩

/-- A class without accessors, below one that hides a member. -/
theorem members_hidden_iff_typedPhone : ∃ rendering,
    renderAll (Index.ofStore typedPhone) (renderer "Onto") = .ok rendering ∧
    ∃ unit ∈ rendering.units, unit.self = cellRef ∧ unit.accessors = [] ∧
      Hidden "Onto" rendering unit "addType" := by
  have hcell : ∃ unit ∈ typedUnits, unit.self = cellRef ∧ unit.accessors = [] := by decide
  obtain ⟨unit, hunit, hself, hnone⟩ := hcell
  refine ⟨_, renderAll_typedPhone, unit, hunit, hself, hnone, ?_⟩
  have hiff := (members_hidden_iff typedPhone "Onto").2 _ renderAll_typedPhone unit hunit "addType"
    (by decide)
  rw [hiff, ofStore_typedPhone, hself]
  refine ⟨typedClass, by simp, .single ⟨_, List.mem_cons_self, rfl, by decide⟩, .inr ?_⟩
  exact ⟨typeProperty, by decide +kernel, .inl ⟨rfl, by decide +kernel⟩⟩

/-- **A class takes the calls of its own constructors**: it is planned, all its constructors call
`addType`, and it declares an accessor of that name. -/
theorem addType_mem_methodsOf_typedPhone : ∃ unit,
    (Index.ofStore typedPhone).plan (renderer "Onto").methodName typedClass = .ok unit ∧
    (constructorsOf unit).map (·.body) = [
      ["addType(QUrl::fromEncoded(\"x:Phone\", QUrl::StrictMode));"],
      ["addType(QUrl::fromEncoded(\"x:Phone\", QUrl::StrictMode));"],
      ["addType(type);"], ["addType(type);"]] ∧
    "addType" ∈ methodsOf unit := by
  have hname : IdentifierText typedUnit.self.name :=
    identifierText_sanitize (Iri.localName "x:Phone")
  refine ⟨typedUnit, plan_typedClass, ?_, ?_⟩
  · rw [constructorsOf_eq hname]
    decide +kernel
  · rw [mem_methodsOf_iff plan_typedClass (by decide), ofStore_typedPhone]
    exact ⟨typeProperty, by decide +kernel, .inl ⟨rfl, by decide +kernel⟩⟩

end Qt

end OntoWrap
