import Mathlib.Data.List.TakeWhile
import OntoWrap.Rdf.Iri

/-!
# How the parts of an IRI fit together

The local name and the namespace of an IRI are found by looking for its last delimiter, each among
delimiters of its own, and the section before the local name by cutting the IRI at every delimiter.
The three agree (`parts_agree`): an IRI ends in its section, one delimiter and its local name, and
it is its namespace followed by its local name whenever the last delimiter is `#` or `/`.

Everything follows from what each function does to a front, a delimiter and a rest without
delimiters.  The last section but one is then the local name of the front (`sectionChars_cut`), so
that what holds of local names serves for both.
-/
namespace OntoWrap.Iri

/-! ## 1. The last delimiter -/

/-- No character is a delimiter. -/
def Undivided (cs : List Char) : Prop := ∀ c ∈ cs, isDelimiter c = false

instance (cs : List Char) : Decidable (Undivided cs) :=
  List.decidableBAll (isDelimiter · = false) cs

/-- There is no character, or the last one is a delimiter. -/
def EndsDelimited (cs : List Char) : Prop := ∀ c ∈ cs.getLast?, isDelimiter c = true

/-- The last delimiter of an IRI. -/
def LastDelimiter (iri : String) (d : Char) : Prop :=
  isDelimiter d = true ∧ ∃ front rest, iri.toList = front ++ d :: rest ∧ Undivided rest

variable {cs front rest : List Char} {d : Char} {p : Char → Bool}

theorem endsNamespace_of_not_isDelimiter (h : isDelimiter d = false) : endsNamespace d = false :=
  (Bool.or_eq_false_iff.mp h).1

/-- Either no character is of a kind, or there is a last one. -/
theorem none_or_cut (p : Char → Bool) (cs : List Char) : (∀ c ∈ cs, p c = false) ∨
    ∃ front d rest, cs = front ++ d :: rest ∧ p d = true ∧ ∀ c ∈ rest, p c = false := by
  induction cs with
  | nil => exact .inl fun c hc => nomatch hc
  | cons c cs ih =>
    rcases ih with hnone | ⟨front, d, rest, rfl, hd, hrest⟩
    · cases hc : p c with
      | false => exact .inl (List.forall_mem_cons.mpr ⟨hc, hnone⟩)
      | true => exact .inr ⟨[], c, cs, rfl, hc, hnone⟩
    · exact .inr ⟨c :: front, d, rest, rfl, hd, hrest⟩

theorem exists_cut (h : ∃ c ∈ cs, p c = true) :
    ∃ front d rest, cs = front ++ d :: rest ∧ p d = true ∧ ∀ c ∈ rest, p c = false := by
  rcases none_or_cut p cs with hnone | hcut
  · obtain ⟨c, hc, hpc⟩ := h
    exact absurd hpc (Bool.eq_false_iff.mp (hnone c hc))
  · exact hcut

/-- A character that is looked for from the end is found where the last one is. -/
theorem reverse_cut (hd : p d = true) (hrest : ∀ c ∈ rest, p c = false) :
    (front ++ d :: rest).reverse.takeWhile (fun c => !p c) = rest.reverse ∧
      (front ++ d :: rest).reverse.dropWhile (fun c => !p c) = d :: front.reverse := by
  have hskipped : ∀ c ∈ rest.reverse, (!p c) = true := fun c hc => by
    rw [hrest c (List.mem_reverse.mp hc)]; rfl
  rw [List.reverse_append, List.reverse_cons, List.append_assoc, List.singleton_append,
    List.takeWhile_append_of_pos hskipped, List.dropWhile_append_of_pos hskipped]
  simp [hd]

/-! ## 2. Each part, as characters -/

theorem localNameChars_cut (hd : isDelimiter d = true) (hrest : Undivided rest) :
    localNameChars (front ++ d :: rest) = rest := by
  rw [localNameChars, (reverse_cut hd hrest).1, List.reverse_reverse]

theorem localNameChars_of_undivided (h : Undivided cs) : localNameChars cs = cs := by
  have hall : ∀ c ∈ cs.reverse, (!isDelimiter c) = true := fun c hc => by
    rw [h c (List.mem_reverse.mp hc)]; rfl
  rw [localNameChars, List.takeWhile_eq_self_iff.mpr hall, List.reverse_reverse]

theorem undivided_localNameChars (cs : List Char) : Undivided (localNameChars cs) := fun c hc => by
  simpa using List.mem_takeWhile_imp (List.mem_reverse.mp hc)

/-- What stands before the local name is empty or ends in a delimiter. -/
theorem exists_localNameChars (cs : List Char) :
    ∃ front, cs = front ++ localNameChars cs ∧ EndsDelimited front := by
  rcases none_or_cut isDelimiter cs with h | ⟨front, d, rest, rfl, hd, hrest⟩
  · exact ⟨[], (localNameChars_of_undivided h).symm, fun c hc => nomatch hc⟩
  · refine ⟨front ++ [d], ?_, fun c hc => ?_⟩
    · rw [localNameChars_cut hd hrest, List.append_assoc, List.singleton_append]
    · rw [List.getLast?_concat, Option.mem_some] at hc
      exact hc ▸ hd

theorem namespaceChars_cut (hd : endsNamespace d = true)
    (hrest : ∀ c ∈ rest, endsNamespace c = false) :
    namespaceChars (front ++ d :: rest) = front ++ [d] := by
  have hback : (d :: front.reverse).reverse = front ++ [d] := by
    rw [List.reverse_cons, List.reverse_reverse]
  rw [namespaceChars, (reverse_cut hd hrest).2]
  exact hback

theorem namespaceChars_of_none (h : ∀ c ∈ cs, endsNamespace c = false) :
    namespaceChars cs = cs := by
  have hnone : cs.reverse.dropWhile (fun c => !endsNamespace c) = [] :=
    List.dropWhile_eq_nil_iff.mpr fun c hc => by rw [h c (List.mem_reverse.mp hc)]; rfl
  rw [namespaceChars, hnone]

/-- What stands behind the namespace does not end one. -/
theorem exists_namespaceChars (cs : List Char) :
    ∃ rest, cs = namespaceChars cs ++ rest ∧ ∀ c ∈ rest, endsNamespace c = false := by
  rcases none_or_cut endsNamespace cs with h | ⟨front, d, rest, rfl, hd, hrest⟩
  · exact ⟨[], by rw [namespaceChars_of_none h, List.append_nil], fun c hc => nomatch hc⟩
  · exact ⟨rest, by rw [namespaceChars_cut hd hrest, List.append_assoc, List.singleton_append],
      hrest⟩

theorem exists_getLast?_namespaceChars (h : ∃ c ∈ cs, endsNamespace c = true) :
    ∃ c ∈ (namespaceChars cs).getLast?, endsNamespace c = true := by
  obtain ⟨front, d, rest, rfl, hd, hrest⟩ := exists_cut h
  rw [namespaceChars_cut hd hrest, List.getLast?_concat]
  exact ⟨d, rfl, hd⟩

/-- **The last section is the local name.** -/
theorem getLast?_splitOnP (cs : List Char) :
    (cs.splitOnP isDelimiter).getLast? = some (localNameChars cs) := by
  rcases none_or_cut isDelimiter cs with h | ⟨front, d, rest, rfl, hd, hrest⟩
  · rw [List.splitOnP_eq_singleton h, localNameChars_of_undivided h, List.getLast?_singleton]
  · rw [List.splitOnP_append_cons _ _ hd, List.splitOnP_eq_singleton hrest, List.getLast?_concat,
      localNameChars_cut hd hrest]

/-- **The last section but one is the local name of what stands before the last delimiter.** -/
theorem sectionChars_cut (hd : isDelimiter d = true) (hrest : Undivided rest) :
    sectionChars (front ++ d :: rest) = localNameChars front := by
  rw [sectionChars, List.splitOnP_append_cons _ _ hd, List.splitOnP_eq_singleton hrest,
    List.dropLast_concat, getLast?_splitOnP, Option.getD_some]

theorem sectionChars_of_undivided (h : Undivided cs) : sectionChars cs = [] := by
  rw [sectionChars, List.splitOnP_eq_singleton h]
  rfl

theorem undivided_sectionChars (cs : List Char) : Undivided (sectionChars cs) := by
  rcases none_or_cut isDelimiter cs with h | ⟨front, d, rest, rfl, hd, hrest⟩
  · rw [sectionChars_of_undivided h]
    exact fun c hc => nomatch hc
  · rw [sectionChars_cut hd hrest]
    exact undivided_localNameChars front

/-! ## 3. Each part, as a text -/

@[simp] theorem toList_localName (iri : String) :
    (localName iri).toList = localNameChars iri.toList :=
  String.toList_ofList

@[simp] theorem toList_namespaceOf (iri : String) :
    (namespaceOf iri).toList = namespaceChars iri.toList := String.toList_ofList

@[simp] theorem toList_sectionName (iri : String) :
    (sectionName iri).toList = sectionChars iri.toList := String.toList_ofList

/-- **An IRI ends in its section, one delimiter and its local name**, and the section is a whole
one. -/
theorem exists_sectionName {iri : String} (h : ∃ c ∈ iri.toList, isDelimiter c = true) :
    ∃ front d, front ++ sectionName iri ++ String.singleton d ++ localName iri = iri ∧
      isDelimiter d = true ∧ EndsDelimited front.toList := by
  obtain ⟨front, d, rest, hiri, hd, hrest⟩ := exists_cut h
  obtain ⟨before, hfront, hbefore⟩ := exists_localNameChars front
  refine ⟨String.ofList before, d, ?_, hd, by rwa [String.toList_ofList]⟩
  apply String.toList_injective
  simp only [String.toList_append, String.toList_ofList, String.toList_singleton,
    toList_sectionName, toList_localName, hiri]
  rw [sectionChars_cut hd hrest, localNameChars_cut hd hrest, ← hfront, List.append_assoc,
    List.singleton_append]

/-- **An IRI is its namespace followed by its local name** if its last delimiter ends a
namespace. -/
theorem namespaceOf_append_localName {iri : String} (h : LastDelimiter iri d)
    (hd : endsNamespace d = true) : namespaceOf iri ++ localName iri = iri := by
  obtain ⟨hdelimiter, front, rest, hiri, hrest⟩ := h
  apply String.toList_injective
  rw [String.toList_append, toList_namespaceOf, toList_localName, hiri,
    namespaceChars_cut hd fun c hc => endsNamespace_of_not_isDelimiter (hrest c hc),
    localNameChars_cut hdelimiter hrest, List.append_assoc, List.singleton_append]

/-- **The three parts of an IRI agree.**

- The local name holds no delimiter, and the IRI ends in it.  It is the last of all sections.
- An IRI with a delimiter ends in its section, one delimiter and its local name.  The section holds
  no delimiter and is a whole one: before it there is nothing or a delimiter.
- An IRI begins with its namespace.  What is behind it holds no `#` and no `/`, and the namespace
  ends in one of them if the IRI has any.  If the last delimiter of the IRI is `#` or `/`, what is
  behind the namespace is the local name.
- An IRI without delimiters is its own local name and its own namespace, and its section is
empty. -/
theorem parts_agree (iri : String) :
    (Undivided (localName iri).toList ∧ (∃ front, front ++ localName iri = iri) ∧
      (iri.toList.splitOnP isDelimiter).getLast? = some (localName iri).toList) ∧
    ((∃ c ∈ iri.toList, isDelimiter c = true) →
      ∃ front d, front ++ sectionName iri ++ String.singleton d ++ localName iri = iri ∧
        isDelimiter d = true ∧ EndsDelimited front.toList) ∧
    Undivided (sectionName iri).toList ∧
    ((∃ rest, namespaceOf iri ++ rest = iri ∧ ∀ c ∈ rest.toList, endsNamespace c = false) ∧
      ((∃ c ∈ iri.toList, endsNamespace c = true) →
        ∃ c ∈ (namespaceOf iri).toList.getLast?, endsNamespace c = true)) ∧
    (∀ d, LastDelimiter iri d → endsNamespace d = true → namespaceOf iri ++ localName iri = iri) ∧
    (Undivided iri.toList → localName iri = iri ∧ namespaceOf iri = iri ∧
      sectionName iri = "") := by
  refine ⟨⟨?_, ?_, ?_⟩, exists_sectionName, ?_, ⟨?_, ?_⟩, fun _ => namespaceOf_append_localName, ?_⟩
  · rw [toList_localName]
    exact undivided_localNameChars _
  · obtain ⟨front, hfront, -⟩ := exists_localNameChars iri.toList
    exact ⟨String.ofList front, String.toList_injective (by simpa using hfront.symm)⟩
  · rw [toList_localName, getLast?_splitOnP]
  · rw [toList_sectionName]
    exact undivided_sectionChars _
  · obtain ⟨rest, hrest, hnone⟩ := exists_namespaceChars iri.toList
    exact ⟨String.ofList rest, String.toList_injective (by simpa using hrest.symm),
      by rwa [String.toList_ofList]⟩
  · rw [toList_namespaceOf]
    exact exists_getLast?_namespaceChars
  · intro h
    have hnone : ∀ c ∈ iri.toList, endsNamespace c = false := fun c hc =>
      endsNamespace_of_not_isDelimiter (h c hc)
    rw [localName, namespaceOf, sectionName, localNameChars_of_undivided h,
      namespaceChars_of_none hnone, sectionChars_of_undivided h, String.ofList_toList]
    exact ⟨rfl, rfl, rfl⟩

/-- Where two delimiters meet there is an empty section, which is neither lost nor skipped. -/
theorem parts_agree_doubled :
    (∃ c ∈ "x:ns##Cell".toList, isDelimiter c = true) ∧ sectionName "x:ns##Cell" = "" ∧
    (∃ front d, front ++ sectionName "x:ns##Cell" ++ String.singleton d ++ localName "x:ns##Cell"
        = "x:ns##Cell" ∧ isDelimiter d = true ∧ EndsDelimited front.toList) ∧
    LastDelimiter "x:ns##Cell" '#' ∧ endsNamespace '#' = true ∧
    namespaceOf "x:ns##Cell" ++ localName "x:ns##Cell" = "x:ns##Cell" ∧
    (∃ c ∈ (namespaceOf "x:ns##Cell").toList.getLast?, endsNamespace c = true) ∧
    Undivided "Cell".toList ∧ namespaceOf "Cell" = "Cell" := by
  have hdelimiter : ∃ c ∈ "x:ns##Cell".toList, isDelimiter c = true := ⟨'#', by decide, by decide⟩
  have hends : ∃ c ∈ "x:ns##Cell".toList, endsNamespace c = true := ⟨'#', by decide, by decide⟩
  have hlast : LastDelimiter "x:ns##Cell" '#' :=
    ⟨by decide, "x:ns#".toList, "Cell".toList, by decide, by decide⟩
  have hundivided : Undivided "Cell".toList := by decide
  obtain ⟨-, hsection, -, ⟨-, hnamespace⟩, hwhole, -⟩ := parts_agree "x:ns##Cell"
  exact ⟨hdelimiter, by decide +kernel, hsection hdelimiter, hlast, by decide,
    hwhole '#' hlast (by decide), hnamespace hends, hundivided,
    ((parts_agree "Cell").2.2.2.2.2 hundivided).2.1⟩

/-- A colon ends no namespace, so without `#` and `/` all of an IRI is its namespace. -/
example : namespaceOf "urn:x:thing" = "urn:x:thing" ∧ sectionName "urn:x:thing" = "x" ∧
    localName "urn:x:thing" = "thing" := by decide +kernel

end OntoWrap.Iri
