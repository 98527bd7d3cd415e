import OntoWrap.Proofs.QtComments

/-!
# Include guards

The first two lines of a header test and define a macro, so that a header that is reached again is
passed over.  `guard?` reads the macro off the text of a header, and `readInTurn` says which of some
headers are read.

The macro joins the namespace and the name of a class with an underscore.  Both may hold
underscores, so the macro does not tell where the namespace ends: two classes share a macro exactly
if the name of one goes on with what the namespace of the other ends with (`Regrouped`).  No header
is lost on the way if there are no such classes, and otherwise one is (`guards_meet_iff`).
-/
namespace OntoWrap.Qt

open Naming Text Text.Source

/-! ## 1. Reading headers -/

/-- The macro that guards a header: its first line tests the macro, the second defines it, and the
last one ends the test. -/
def guard? (text : String) : Option String :=
  match linesOf text with
  | test :: define :: rest =>
    (between? "#ifndef " "" test).filter fun name =>
      define == "#define " ++ name && rest.dropLast.getLast? == some "#endif"
  | _ => none

/-- The headers that are read when some are reached one after another.  One whose macro is defined
is passed over; any other is read and defines its macro. -/
def readInTurn (defined : List String) : List OutputUnit → List OutputUnit
  | [] => []
  | header :: rest =>
    match guard? header.contents with
    | none => header :: readInTurn defined rest
    | some name =>
      if name ∈ defined then readInTurn defined rest
      else header :: readInTurn (name :: defined) rest

theorem readInTurn_sublist (defined : List String) (headers : List OutputUnit) :
    (readInTurn defined headers).Sublist headers := by
  induction headers generalizing defined with
  | nil => exact .slnil
  | cons header rest ih =>
    rw [readInTurn]
    split
    · exact (ih _).cons_cons header
    · split
      · exact (ih _).cons header
      · exact (ih _).cons_cons header

/-- Headers with different macros, as far as they have any. -/
def Apart (a b : OutputUnit) : Prop :=
  ∀ name, guard? a.contents = some name → guard? b.contents ≠ some name

theorem Apart.symm {a b : OutputUnit} (h : Apart a b) : Apart b a :=
  fun name hb ha => h name ha hb

/-- **All headers are read exactly if their macros differ** from one another and from those that are
defined. -/
theorem readInTurn_eq_self_iff {headers : List OutputUnit} {defined : List String} :
    readInTurn defined headers = headers ↔
      headers.Pairwise Apart ∧
        ∀ header ∈ headers, ∀ name ∈ defined, guard? header.contents ≠ some name := by
  induction headers generalizing defined with
  | nil => simp [readInTurn]
  | cons header rest ih =>
    rw [readInTurn, List.pairwise_cons, List.forall_mem_cons]
    cases hguard : guard? header.contents with
    | none => simp [Apart, ih, hguard]
    | some name =>
      by_cases hdefined : name ∈ defined
      · -- A header that is passed over is missing: what is read is too short.
        have hshort : readInTurn defined rest ≠ header :: rest := by
          intro heq
          have hlength := (readInTurn_sublist defined rest).length_le
          rw [heq, List.length_cons] at hlength
          omega
        simp [hdefined, hshort]
      · have hfirst : ∀ b, Apart header b ↔ guard? b.contents ≠ some name := by
          intro b
          simp [Apart, hguard]
        simp only [if_neg hdefined, List.cons_inj_right, ih, hfirst, List.forall_mem_cons,
          forall_and]
        constructor
        · rintro ⟨hapart, hnew, hfree⟩
          refine ⟨⟨hnew, hapart⟩, ?_, hfree⟩
          rintro other hother heq
          exact hdefined (Option.some.inj heq ▸ hother)
        · rintro ⟨⟨hnew, hapart⟩, -, hfree⟩
          exact ⟨hapart, hnew, hfree⟩

/-- Of two headers with one macro, the second is passed over. -/
theorem readInTurn_pair {a b : OutputUnit} {name : String} (ha : guard? a.contents = some name)
    (hb : guard? b.contents = some name) : readInTurn [] [a, b] = [a] := by
  simp [readInTurn, ha, hb]

/-! ## 2. The macro of a class -/

variable {r s : ClassRef}

theorem upperText_underscore : Case.upperText "_" = "_" := by decide

/-- The macro is the namespace and the name in upper case, with an underscore between them. -/
theorem guardMacro_eq (r : ClassRef) :
    guardMacro r = "_" ++ Case.upperText (r.group ++ "_" ++ r.name) ++ "_H_" := by
  simp only [guardMacro, namespaceName, upperText_append, upperText_underscore, String.append_assoc]

theorem identifierText_guardMacro (h : r.WellNamed) : IdentifierText (guardMacro r) := by
  have hjoined : IdentifierText (r.group ++ "_" ++ r.name) :=
    (h.group.identifier.append (by decide)).append h.name
  rw [guardMacro_eq]
  exact (IdentifierText.append (by decide) hjoined.upperText).append (by decide)

/-- **A header is guarded by the macro of its class.** -/
theorem guard?_renderClass (outer : String) {unit : ClassUnit} (h : unit.self.WellNamed) :
    guard? ((renderer outer).renderClass unit) = some (guardMacro unit.self) := by
  have hbreak : '\n' ∉ (guardMacro unit.self).toList :=
    (identifierText_guardMacro h).notMem (by decide)
  obtain ⟨inner, hlines⟩ : ∃ inner, classLines outer unit = ["#ifndef " ++ guardMacro unit.self,
      "#define " ++ guardMacro unit.self] ++ inner ++ ["#endif"] := by
    refine ⟨(opening outer unit).drop 2 ++ blockComment (unit.comment.getD unit.label)
      ++ heading outer unit ++ indent (unit.accessors.flatMap accessorMethods)
      ++ (indent [""] ++ ["protected:"] ++ indent ((constructor unit false .passed).lines unit
        ++ (constructor unit true .passed).lines unit) ++ ["\x7d;", "\x7d", "\x7d", ""]), ?_⟩
    simp [classLines_eq, opening, closing]
  have hone : ∀ front : String, '\n' ∉ front.toList →
      linesOf (front ++ guardMacro unit.self) = [front ++ guardMacro unit.self] := by
    intro front hfront
    exact linesOf_eq_singleton (by simp [hfront, hbreak])
  have hread : linesOf ((renderer outer).renderClass unit) = ("#ifndef " ++ guardMacro unit.self) ::
      ("#define " ++ guardMacro unit.self) :: (inner.flatMap linesOf ++ ["#endif", ""]) := by
    rw [linesOf_renderClass, hlines]
    simp only [List.flatMap_append, List.flatMap_cons, List.flatMap_nil,
      hone "#ifndef " (by decide), hone "#define " (by decide)]
    simp [linesOf_eq_singleton]
  have htest : between? "#ifndef " "" ("#ifndef " ++ guardMacro unit.self)
      = some (guardMacro unit.self) :=
    between?_eq_some_iff.mpr String.append_empty.symm
  have hlast : (inner.flatMap linesOf ++ ["#endif", ""]).dropLast.getLast? = some "#endif" := by
    simp
  rw [guard?, hread]
  simp only [htest, hlast]
  simp

/-! ## 3. Where the namespace ends -/

/-- The namespace of the second class begins as that of the first one and goes on as the name of the
first one begins: with the letter case left out, the same text is cut at a later underscore. -/
def Regrouped (r s : ClassRef) : Prop :=
  ∃ middle, s.group = r.group ++ "_" ++ middle ∧
    Case.upperText r.name = Case.upperText (middle ++ "_" ++ s.name)

/-- Classes that are regrouped share their macro. -/
theorem Regrouped.guardMacro_eq (h : Regrouped r s) : guardMacro r = guardMacro s := by
  obtain ⟨middle, hgroup, hname⟩ := h
  have hjoined : Case.upperText (r.group ++ "_" ++ r.name)
      = Case.upperText (s.group ++ "_" ++ s.name) := by
    simp only [hgroup, upperText_append, hname, String.append_assoc]
  rw [Qt.guardMacro_eq, Qt.guardMacro_eq, hjoined]

/-- Two texts that are cut at an underscore each, one of them later. -/
theorem regrouped_of_append (hr : r.WellNamed) (hs : s.WellNamed) {rest : List Char}
    (hgroup : (namespaceName s).toList = (namespaceName r).toList ++ '_' :: rest)
    (hname : (Case.upperText r.name).toList = rest ++ '_' :: (Case.upperText s.name).toList) :
    Regrouped r s := by
  -- The namespace is got back from its upper case, and what is left of it is the middle.
  have hback : ∀ {t : ClassRef}, t.WellNamed →
      (namespaceName t).toList.map Char.toLower = t.group.toList := by
    intro t ht
    rw [← (identifierText_namespaceName ht).toList_lowerText, namespaceName,
      ht.group.identifier.lowerText_upperText, ht.group.lowerText]
  have hsplit : s.group = r.group ++ "_" ++ String.ofList (rest.map Char.toLower) := by
    refine String.toList_injective ?_
    rw [← hback hs, hgroup, List.map_append, hback hr]
    simp
  have hmiddle : (Case.upperText (String.ofList (rest.map Char.toLower))).toList = rest := by
    rw [namespaceName, hsplit, upperText_append, upperText_append, upperText_underscore] at hgroup
    simpa [namespaceName] using hgroup
  refine ⟨_, hsplit, String.toList_injective ?_⟩
  rw [hname, upperText_append, upperText_append, upperText_underscore]
  simp [hmiddle]

/-- **Two classes share a macro** if they are regrouped, or have one namespace and names that differ
in letter case only. -/
theorem guardMacro_eq_iff (hr : r.WellNamed) (hs : s.WellNamed) :
    guardMacro r = guardMacro s ↔
      (r.group = s.group ∧ Case.upperText r.name = Case.upperText s.name) ∨
        Regrouped r s ∨ Regrouped s r := by
  constructor
  · intro h
    have hjoined : (namespaceName r).toList ++ '_' :: (Case.upperText r.name).toList
        = (namespaceName s).toList ++ '_' :: (Case.upperText s.name).toList := by
      rw [guardMacro, guardMacro, String.append_left_inj] at h
      simpa using congrArg String.toList h
    -- The two namespaces begin alike, and one of them goes on.
    rcases List.append_eq_append_iff.mp hjoined with ⟨more, hgroup, hname⟩ | ⟨more, hgroup, hname⟩
    · cases more with
      | nil =>
        rw [List.append_nil] at hgroup
        rw [List.nil_append, List.cons_inj_right] at hname
        exact .inl ⟨upperText_inj hr.group hs.group (String.toList_injective hgroup.symm),
          String.toList_injective hname⟩
      | cons c rest =>
        obtain ⟨rfl, htail⟩ := List.cons.inj hname
        exact .inr (.inl (regrouped_of_append hr hs hgroup htail))
    · cases more with
      | nil =>
        rw [List.append_nil] at hgroup
        rw [List.nil_append, List.cons_inj_right] at hname
        exact .inl ⟨upperText_inj hr.group hs.group (String.toList_injective hgroup),
          String.toList_injective hname.symm⟩
      | cons c rest =>
        obtain ⟨rfl, htail⟩ := List.cons.inj hname
        exact .inr (.inr (regrouped_of_append hs hr hgroup htail))
  · rintro (⟨hgroup, hname⟩ | h | h)
    · rw [guardMacro, guardMacro, namespaceName, namespaceName, hgroup, hname]
    · exact h.guardMacro_eq
    · exact h.guardMacro_eq.symm

/-- No class is regrouped with itself. -/
theorem Regrouped.ne (h : Regrouped r s) : r ≠ s := by
  rintro rfl
  obtain ⟨middle, hgroup, -⟩ := h
  have hlength := congrArg (fun t => t.toList.length) hgroup
  simp at hlength

/-! ## 4. The headers of a rendering -/

section Rendered

variable {store : Store} {outer : String} {rendering : Rendering} {u v : ClassUnit}

/-- Two classes of a rendering share a macro only if they are regrouped: names that differ in letter
case only would have given them one path. -/
theorem guardMacro_eq_iff_regrouped
    (h : renderAll (Index.ofStore store) (renderer outer) = .ok rendering)
    (hu : u ∈ rendering.units) (hv : v ∈ rendering.units) (hne : u ≠ v) :
    guardMacro u.self = guardMacro v.self ↔ Regrouped u.self v.self ∨ Regrouped v.self u.self := by
  have hunamed := wellNamed_self h hu
  have hvnamed := wellNamed_self h hv
  rw [guardMacro_eq_iff hunamed hvnamed, or_iff_right]
  rintro ⟨hgroup, hname⟩
  refine hne (unit_eq_of_header_eq h hu hv ?_)
  rw [relativePath, relativePath, fileStem, fileStem, hgroup, ← hunamed.name.lowerText_upperText,
    hname, hvnamed.name.lowerText_upperText]

/-- Headers with different macros are those of classes that are not regrouped. -/
theorem apart_render_iff
    (h : renderAll (Index.ofStore store) (renderer outer) = .ok rendering)
    (hu : u ∈ rendering.units) (hv : v ∈ rendering.units) (hne : u ≠ v) :
    Apart ((renderer outer).render u) ((renderer outer).render v) ↔
      ¬(Regrouped u.self v.self ∨ Regrouped v.self u.self) := by
  rw [← guardMacro_eq_iff_regrouped h hu hv hne]
  simp [Apart, Renderer.render, guard?_renderClass outer (wellNamed_self h hu),
    guard?_renderClass outer (wellNamed_self h hv), eq_comm]

end Rendered

/-- **Include guards.**  Whenever an index is rendered, every header is guarded by the macro of its
class, and two headers share their macro exactly if their classes are regrouped.  Of some headers
that are reached one after another, all are read exactly if no two are those of regrouped
classes. -/
theorem guards_meet_iff (store : Store) (outer : String) (rendering : Rendering)
    (h : renderAll (Index.ofStore store) (renderer outer) = .ok rendering) :
    (∀ u ∈ rendering.units,
      guard? ((renderer outer).render u).contents = some (guardMacro u.self)) ∧
    (∀ u ∈ rendering.units, ∀ v ∈ rendering.units, u ≠ v →
      (guardMacro u.self = guardMacro v.self ↔
        Regrouped u.self v.self ∨ Regrouped v.self u.self)) ∧
    ∀ units : List ClassUnit, units ⊆ rendering.units → units.Nodup →
      (readInTurn [] (units.map (renderer outer).render) = units.map (renderer outer).render ↔
        ∀ u ∈ units, ∀ v ∈ units, ¬ Regrouped u.self v.self) := by
  refine ⟨fun u hu => guard?_renderClass outer (wellNamed_self h hu),
    fun u hu v hv => guardMacro_eq_iff_regrouped h hu hv, fun units hunits hdistinct => ?_⟩
  rw [readInTurn_eq_self_iff, List.pairwise_map]
  simp only [List.not_mem_nil, false_implies, implies_true, and_true]
  constructor
  · intro hapart u hu v hv hregrouped
    have hne : u ≠ v := fun heq => hregrouped.ne (congrArg ClassUnit.self heq)
    have hsymm : Std.Symm fun a b =>
        Apart ((renderer outer).render a) ((renderer outer).render b) :=
      ⟨fun a b => Apart.symm⟩
    exact (apart_render_iff h (hunits hu) (hunits hv) hne).mp (hapart.forall hu hv hne)
      (.inl hregrouped)
  · intro hnone
    refine hdistinct.pairwise_of_forall_ne fun u hu v hv hne => ?_
    rw [apart_render_iff h (hunits hu) (hunits hv) hne]
    rintro (hregrouped | hregrouped)
    · exact hnone u hu v hv hregrouped
    · exact hnone v hv u hu hregrouped

theorem guards_meet_iff_media : ∃ rendering,
    renderAll (Index.ofStore media) (renderer "Onto") = .ok rendering ∧
    ∀ u ∈ rendering.units, ∀ v ∈ rendering.units, u ≠ v →
      (guardMacro u.self = guardMacro v.self ↔
        Regrouped u.self v.self ∨ Regrouped v.self u.self) := by
  obtain ⟨rendering, h, -⟩ := exists_rendering_media
  exact ⟨rendering, h, (guards_meet_iff media "Onto" rendering h).2.1⟩

/-- Two classes that are regrouped. -/
def cutTwice : Store := .ofList [Index.declaration "a:B_C", Index.declaration "a_b:C"]

theorem ofStore_cutTwice : Index.ofStore cutTwice =
    { classes := [⟨"a:B_C", "B_C", none, "a", []⟩, ⟨"a_b:C", "C", none, "a_b", []⟩]
      properties := [] } :=
  (Index.inserted.property _).trans (by decide +kernel)

/-- The plans of the two classes. -/
def earlyCut : ClassUnit := ⟨⟨"a:B_C", "B_C", "a", true⟩, "B_C", none, [], [], []⟩
@[inherit_doc earlyCut] def lateCut : ClassUnit :=
  ⟨⟨"a_b:C", "C", "a_b", true⟩, "C", none, [], [], []⟩

theorem renderAll_cutTwice : renderAll (Index.ofStore cutTwice) (renderer "Onto")
    = .ok ⟨[earlyCut, lateCut], (renderer "Onto").outputs [earlyCut, lateCut]⟩ := by
  have hplans : [earlyCut, lateCut] = [⟨"a:B_C", "B_C", none, "a", []⟩,
      ⟨"a_b:C", "C", none, "a_b", []⟩].map ClassUnit.lone := by decide +kernel
  rw [ofStore_cutTwice, hplans]
  refine renderAll_lone (by decide) ?_
  rw [← hplans]
  decide +kernel

/-- **A header is lost**: two classes are rendered to headers that share a macro, and of the two
only the one that is reached first is read. -/
theorem readInTurn_cutTwice : ∃ rendering,
    renderAll (Index.ofStore cutTwice) (renderer "Onto") = .ok rendering ∧
    ∃ u ∈ rendering.units, ∃ v ∈ rendering.units, u ≠ v ∧
      guard? ((renderer "Onto").render u).contents = some "_A_B_C_H_" ∧
      guard? ((renderer "Onto").render v).contents = some "_A_B_C_H_" ∧
      readInTurn [] [(renderer "Onto").render u, (renderer "Onto").render v]
        = [(renderer "Onto").render u] := by
  have hearly : earlyCut ∈ [earlyCut, lateCut] := List.mem_cons_self
  have hlate : lateCut ∈ [earlyCut, lateCut] := by simp
  have hguardEarly : guard? ((renderer "Onto").render earlyCut).contents = some "_A_B_C_H_" := by
    rw [show "_A_B_C_H_" = guardMacro earlyCut.self by decide +kernel]
    exact guard?_renderClass "Onto" (wellNamed_self renderAll_cutTwice hearly)
  have hguardLate : guard? ((renderer "Onto").render lateCut).contents = some "_A_B_C_H_" := by
    rw [show "_A_B_C_H_" = guardMacro lateCut.self by decide +kernel]
    exact guard?_renderClass "Onto" (wellNamed_self renderAll_cutTwice hlate)
  exact ⟨_, renderAll_cutTwice, earlyCut, hearly, lateCut, hlate, by decide, hguardEarly,
    hguardLate, readInTurn_pair hguardEarly hguardLate⟩

end OntoWrap.Qt
