import OntoWrap.Ontology.AbbreviationTable
import OntoWrap.Proofs.IndexEntries
import OntoWrap.Proofs.PatternAnswers
import OntoWrap.Proofs.PlacedLookups

/-!
# Which abbreviation is chosen

Four sources may give a class or a property its abbreviation: the graphs that hold statements about
it, its namespace, its namespace without the delimiters at the end, and its own IRI.  `Chosen` says
which of them counts, in terms of the statements alone, and `Abbreviation.ofEntity` makes this
choice and no other (`ofEntity_eq_iff_chosen`).

The declarations of one IRI are compared as names (`Term.NoLater`).  Look-ups know nothing of that:
they take the first declaration that they come to.  That this is the least name is a fact about the
order of the store, and the same fact makes the tables right, in which the first declaration of an
IRI stays (`AbbreviationTables.ofEntity_ofStore`).
-/
namespace OntoWrap

open Vocabulary

/-! ## 1. The choice -/

/-- A name comes no later than another: IRIs before literals, and of one kind by their texts. -/
inductive Term.NoLater : Term → Term → Prop
  | iri {a b : String} : a ≤ b → NoLater (.iri a) (.iri b)
  | iri_literal (a b : String) (e : Option String) : NoLater (.iri a) (.literal b e)
  | literal {a b : String} (d e : Option String) : a ≤ b → NoLater (.literal a d) (.literal b e)

namespace Abbreviation

variable {store : Store} {iri graph text abbreviation : String}

/-- **The declared abbreviation of an IRI** is the least of the objects that some statement
declares, blank nodes apart. -/
def DeclaredAs (store : Store) (iri text : String) : Prop :=
  ∃ name, (States store.toList iri naoAbbreviation name ∧ name.text? = some text) ∧
    ∀ other, States store.toList iri naoAbbreviation other → other.text? ≠ none → name.NoLater other

/-- A named graph holds a statement about a subject. -/
def DescribedIn (store : Store) (iri graph : String) : Prop :=
  ∃ st ∈ store.toList, st.subject = .iri iri ∧ st.graph = some (.iri graph)

/-- A graph gives the abbreviation of an entity: it is the least of those about it that have one. -/
structure NamedByGraph (store : Store) (iri graph text : String) : Prop where
  described : DescribedIn store iri graph
  declared : DeclaredAs store graph text
  least : ∀ other, DescribedIn store iri other → (∃ name, DeclaredAs store other name) →
    graph ≤ other

/-- **The abbreviation of a class or property**, from the first source that has one. -/
inductive Chosen (store : Store) (iri : String) : String → Prop
  | graph {graph text : String} : NamedByGraph store iri graph text →
      Chosen store iri (Text.Case.lowerText text)
  | namespaceIri {text : String} : (¬ ∃ graph text, NamedByGraph store iri graph text) →
      DeclaredAs store (Iri.namespaceOf iri) text → Chosen store iri (Text.Case.lowerText text)
  | trimmed {text : String} : (¬ ∃ graph text, NamedByGraph store iri graph text) →
      (¬ ∃ text, DeclaredAs store (Iri.namespaceOf iri) text) →
      DeclaredAs store (Iri.trimNamespace (Iri.namespaceOf iri)) text →
      Chosen store iri (Text.Case.lowerText text)
  | ownSection : (¬ ∃ graph text, NamedByGraph store iri graph text) →
      (¬ ∃ text, DeclaredAs store (Iri.namespaceOf iri) text) →
      (¬ ∃ text, DeclaredAs store (Iri.trimNamespace (Iri.namespaceOf iri)) text) →
      Chosen store iri (Text.Case.lowerText (Iri.sectionName iri))

end Abbreviation

/-! ## 2. The first is the least -/

/-- What is found first in a list that ascends comes before all else that could be found. -/
theorem exists_least_of_findSome? {α β : Type} {before : α → α → Prop} {l : List α}
    {f : α → Option β} {b : β} (hascends : l.Pairwise before) (h : l.findSome? f = some b) :
    ∃ a ∈ l, f a = some b ∧ ∀ other ∈ l, f other ≠ none → a = other ∨ before a other := by
  obtain ⟨front, a, back, rfl, ha, hfront⟩ := List.findSome?_eq_some_iff.mp h
  refine ⟨a, by simp, ha, fun other hother hfound => ?_⟩
  rcases List.mem_append.mp hother with hother | hother
  · exact absurd (hfront other hother) hfound
  · rcases List.mem_cons.mp hother with rfl | hother
    · exact .inl rfl
    · exact .inr ((List.pairwise_cons.mp (List.pairwise_append.mp hascends).2.1).1 other hother)

/-- Of two names the one that precedes in the order of terms comes no later. -/
theorem Term.Precedes.noLater {a b : Term} (h : a.Precedes b) (ha : a.text? ≠ none)
    (hb : b.text? ≠ none) : a.NoLater b := by
  cases h with
  | iri hlt => exact .iri (Std.le_of_lt hlt)
  | iri_literal a b e => exact .iri_literal a b e
  | literal hlt => exact .literal _ _ (Std.le_of_lt hlt)
  | plain a e => exact .literal _ _ (String.le_refl a)
  | datatype _ => exact .literal _ _ (String.le_refl _)
  | iri_blank _ _ => exact absurd rfl hb
  | blank _ => exact absurd rfl ha
  | blank_literal _ _ _ => exact absurd rfl ha

theorem Term.noLater_self {a : Term} (h : a.text? ≠ none) : a.NoLater a := by
  cases a with
  | iri a => exact .iri (String.le_refl a)
  | blank _ => exact absurd rfl h
  | literal a _ => exact .literal _ _ (String.le_refl a)

/-- Names that come no later than each other have one text. -/
theorem Term.NoLater.text?_eq {a b : Term} (h : a.NoLater b) (h' : b.NoLater a) :
    a.text? = b.text? := by
  cases h with
  | iri hle =>
    cases h' with
    | iri hle' => exact congrArg some (String.le_antisymm hle hle')
  | iri_literal _ _ _ => cases h'
  | literal _ _ hle =>
    cases h' with
    | literal _ _ hle' => exact congrArg some (String.le_antisymm hle hle')

namespace Abbreviation

variable {store : Store} {iri graph text abbreviation : String}

/-! ## 3. Each source -/

theorem DeclaredAs.unique {text' : String} (h : DeclaredAs store iri text)
    (h' : DeclaredAs store iri text') : text = text' := by
  obtain ⟨name, ⟨hstates, htext⟩, hleast⟩ := h
  obtain ⟨name', ⟨hstates', htext'⟩, hleast'⟩ := h'
  have hsame :=
    (hleast name' hstates' (by simp [htext'])).text?_eq (hleast' name hstates (by simp [htext]))
  rwa [htext, htext', Option.some.injEq] at hsame

/-- Whatever finds a name when there is one, and then the least, finds the declared abbreviation. -/
theorem eq_some_iff_declaredAs {found : Option String}
    (hsome : ∀ abbreviation, found = some abbreviation →
      ∃ text, DeclaredAs store iri text ∧ Text.Case.lowerText text = abbreviation)
    (hnone : found = none → ∀ name, States store.toList iri naoAbbreviation name →
      name.text? = none) :
    found = some abbreviation ↔
      ∃ text, DeclaredAs store iri text ∧ Text.Case.lowerText text = abbreviation := by
  refine ⟨hsome abbreviation, ?_⟩
  rintro ⟨text, hdeclared, rfl⟩
  cases hfound : found with
  | none =>
    obtain ⟨name, ⟨hstates, htext⟩, -⟩ := hdeclared
    rw [hnone hfound name hstates] at htext
    cases htext
  | some other =>
    obtain ⟨text', hdeclared', rfl⟩ := hsome other hfound
    rw [hdeclared.unique hdeclared']

/-- **The first name among the objects is the declared abbreviation.** -/
theorem declared?_eq_some_iff : declared? store iri = some abbreviation ↔
    ∃ text, DeclaredAs store iri text ∧ Text.Case.lowerText text = abbreviation := by
  refine eq_some_iff_declaredAs (fun abbreviation h => ?_) fun h name hstates => ?_
  · obtain ⟨text, hfirst, rfl⟩ := Option.map_eq_some_iff.mp h
    obtain ⟨name, hname, htext, hleast⟩ :=
      exists_least_of_findSome? (store.pairwise_objects iri naoAbbreviation) hfirst
    refine ⟨text, ⟨name, ⟨Store.mem_objects.mp hname, htext⟩, fun other hother hnamed => ?_⟩, rfl⟩
    have hnamed' : name.text? ≠ none := by simp [htext]
    rcases hleast other (Store.mem_objects.mpr hother) hnamed with rfl | hbefore
    · exact Term.noLater_self hnamed
    · exact (Term.compare_eq_lt_iff.mp hbefore).noLater hnamed' hnamed
  · rw [declared?, Option.map_eq_none_iff] at h
    exact List.findSome?_eq_none_iff.mp h name (Store.mem_objects.mpr hstates)

theorem mem_graphsOf : graph ∈ graphsOf store iri ↔ DescribedIn store iri graph := by
  simp only [graphsOf, mem_ascending, List.mem_filterMap, Store.mem_matching, Statement.Has,
    Option.mem_some_iff, forall_eq', Option.bind_eq_some_iff, Term.asIri?_eq_some_iff, DescribedIn]
  constructor
  · rintro ⟨st, ⟨hst, hsubject, -⟩, _, hgraph, rfl⟩
    exact ⟨st, hst, hsubject, hgraph⟩
  · rintro ⟨st, hst, hsubject, hgraph⟩
    exact ⟨st, ⟨hst, hsubject, by simp⟩, _, hgraph, rfl⟩

theorem declared?_eq_none_iff :
    declared? store iri = none ↔ ¬ ∃ text, DeclaredAs store iri text := by
  rw [Option.eq_none_iff_forall_ne_some]
  simp only [ne_eq, declared?_eq_some_iff]
  constructor
  · rintro hnone ⟨text, hdeclared⟩
    exact hnone _ ⟨text, hdeclared, rfl⟩
  · rintro hnone _ ⟨text, hdeclared, -⟩
    exact hnone ⟨text, hdeclared⟩

theorem NamedByGraph.graph_eq {graph' text' : String} (h : NamedByGraph store iri graph text)
    (h' : NamedByGraph store iri graph' text') : graph = graph' :=
  String.le_antisymm (h.least graph' h'.described ⟨text', h'.declared⟩)
    (h'.least graph h.described ⟨text, h.declared⟩)

/-- **The first graph that has an abbreviation gives it.** -/
theorem findSome?_graphsOf_eq_some_iff :
    (graphsOf store iri).findSome? (declared? store) = some abbreviation ↔
      ∃ graph text, NamedByGraph store iri graph text ∧
        Text.Case.lowerText text = abbreviation := by
  have hnamed : ∀ {found}, (graphsOf store iri).findSome? (declared? store) = some found →
      ∃ graph text, NamedByGraph store iri graph text ∧ Text.Case.lowerText text = found := by
    intro found hfound
    obtain ⟨graph, hgraph, hfirst, hleast⟩ :=
      exists_least_of_findSome? (pairwise_ascending _) hfound
    obtain ⟨text, hdeclared, htext⟩ := declared?_eq_some_iff.mp hfirst
    refine ⟨graph, text, ⟨mem_graphsOf.mp hgraph, hdeclared, fun other hother hname => ?_⟩, htext⟩
    have hother' : declared? store other ≠ none := mt declared?_eq_none_iff.mp (not_not_intro hname)
    rcases hleast other (mem_graphsOf.mpr hother) hother' with rfl | hbefore
    · exact String.le_refl _
    · exact Std.le_of_lt (compare_string_eq_lt_iff.mp hbefore)
  refine ⟨hnamed, ?_⟩
  rintro ⟨graph, text, hgraph, rfl⟩
  cases hfound : (graphsOf store iri).findSome? (declared? store) with
  | none =>
    have hmissing := List.findSome?_eq_none_iff.mp hfound graph (mem_graphsOf.mpr hgraph.described)
    exact absurd ⟨text, hgraph.declared⟩ (declared?_eq_none_iff.mp hmissing)
  | some found =>
    obtain ⟨graph', text', hgraph', rfl⟩ := hnamed hfound
    obtain rfl := hgraph.graph_eq hgraph'
    rw [hgraph.declared.unique hgraph'.declared]

theorem findSome?_graphsOf_eq_none_iff : (graphsOf store iri).findSome? (declared? store) = none ↔
    ¬ ∃ graph text, NamedByGraph store iri graph text := by
  rw [Option.eq_none_iff_forall_ne_some]
  simp only [ne_eq, findSome?_graphsOf_eq_some_iff]
  constructor
  · rintro hnone ⟨graph, text, hnamed⟩
    exact hnone _ ⟨graph, text, hnamed, rfl⟩
  · rintro hnone _ ⟨graph, text, hnamed, -⟩
    exact hnone ⟨graph, text, hnamed⟩

/-! ## 4. The choice is made -/

/-- **An entity has the abbreviation that is chosen, and no other.** -/
theorem ofEntity_eq_iff_chosen :
    ofEntity store iri = abbreviation ↔ Chosen store iri abbreviation := by
  rw [ofEntity]
  constructor
  · rintro rfl
    cases hgraph : (graphsOf store iri).findSome? (declared? store) with
    | some _ =>
      obtain ⟨graph, text, hnamed, rfl⟩ := findSome?_graphsOf_eq_some_iff.mp hgraph
      exact .graph hnamed
    | none =>
      have hnograph := findSome?_graphsOf_eq_none_iff.mp hgraph
      cases hwhole : declared? store (Iri.namespaceOf iri) with
      | some _ =>
        obtain ⟨text, hdeclared, rfl⟩ := declared?_eq_some_iff.mp hwhole
        exact .namespaceIri hnograph hdeclared
      | none =>
        have hnowhole := declared?_eq_none_iff.mp hwhole
        cases htrimmed : declared? store (Iri.trimNamespace (Iri.namespaceOf iri)) with
        | some _ =>
          obtain ⟨text, hdeclared, rfl⟩ := declared?_eq_some_iff.mp htrimmed
          exact .trimmed hnograph hnowhole hdeclared
        | none => exact .ownSection hnograph hnowhole (declared?_eq_none_iff.mp htrimmed)
  · intro h
    cases h with
    | graph hnamed =>
      rw [findSome?_graphsOf_eq_some_iff.mpr ⟨_, _, hnamed, rfl⟩]
      rfl
    | namespaceIri hnograph hdeclared =>
      rw [findSome?_graphsOf_eq_none_iff.mpr hnograph,
        declared?_eq_some_iff.mpr ⟨_, hdeclared, rfl⟩]
      rfl
    | trimmed hnograph hnowhole hdeclared =>
      rw [findSome?_graphsOf_eq_none_iff.mpr hnograph, declared?_eq_none_iff.mpr hnowhole,
        declared?_eq_some_iff.mpr ⟨_, hdeclared, rfl⟩]
      rfl
    | ownSection hnograph hnowhole hnotrimmed =>
      rw [findSome?_graphsOf_eq_none_iff.mpr hnograph, declared?_eq_none_iff.mpr hnowhole,
        declared?_eq_none_iff.mpr hnotrimmed]
      rfl

end Abbreviation

/-! ## 5. The tables -/

/-- Members in which nothing is found may be left out. -/
theorem findSome?_filter {α β : Type} {f : α → Option β} {keep : α → Bool} {l : List α}
    (h : ∀ a ∈ l, keep a = false → f a = none) : (l.filter keep).findSome? f = l.findSome? f := by
  have hkept : ∀ a ∈ l, (if keep a then f a else none) = f a := by
    intro a ha
    split
    · rfl
    · rename_i hnot
      exact (h a ha (by simpa using hnot)).symm
  rw [← List.head?_filterMap, ← List.head?_filterMap, List.filterMap_filter,
    List.filterMap_congr hkept]

/-- What is found first is found first among first occurrences. -/
theorem findSome?_firsts {α β : Type} [DecidableEq α] (f : α → Option β) (l : List α) :
    (firsts l).findSome? f = l.findSome? f := by
  induction l with
  | nil => rfl
  | cons a rest ih =>
    rw [firsts, List.findSome?_cons, List.findSome?_cons]
    cases ha : f a with
    | some b => rfl
    | none =>
      refine (findSome?_filter fun b _ hb => ?_).trans ih
      obtain rfl : b = a := by simpa using hb
      exact ha

/-- Of statements with one subject and predicate, the one that comes first has the same object or
one that comes first. -/
theorem Statement.Precedes.object_eq_or {a b : Statement} (h : a.Precedes b)
    (hs : a.subject = b.subject) (hp : a.predicate = b.predicate) :
    a.object = b.object ∨ a.object.Precedes b.object := by
  have hirrefl : ∀ t : Term, ¬ t.Precedes t := by
    intro t ht
    rw [← Term.compare_eq_lt_iff, Std.ReflOrd.compare_self] at ht
    cases ht
  cases h with
  | subject hbefore =>
    rw [hs] at hbefore
    exact absurd hbefore (hirrefl _)
  | predicate _ hbefore =>
    rw [hp] at hbefore
    exact absurd hbefore (hirrefl _)
  | object _ _ hbefore => exact .inr hbefore
  | noGraph _ _ _ _ => exact .inl rfl
  | graph _ => exact .inl rfl

namespace AbbreviationTables

variable {store : Store} {iri : String}

/-- The table keeps what it has and takes what is new. -/
theorem lookup_declare (declared : List (String × String)) (answer : Bindings) (iri : String) :
    (declare declared answer).lookup iri =
      (declared.lookup iri).or ((declaration? answer).toList.lookup iri) := by
  unfold declare
  cases declaration? answer with
  | none => simp
  | some declaration =>
    obtain ⟨key, abbreviation⟩ := declaration
    cases hknown : declared.lookup key with
    | none =>
      simp only [hknown, List.lookup_append, Option.toList_some]
    | some known =>
      by_cases hiri : iri = key
      · simp [hiri, hknown]
      · simp [hknown, List.lookup_cons, beq_false_of_ne hiri]

/-- **The first declaration of an IRI stays.** -/
theorem lookup_foldl_declare (declared : List (String × String)) (answers : List Bindings)
    (iri : String) : (answers.foldl declare declared).lookup iri =
      (declared.lookup iri).or ((answers.filterMap declaration?).lookup iri) := by
  induction answers generalizing declared with
  | nil => simp
  | cons answer rest ih =>
    rw [List.foldl_cons, ih, lookup_declare, List.filterMap_cons, Option.or_assoc]
    cases declaration? answer with
    | none => simp
    | some declaration =>
      rw [Option.toList_some, ← List.lookup_append]
      rfl

/-- The abbreviation that a statement declares for an IRI, if it is a declaration. -/
def declaredFor? (iri : String) (st : Statement) : Option String :=
  if st.subject = .iri iri then st.object.text?.map Text.Case.lowerText else none

/-- An answer for an IRI gives what its statement declares. -/
theorem declaredFor?_eq (iri : String) (st : Statement) :
    (declaration? [("g", st.subject), ("ns", st.object)]).bind
        (fun declaration => if iri == declaration.1 then some declaration.2 else none) =
      declaredFor? iri st := by
  unfold declaration? declaredFor?
  cases hs : st.subject with
  | iri key =>
    cases st.object <;> simp [List.lookup_cons, Term.asIri?, Term.text?, @eq_comm _ iri]
  | blank _ => simp [List.lookup_cons, Term.asIri?]
  | literal _ _ => simp [List.lookup_cons, Term.asIri?]

/-- **The table holds for each IRI what the first declaration of it says**, in the order of the
store. -/
theorem declared?_ofStore (store : Store) (iri : String) : (ofStore store).declared? iri =
    (store.matching none (some (.iri naoAbbreviation)) none).findSome? (declaredFor? iri) := by
  have hquery : store.query declarations =
      firsts ((store.matching none (some (.iri naoAbbreviation)) none).map fun st =>
        [("g", st.subject), ("ns", st.object)]) := by
    rw [← List.filterMap_eq_map]
    rfl
  rw [declared?, ofStore, lookup_foldl_declare, List.lookup_nil, Option.none_or,
    List.lookup_eq_findSome?, ← List.head?_filterMap, List.filterMap_filterMap,
    List.head?_filterMap, hquery, findSome?_firsts, List.findSome?_map]
  exact congrArg (fun f => List.findSome? f _) (funext (declaredFor?_eq iri))

/-- **The first declaration is the least name**, because the store lists declarations in the order
of their objects. -/
theorem declared?_eq (store : Store) (iri : String) :
    (ofStore store).declared? iri = Abbreviation.declared? store iri := by
  have hmatching : ∀ st, st ∈ store.matching none (some (.iri naoAbbreviation)) none ↔
      st ∈ store.toList ∧ st.predicate = .iri naoAbbreviation := by
    simp [Store.mem_matching, Statement.Has]
  have hascends : (store.matching none (some (.iri naoAbbreviation)) none).Pairwise
      Statement.Precedes := by
    refine (store.statements.ascends.filter _).imp fun hlt => ?_
    exact Statement.compare_eq_lt_iff.mp hlt
  refine Option.ext fun abbreviation => ?_
  rw [Abbreviation.declared?_eq_some_iff]
  refine Abbreviation.eq_some_iff_declaredAs (fun abbreviation h => ?_) ?_
  · rw [declared?_ofStore] at h
    obtain ⟨⟨subject, predicate, name, graph⟩, hst, hfound, hleast⟩ :=
      exists_least_of_findSome? hascends h
    obtain ⟨hst, rfl⟩ := (hmatching _).mp hst
    obtain ⟨rfl, hname⟩ := Option.ite_none_right_eq_some.mp hfound
    obtain ⟨text, htext, rfl⟩ := Option.map_eq_some_iff.mp hname
    refine ⟨text, ⟨name, ⟨⟨graph, hst⟩, htext⟩, ?_⟩, rfl⟩
    rintro other ⟨graph', hother⟩ hnamed
    have hnamed' : name.text? ≠ none := by simp [htext]
    rcases hleast _ ((hmatching _).mpr ⟨hother, rfl⟩) (by simpa [declaredFor?] using hnamed) with
      heq | hbefore
    · obtain rfl : name = other := congrArg Statement.object heq
      exact Term.noLater_self hnamed
    · rcases hbefore.object_eq_or rfl rfl with heq | hbefore
      · obtain rfl : name = other := heq
        exact Term.noLater_self hnamed
      · exact hbefore.noLater hnamed' hnamed
  · rintro h name ⟨graph, hst⟩
    rw [declared?_ofStore] at h
    simpa [declaredFor?] using List.findSome?_eq_none_iff.mp h _ ((hmatching _).mpr ⟨hst, rfl⟩)

theorem placement?_eq_some_iff {st : Statement} {subject graph : String} :
    placement? st = some (subject, graph) ↔
      st.subject = .iri subject ∧ st.graph = some (.iri graph) := by
  simp [placement?, Option.bind_eq_some_iff, Term.asIri?_eq_some_iff]

theorem graphsOf_eq (store : Store) (iri : String) :
    (ofStore store).graphsOf iri = Abbreviation.graphsOf store iri := by
  refine Ascending.eq_of_mem_iff (pairwise_ascending _) (pairwise_ascending _) fun graph => ?_
  rw [Abbreviation.mem_graphsOf, graphsOf, mem_ascending, ofStore, Table.valuesOf_addAll_nil,
    List.mem_map]
  simp only [List.mem_filter, List.mem_filterMap, beq_iff_eq]
  constructor
  · rintro ⟨⟨subject, graph⟩, ⟨⟨st, hst, hplaced⟩, rfl⟩, rfl⟩
    exact ⟨st, hst, placement?_eq_some_iff.mp hplaced⟩
  · rintro ⟨st, hst, hplaced⟩
    exact ⟨(iri, graph), ⟨⟨st, hst, placement?_eq_some_iff.mpr hplaced⟩, rfl⟩, rfl⟩

/-- **The tables give every entity the abbreviation that a scan gives it.** -/
theorem ofEntity_ofStore (store : Store) (iri : String) :
    (ofStore store).ofEntity iri = Abbreviation.ofEntity store iri := by
  rw [ofEntity, Abbreviation.ofEntity, graphsOf_eq, funext (declared?_eq store)]

end AbbreviationTables

/-! ## 6. Classes and properties -/

/-- **The abbreviation of every class and property of an index is the one that is chosen**, and it
is what looking it up in the tables gives. -/
theorem Index.abbreviation_eq_iff_chosen (store : Store) (abbreviation : String) :
    (∀ c ∈ (ofStore store).classes,
      (c.abbreviation = abbreviation ↔ Abbreviation.Chosen store c.iri abbreviation) ∧
        (AbbreviationTables.ofStore store).ofEntity c.iri = c.abbreviation) ∧
    ∀ p ∈ (ofStore store).properties,
      (p.abbreviation = abbreviation ↔ Abbreviation.Chosen store p.iri abbreviation) ∧
        (AbbreviationTables.ofStore store).ofEntity p.iri = p.abbreviation := by
  constructor
  · intro c hc
    have hentity : c.abbreviation = Abbreviation.ofEntity store c.iri :=
      congrArg ClassInfo.abbreviation (mem_classes_ofStore.mp hc).2
    rw [hentity, AbbreviationTables.ofEntity_ofStore]
    exact ⟨Abbreviation.ofEntity_eq_iff_chosen, rfl⟩
  · intro p hp
    obtain ⟨range, -, hinfo⟩ := Option.map_eq_some_iff.mp (mem_properties_ofStore.mp hp).2
    have hentity : p.abbreviation = Abbreviation.ofEntity store p.iri :=
      congrArg PropertyInfo.abbreviation hinfo.symm
    rw [hentity, AbbreviationTables.ofEntity_ofStore]
    exact ⟨Abbreviation.ofEntity_eq_iff_chosen, rfl⟩

/-- Entities with an abbreviation from each of the four sources: a graph (the first about the entity
declares a blank node only), the namespace, the namespace without its delimiters, and the IRI
itself. -/
def fourSources : Store := .ofList [
  ⟨.iri "x:cats#Cat", .iri rdfType, .iri rdfsClass, some (.iri "x:g1")⟩,
  ⟨.iri "x:cats#Cat", .iri rdfType, .iri rdfsClass, some (.iri "x:g2")⟩,
  ⟨.iri "x:cats#Cat", .iri rdfType, .iri rdfsClass, some (.iri "x:g3")⟩,
  ⟨.iri "x:dogs/", .iri naoAbbreviation, .literal "Dogs" none, none⟩,
  ⟨.iri "x:dogs/Dog", .iri rdfType, .iri rdfsClass, none⟩,
  ⟨.iri "x:fish#Eel", .iri rdfType, .iri owlClass, some (.iri "x:g1")⟩,
  ⟨.iri "x:g1", .iri naoAbbreviation, .blank "b", none⟩,
  ⟨.iri "x:g2", .iri naoAbbreviation, .literal "Beasts" (some xsdString), some (.iri "x:g3")⟩,
  ⟨.iri "x:g2", .iri naoAbbreviation, .literal "Cats" none, none⟩,
  ⟨.iri "x:g3", .iri naoAbbreviation, .literal "A" none, none⟩,
  ⟨.iri "x:parts", .iri naoAbbreviation, .literal "Body" none, none⟩,
  ⟨.iri "x:parts##tail", .iri rdfType, .iri rdfProperty, some (.blank "b")⟩,
  ⟨.iri "x:parts##tail", .iri rdfsRange, .iri xsdString, none⟩]

theorem ofStore_fourSources : Index.ofStore fourSources =
    { classes := [⟨"x:cats#Cat", "Cat", none, "beasts", []⟩,
        ⟨"x:dogs/Dog", "Dog", none, "dogs", []⟩, ⟨"x:fish#Eel", "Eel", none, "fish", []⟩]
      properties := [⟨"x:parts##tail", [], xsdString, .unbounded, none, "body"⟩] } :=
  (Index.inserted.property _).trans (by decide +kernel)

theorem Index.abbreviation_eq_iff_chosen_fourSources :
    (∀ entity ∈ [("x:cats#Cat", "beasts"), ("x:dogs/Dog", "dogs"), ("x:fish#Eel", "fish")],
      entity.1 ∈ (ofStore fourSources).classes.map (·.iri) ∧
        Abbreviation.Chosen fourSources entity.1 entity.2 ∧
        (AbbreviationTables.ofStore fourSources).ofEntity entity.1 = entity.2) ∧
    "x:parts##tail" ∈ (ofStore fourSources).properties.map (·.iri) ∧
      Abbreviation.Chosen fourSources "x:parts##tail" "body" ∧
      (AbbreviationTables.ofStore fourSources).ofEntity "x:parts##tail" = "body" := by
  constructor
  · intro entity hentity
    obtain ⟨c, hc, hiri, habbreviation⟩ : ∃ c ∈ (ofStore fourSources).classes,
        c.iri = entity.1 ∧ c.abbreviation = entity.2 := by
      rw [ofStore_fourSources]
      revert entity
      decide
    obtain ⟨hchosen, htables⟩ := (abbreviation_eq_iff_chosen fourSources entity.2).1 c hc
    rw [hiri] at hchosen htables
    exact ⟨List.mem_map.mpr ⟨c, hc, hiri⟩, hchosen.mp habbreviation, htables.trans habbreviation⟩
  · obtain ⟨p, hp, hiri, habbreviation⟩ : ∃ p ∈ (ofStore fourSources).properties,
        p.iri = "x:parts##tail" ∧ p.abbreviation = "body" := by
      rw [ofStore_fourSources]
      decide
    obtain ⟨hchosen, htables⟩ := (abbreviation_eq_iff_chosen fourSources "body").2 p hp
    rw [hiri] at hchosen htables
    exact ⟨List.mem_map.mpr ⟨p, hp, hiri⟩, hchosen.mp habbreviation, htables.trans habbreviation⟩

end OntoWrap
