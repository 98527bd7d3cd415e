import OntoWrap.Proofs.PlaceTables

/-!
# Look-ups against a scan

A store lists its statements by subject, predicate, object and graph (`Statement.Precedes`), and its
two tables part the places of this list: every place stands under one key, in ascending order
(`Places.Partitions`).  So a look-up that begins with a table finds what a scan of all statements
finds (`Store.lookups_eq_scan`).  The scan is said in terms of the statements alone (`Store.scan`);
the tables, and the way in that each look-up takes, do not occur in it.
-/
namespace OntoWrap

/-! ## 1. The order of statements -/

/-- A term comes before another: IRIs before blank nodes and these before literals, terms of one
kind by their texts, and literals with one text by their datatypes, one without a datatype first. -/
inductive Term.Precedes : Term → Term → Prop
  | iri {a b : String} : a < b → Precedes (.iri a) (.iri b)
  | iri_blank (a b : String) : Precedes (.iri a) (.blank b)
  | iri_literal (a b : String) (e : Option String) : Precedes (.iri a) (.literal b e)
  | blank {a b : String} : a < b → Precedes (.blank a) (.blank b)
  | blank_literal (a b : String) (e : Option String) : Precedes (.blank a) (.literal b e)
  | literal {a b : String} {d e : Option String} : a < b → Precedes (.literal a d) (.literal b e)
  | plain (a e : String) : Precedes (.literal a none) (.literal a (some e))
  | datatype {a d e : String} : d < e → Precedes (.literal a (some d)) (.literal a (some e))

/-- A statement comes before another: by subject, then by predicate, then by object; of two
statements that differ in their graphs only, one in no graph comes first. -/
inductive Statement.Precedes : Statement → Statement → Prop
  | subject {a b : Statement} : a.subject.Precedes b.subject → Precedes a b
  | predicate {a b : Statement} : a.subject = b.subject → a.predicate.Precedes b.predicate →
      Precedes a b
  | object {a b : Statement} : a.subject = b.subject → a.predicate = b.predicate →
      a.object.Precedes b.object → Precedes a b
  | noGraph (s p o g : Term) : Precedes ⟨s, p, o, none⟩ ⟨s, p, o, some g⟩
  | graph {s p o g g' : Term} : g.Precedes g' → Precedes ⟨s, p, o, some g⟩ ⟨s, p, o, some g'⟩

theorem compare_string_eq_lt_iff {a b : String} : compare a b = .lt ↔ a < b :=
  compareOfLessAndEq_eq_lt

/-- **The order of terms** compares kinds first, then texts, then datatypes. -/
theorem Term.compare_eq_lt_iff {a b : Term} : compare a b = .lt ↔ a.Precedes b := by
  have hparts : compare a b = (compare a.rank b.rank).then
      ((compare a.content b.content).then (compare a.datatype? b.datatype?)) := rfl
  have hnone : ∀ e : String, compare none (some e) = .lt := fun _ => rfl
  have hsome : ∀ d e : String, compare (some d) (some e) = .lt ↔ d < e := fun _ _ =>
    compare_string_eq_lt_iff
  rw [hparts, Ordering.then_eq_lt, Ordering.then_eq_lt, Nat.compare_eq_lt, compare_string_eq_lt_iff,
    Std.compare_eq_iff_eq, Std.compare_eq_iff_eq]
  constructor
  · intro h
    cases a with
    | iri a =>
      cases b with
      | iri b => exact .iri (by simpa [rank, content, datatype?] using h)
      | blank b => exact .iri_blank a b
      | literal b e => exact .iri_literal a b e
    | blank a =>
      cases b with
      | iri b => simp [rank] at h
      | blank b => exact .blank (by simpa [rank, content, datatype?] using h)
      | literal b e => exact .blank_literal a b e
    | literal a d =>
      cases b with
      | iri b => simp [rank] at h
      | blank b => simp [rank] at h
      | literal b e =>
        obtain hless | ⟨rfl, hdatatype⟩ : a < b ∨ a = b ∧ compare d e = .lt := by
          simpa [rank, content, datatype?] using h
        · exact .literal hless
        · cases d with
          | none =>
            cases e with
            | none => cases hdatatype
            | some e => exact .plain a e
          | some d =>
            cases e with
            | none => cases hdatatype
            | some e => exact .datatype ((hsome d e).mp hdatatype)
  · intro h
    cases h <;> simp_all [rank, content, datatype?]

/-- **The order of statements** compares subjects first, then predicates, objects and graphs. -/
theorem Statement.compare_eq_lt_iff {a b : Statement} : compare a b = .lt ↔ a.Precedes b := by
  have hparts : compare a b
      = (compare a.subject b.subject).then ((compare a.predicate b.predicate).then
        ((compare a.object b.object).then (compare a.graph b.graph))) := rfl
  have hgraphs : ∀ g g' : Term, compare (some g) (some g') = .lt ↔ g.Precedes g' := fun _ _ =>
    Term.compare_eq_lt_iff
  have hnone : ∀ g : Term, compare none (some g) = .lt := fun _ => rfl
  rw [hparts, Ordering.then_eq_lt, Ordering.then_eq_lt, Ordering.then_eq_lt, Std.compare_eq_iff_eq,
    Std.compare_eq_iff_eq, Std.compare_eq_iff_eq, Term.compare_eq_lt_iff, Term.compare_eq_lt_iff,
    Term.compare_eq_lt_iff]
  constructor
  · rintro (hs | ⟨hs, hp | ⟨hp, ho | ⟨ho, hg⟩⟩⟩)
    · exact .subject hs
    · exact .predicate hs hp
    · exact .object hs hp ho
    · obtain ⟨s, p, o, graph⟩ := a
      obtain ⟨s', p', o', graph'⟩ := b
      obtain ⟨rfl, rfl, rfl⟩ : s = s' ∧ p = p' ∧ o = o' := ⟨hs, hp, ho⟩
      cases graph with
      | none =>
        cases graph' with
        | none => cases hg
        | some g' => exact .noGraph s p o g'
      | some g =>
        cases graph' with
        | none => cases hg
        | some g' => exact .graph ((hgraphs g g').mp hg)
  · intro h
    cases h with
    | subject hs => exact .inl hs
    | predicate hs hp => exact .inr ⟨hs, .inl hp⟩
    | object hs hp ho => exact .inr ⟨hs, .inr ⟨hp, .inl ho⟩⟩
    | noGraph s p o g => exact .inr ⟨rfl, .inr ⟨rfl, .inr ⟨rfl, hnone g⟩⟩⟩
    | graph hg => exact .inr ⟨rfl, .inr ⟨rfl, .inr ⟨rfl, (hgraphs _ _).mpr hg⟩⟩⟩

/-! ## 2. What the tables hold -/

/-- **A table parts the places of some statements by the term in one position.**  Each place is in
one of its lists, once, and under the term that stands there. -/
structure Places.Partitions (position : Statement → Term) (statements : List Statement)
    (table : Places) : Prop where
  keys_ascend : table.Ascends
  all_places : (table.flatMap (·.2)).Perm (List.range statements.length)
  lists_ascend : ∀ entry ∈ table, entry.2.Pairwise (· < ·)
  lists_ne_nil : ∀ entry ∈ table, entry.2 ≠ []
  key_of_place : ∀ entry ∈ table, ∀ place ∈ entry.2,
    (statements[place]?).map position = some entry.1

theorem Places.partitions_ofStatements (position : Statement → Term) (statements : List Statement) :
    (ofStatements position statements).Partitions position statements := by
  have hkeys : (ofStatements position statements).Ascends :=
    Table.Ascends.addAll _ List.Pairwise.nil
  have hvalues : ∀ entry ∈ ofStatements position statements, entry.2 =
      (statements.zipIdx.filter fun numbered => position numbered.1 == entry.1).map (·.2) := by
    intro entry hentry
    rw [← Table.valuesOf_of_mem hkeys hentry]
    exact valuesOf_ofStatements position statements entry.1
  constructor
  · exact hkeys
  · have hplaces : ((ofStatements position statements).flatMap (·.2)).Perm
        ((statements.zipIdx.map fun numbered => (position numbered.1, numbered.2)).map (·.2)) :=
      Table.perm_values_addAll _
    rw [List.map_map] at hplaces
    rw [List.range_eq_range', ← List.zipIdx_map_snd]
    exact hplaces
  · intro entry hentry
    rw [hvalues entry hentry]
    refine List.Pairwise.sublist (List.filter_sublist.map _) ?_
    rw [List.zipIdx_map_snd]
    exact List.pairwise_lt_range'
  · exact Table.values_ne_nil_addAll _ (by simp)
  · intro entry hentry place hplace
    rw [hvalues entry hentry] at hplace
    obtain ⟨⟨st, place⟩, hnumbered, rfl⟩ := List.mem_map.mp hplace
    obtain ⟨hst, hkey⟩ := List.mem_filter.mp hnumbered
    rw [List.mem_zipIdx_iff_getElem?.mp hst, Option.map_some, eq_of_beq hkey]

/-! ## 3. Scans -/

/-- A list holds the members of another one, each once and in a strict order. -/
structure SortedFrom {α : Type} (before : α → α → Prop) (found given : List α) : Prop where
  ascends : found.Pairwise before
  mem_iff : ∀ a, a ∈ found ↔ a ∈ given

theorem sortedFrom_ascending {α : Type} [Ord α] [Std.TransOrd α] [Std.LawfulEqOrd α]
    {before : α → α → Prop} (hbefore : ∀ {a b}, compare a b = .lt ↔ before a b) (l : List α) :
    SortedFrom before (ascending l) l where
  ascends := (pairwise_ascending l).imp hbefore.mp
  mem_iff _ := mem_ascending

namespace Store

/-- The statements of a store with the given terms, in their order. -/
def scan (store : Store) (subject predicate object : Option Term) : List Statement :=
  store.toList.filter fun st => st.Has subject predicate object

variable {store : Store}

theorem matching_eq_scan (store : Store) (subject predicate object : Option Term) :
    store.matching subject predicate object = store.scan subject predicate object := by
  refine List.filter_congr fun st _ => ?_
  rw [Bool.eq_iff_iff, decide_eq_true_iff, has_iff_fits]

/-! ## 4. Look-ups that begin with a table -/

theorem matchingByPlace_eq (store : Store) (subject predicate object : Option Term) :
    store.matchingByPlace subject predicate object = store.matching subject predicate object :=
  filter_candidates store subject predicate object

theorem objectsByPlace_eq (store : Store) (subject predicate : String) :
    store.objectsByPlace subject predicate = store.objects subject predicate := by
  rw [objectsByPlace, statementsAt_eq_filter, List.filter_filter, objects, matching]
  have hfits : ∀ st : Statement, (st.predicate == .iri predicate && st.subject == .iri subject) =
      (fits (some (.iri subject)) st.subject && fits (some (.iri predicate)) st.predicate &&
        fits none st.object) := by
    intro st
    rw [fits_some, fits_some, fits, Option.all_none, Bool.and_true, Bool.and_comm]
  rw [List.filter_congr fun st _ => hfits st]

theorem subjectsByPlace_eq (store : Store) (predicate : String) (object : Term) :
    store.subjectsByPlace predicate object = store.subjects predicate object := by
  rw [subjectsByPlace, statementsAt_eq_filter, List.filter_filter, subjects, matching]
  have hfits : ∀ st : Statement, (st.object == object && st.predicate == .iri predicate) =
      (fits none st.subject && fits (some (.iri predicate)) st.predicate &&
        fits (some object) st.object) := by
    intro st
    rw [fits_some, fits_some, fits, Option.all_none, Bool.true_and, Bool.and_comm]
  rw [List.filter_congr fun st _ => hfits st]

theorem containsByPlace_eq (store : Store) (subject predicate : String) (object : Term) :
    store.containsByPlace subject predicate object = store.contains subject predicate object := by
  rw [Bool.eq_iff_iff, contains_iff_exists]
  simp only [containsByPlace, statementsAt_eq_filter, List.any_eq_true, List.mem_filter, matching,
    fits_some, Bool.and_eq_true, beq_iff_eq, Term.asIri?_eq_some_iff, and_assoc]

/-! ## 5. All look-ups -/

/-- **The store of some statements, by what a scan of it finds.** -/
structure ScansAs (statements : List Statement) (store : Store) : Prop where
  /-- The statements are listed once each, in their order. -/
  sorted : SortedFrom Statement.Precedes store.toList statements
  nodup : store.toList.Nodup
  /-- Both tables part the places of the list. -/
  subjects_parted : (store.places (·.subject)).Partitions (·.subject) store.toList
  predicates_parted : (store.places (·.predicate)).Partitions (·.predicate) store.toList
  /-- Statements are found as a scan finds them, in the same order. -/
  matching_eq : ∀ subject predicate object,
    store.matchingByPlace subject predicate object = store.scan subject predicate object
  /-- The other look-ups give the sorted projections of a scan, or tell whether it finds
  anything. -/
  objects_sorted : ∀ subject predicate,
    SortedFrom Term.Precedes (store.objectsByPlace subject predicate)
      ((store.scan (some (.iri subject)) (some (.iri predicate)) none).map (·.object))
  subjects_sorted : ∀ predicate object, SortedFrom (· < ·) (store.subjectsByPlace predicate object)
    ((store.scan none (some (.iri predicate)) (some object)).filterMap (·.subject.asIri?))
  contains_iff : ∀ subject predicate object, store.containsByPlace subject predicate object = true ↔
    ∃ st, st ∈ store.scan (some (.iri subject)) (some (.iri predicate)) (some object)
  /-- It makes no difference whether a look-up begins with a table. -/
  matching_alike : store.matching = store.matchingByPlace
  objects_alike : store.objects = store.objectsByPlace
  subjects_alike : store.subjects = store.subjectsByPlace
  contains_alike : store.contains = store.containsByPlace

/-- **Look-ups agree with a scan**, whatever terms the statements hold, however often they are
given, and with whatever tables a look-up begins. -/
theorem lookups_eq_scan (statements : List Statement) : (ofList statements).ScansAs statements where
  sorted := sortedFrom_ascending Statement.compare_eq_lt_iff statements
  nodup := nodup_ascending statements
  subjects_parted := Places.partitions_ofStatements _ _
  predicates_parted := Places.partitions_ofStatements _ _
  matching_eq subject predicate object := by
    rw [matchingByPlace_eq, matching_eq_scan]
  objects_sorted subject predicate := by
    rw [objectsByPlace_eq, objects, matching_eq_scan]
    exact sortedFrom_ascending Term.compare_eq_lt_iff _
  subjects_sorted predicate object := by
    rw [subjectsByPlace_eq, subjects, matching_eq_scan]
    exact sortedFrom_ascending compare_string_eq_lt_iff _
  contains_iff subject predicate object := by
    rw [containsByPlace_eq, contains_iff_exists, matching_eq_scan]
  matching_alike := by
    funext subject predicate object
    rw [matchingByPlace_eq]
  objects_alike := by
    funext subject predicate
    rw [objectsByPlace_eq]
  subjects_alike := by
    funext predicate object
    rw [subjectsByPlace_eq]
  contains_alike := by
    funext subject predicate object
    rw [containsByPlace_eq]

/-- What is made in no graph comes first, and what is repeated comes once. -/
example : (ofList [⟨.blank "b", .iri "x:p", .literal "1" none, some (.iri "x:g")⟩,
      ⟨.blank "b", .iri "x:p", .literal "1" none, none⟩, ⟨.iri "x:s", .iri "x:p", .blank "b", none⟩,
      ⟨.blank "b", .iri "x:p", .literal "1" none, none⟩]).toList
    = [⟨.iri "x:s", .iri "x:p", .blank "b", none⟩,
      ⟨.blank "b", .iri "x:p", .literal "1" none, none⟩,
      ⟨.blank "b", .iri "x:p", .literal "1" none, some (.iri "x:g")⟩] := by
  rw [toList_ofList]
  decide +kernel

end Store

end OntoWrap
