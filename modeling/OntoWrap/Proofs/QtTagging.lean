import Mathlib.Data.Set.Insert
import OntoWrap.Proofs.QtInitializers

/-!
# Which types the constructors of a Qt class add

The constructors and the virtual bases of a class are read from the lines of its file
(`constructorsOf`, `virtualBases?`), and the constructors are run by the rules for virtual bases
(`Makes`): the constructor of the most derived class initializes every virtual base, by the
constructor that it names for the base, or else by the default constructor; the initializers of the
bases themselves are passed over.  A constructor names all ancestors of its class, so no base is
left to its default constructor, and the type that is passed to all of them is the only one that is
added (`constructors_add_type`).
-/
namespace OntoWrap.Qt

open Naming Text Text.Source

/-! ## 1. Reading constructors -/

/-- A constructor as the lines of a class give it. -/
structure Emitted where
  isPublic : Bool
  parameters : String
  initializers : Option String
  body : List String
  deriving DecidableEq, Repr

/-- The constructor that begins on a line.  Its body is opened on this line, or on the next one,
behind the initializers. -/
def emitted? (name : String) (isPublic : Bool) (line : String) (rest : List String) :
    Option Emitted :=
  (afterText? (name ++ "(").toList line.toList).bind fun cs =>
    let parameters := String.ofList (cs.takeWhile (· != ')'))
    let after := String.ofList (cs.dropWhile (· != ')'))
    if after = ") \x7b" then some ⟨isPublic, parameters, none, bodyOf rest⟩
    else if after = ")" then
      (rest.head?.bind (between? "  : " " \x7b")).map fun initializers =>
        ⟨isPublic, parameters, some initializers, bodyOf rest.tail⟩
    else none

/-- The constructors among the lines of a class. -/
def constructorsIn (name : String) (isPublic : Bool) : List String → List Emitted
  | [] => []
  | line :: rest =>
    if line = "public:" then constructorsIn name true rest
    else if line = "protected:" then constructorsIn name false rest
    else (emitted? name isPublic line rest).toList ++ constructorsIn name isPublic rest

/-- The constructors of a class. -/
def constructorsOf (unit : ClassUnit) : List Emitted :=
  constructorsIn unit.self.name false ((members unit).map outdent)

/-- The first character of a line that belongs in no identifier. -/
def firstOther (line : String) : Option Char := (line.toList.dropWhile isIdentifierChar).head?

/-- Lines that neither begin a constructor nor say which members are public. -/
def Ordinary (line : String) : Prop := firstOther line ≠ some '(' ∧ firstOther line ≠ some ':'

theorem firstOther_append {s t : String} {c : Char} (h : firstOther s = some c) :
    firstOther (s ++ t) = some c := by
  obtain ⟨rest, hrest⟩ := List.head?_eq_some_iff.mp h
  rw [firstOther, String.toList_append, List.dropWhile_append, hrest]
  rfl

theorem ordinary_of_firstOther {line : String} {c : Char} (h : firstOther line = some c)
    (hc : c ≠ '(' ∧ c ≠ ':') : Ordinary line := by
  rw [Ordinary, h]
  simpa using hc

theorem firstOther_identifier {s t : String} (h : IdentifierText s) :
    firstOther (s ++ t) = firstOther t := by
  rw [firstOther, String.toList_append, List.dropWhile_append_of_pos h]
  rfl

variable {name : String} {isPublic : Bool}

theorem constructorsIn_cons (hname : IdentifierText name) {line : String} (h : Ordinary line)
    (m : List String) :
    constructorsIn name isPublic (line :: m) = constructorsIn name isPublic m := by
  have hpublic : line ≠ "public:" := by
    rintro rfl
    exact h.2 (by decide)
  have hprotected : line ≠ "protected:" := by
    rintro rfl
    exact h.2 (by decide)
  have hread : afterText? (name ++ "(").toList line.toList = none := by
    refine Option.eq_none_iff_forall_ne_some.mpr fun rest hrest => h.1 ?_
    rw [firstOther, afterText?_eq_some_iff.mp hrest, String.toList_append, List.append_assoc,
      List.dropWhile_append_of_pos hname]
    rfl
  rw [constructorsIn, if_neg hpublic, if_neg hprotected, emitted?, hread]
  rfl

theorem constructorsIn_append (hname : IdentifierText name) {l : List String}
    (h : ∀ line ∈ l, Ordinary line) (m : List String) :
    constructorsIn name isPublic (l ++ m) = constructorsIn name isPublic m := by
  induction l with
  | nil => rfl
  | cons line l ih =>
    rw [List.cons_append, constructorsIn_cons hname (h line List.mem_cons_self),
      ih fun other hother => h other (List.mem_cons_of_mem _ hother)]

theorem ordinary_indent (body : List String) : ∀ line ∈ indent body, Ordinary line := by
  intro line hline
  obtain ⟨inner, -, rfl⟩ := List.mem_map.mp hline
  split
  · rename_i hempty
    rw [String.isEmpty_iff.mp hempty]
    exact ⟨by decide, by decide⟩
  · exact ordinary_of_firstOther (firstOther_append (c := ' ') (by decide)) (by decide)

theorem ordinary_block {head : String} (h : Ordinary (head ++ " \x7b")) (body : List String) :
    ∀ line ∈ block head body, Ordinary line := by
  intro line hline
  rcases List.mem_cons.mp hline with rfl | hline
  · exact h
  · rcases List.mem_append.mp hline with hbody | hclose
    · exact ordinary_indent body line hbody
    · rw [List.mem_singleton.mp hclose]
      exact ⟨by decide, by decide⟩

theorem ordinary_blockComment (text : String) : ∀ line ∈ blockComment text, Ordinary line := by
  have hlead : ∀ inner, Ordinary (" * " ++ inner) := fun inner =>
    ordinary_of_firstOther (firstOther_append (c := ' ') (by decide)) (by decide)
  have hclosed : ∀ line ∈ ["/**", " *", " */"], Ordinary line := by
    unfold Ordinary
    decide
  intro line hline
  rcases List.mem_append.mp hline with hline | hline
  · rcases List.mem_append.mp hline with hline | hline
    · exact hclosed line (List.mem_append_left _ hline)
    · split at hline
      · rw [List.mem_singleton.mp hline]
        exact hclosed _ (by simp)
      · obtain ⟨inner, -, rfl⟩ := List.mem_map.mp hline
        exact hlead inner
  · rw [List.mem_singleton.mp hline]
    exact hclosed _ (by simp)

/-- A method of a property begins with the type of its result. -/
theorem ordinary_accessorMethods (a : Accessor) : ∀ line ∈ accessorMethods a, Ordinary line := by
  have hempty : Ordinary "" := ⟨by decide, by decide⟩
  have hvoid : ∀ rest, Ordinary ("void " ++ rest) := fun rest =>
    ordinary_of_firstOther (firstOther_append (c := ' ') (by decide)) (by decide)
  have htype : ∀ rest, Ordinary (valueTypeName a.valueType ++ " " ++ rest) := by
    have hspace : ∀ t, firstOther (scalarName t ++ " ") = some ' ' := by
      intro t
      cases t <;> decide
    intro rest
    cases a.valueType with
    | scalar t => exact ordinary_of_firstOther (firstOther_append (hspace t)) (by decide)
    | list t =>
      have hbracket : firstOther "QList<" = some '<' := by decide
      refine ordinary_of_firstOther (c := '<') ?_ (by decide)
      exact firstOther_append (firstOther_append (firstOther_append (firstOther_append hbracket)))
    | stringList =>
      exact ordinary_of_firstOther (firstOther_append (c := ' ') (by decide)) (by decide)
  have hgetter : ∀ line ∈ getter a, Ordinary line := by
    refine ordinary_block ?_ _
    simpa only [String.append_assoc] using htype (a.names.getter ++ ("() const" ++ " \x7b"))
  have hsetter : ∀ line ∈ setter a, Ordinary line := by
    refine ordinary_block ?_ _
    simp only [String.append_assoc]
    exact hvoid _
  have hadder : ∀ line ∈ adder a, Ordinary line := by
    refine ordinary_block ?_ _
    simp only [String.append_assoc]
    exact hvoid _
  have hcomment : ∀ action, ∀ line ∈ accessorComment action a, Ordinary line :=
    fun action => ordinary_blockComment _
  simp only [accessorMethods, List.mem_append, List.mem_singleton, or_imp, forall_and, forall_eq]
  exact ⟨⟨⟨⟨⟨⟨⟨⟨hempty, hcomment _⟩, hgetter⟩, hempty⟩, hcomment _⟩, hsetter⟩, hempty⟩, hcomment _⟩,
    hadder⟩

theorem ordinary_assignment {unit : ClassUnit} (hname : IdentifierText unit.self.name) :
    ∀ line ∈ assignment unit, Ordinary line := by
  refine ordinary_block ?_ _
  rw [String.append_assoc]
  refine ordinary_of_firstOther (c := '&') ?_ (by decide)
  rw [firstOther_identifier hname]
  exact firstOther_append (by decide)

/-! ## 2. The constructors of a class -/

/-- What is read of a constructor. -/
def Constructor.emitted (unit : ClassUnit) (k : Constructor) (isPublic : Bool) : Emitted where
  isPublic := isPublic
  parameters := k.parameters
  initializers := if k.tags && !k.copies then none else some (k.initializers unit)
  body := if k.tags then ["addType(" ++ k.type.text unit ++ ");"] else []

/-- The head of a constructor is read up to the end of its parameters. -/
theorem emitted?_head {parameters : String} (hparameters : ')' ∉ parameters.toList) (after : String)
    (rest : List String) :
    emitted? name isPublic (name ++ "(" ++ parameters ++ ")" ++ after) rest
      = if ")" ++ after = ") \x7b" then some ⟨isPublic, parameters, none, bodyOf rest⟩
        else if ")" ++ after = ")" then
          (rest.head?.bind (between? "  : " " \x7b")).map fun initializers =>
            ⟨isPublic, parameters, some initializers, bodyOf rest.tail⟩
        else none := by
  have hopen : ∀ c ∈ parameters.toList, (c != ')') = true := by
    intro c hc
    rw [bne_iff_ne]
    rintro rfl
    exact hparameters hc
  have hread : afterText? (name ++ "(").toList (name ++ "(" ++ parameters ++ ")" ++ after).toList
      = some (parameters.toList ++ ')' :: after.toList) :=
    afterText?_eq_some_iff.mpr (by simp)
  have hclose : String.ofList (')' :: after.toList) = ")" ++ after :=
    String.toList_injective (by simp)
  rw [emitted?, hread, Option.bind_some, List.takeWhile_append_of_pos hopen,
    List.dropWhile_append_of_pos hopen, List.takeWhile_cons_of_neg (by simp),
    List.dropWhile_cons_of_neg (by simp), List.append_nil, String.ofList_toList, hclose]

/-- A line that begins a constructor is read as one. -/
theorem constructorsIn_head {line : String} {rest : List String} {k : Emitted}
    (hother : firstOther line = some '(') (hread : emitted? name isPublic line rest = some k) :
    constructorsIn name isPublic (line :: rest) = k :: constructorsIn name isPublic rest := by
  have hpublic : line ≠ "public:" := by
    rintro rfl
    exact absurd hother (by decide)
  have hprotected : line ≠ "protected:" := by
    rintro rfl
    exact absurd hother (by decide)
  rw [constructorsIn, if_neg hpublic, if_neg hprotected, hread]
  rfl

theorem notMem_parameters (k : Constructor) : ')' ∉ k.parameters.toList := by
  have hall : ∀ copies, ∀ type ∈ [TypeArgument.own, .passed],
      ')' ∉ (Constructor.mk copies type [] false).parameters.toList := by decide
  have htype : k.type ∈ [TypeArgument.own, .passed] := by cases k.type <;> simp
  exact hall k.copies k.type htype

/-- **A constructor is read as it was written.** -/
theorem constructorsIn_lines {unit : ClassUnit} (hname : IdentifierText unit.self.name)
    (k : Constructor) (m : List String) :
    constructorsIn unit.self.name isPublic (k.lines unit ++ m)
      = k.emitted unit isPublic :: constructorsIn unit.self.name isPublic m := by
  have hparameters := notMem_parameters k
  have hclose : Ordinary "\x7d" := ⟨by decide, by decide⟩
  have hbody : ∀ body : List String,
      constructorsIn unit.self.name isPublic (indent body ++ "\x7d" :: m)
        = constructorsIn unit.self.name isPublic m := by
    intro body
    rw [constructorsIn_append hname (ordinary_indent body), constructorsIn_cons hname hclose]
  have hblock : ∀ head body, block head body ++ m
      = (head ++ " \x7b") :: (indent body ++ "\x7d" :: m) := by
    intro head body
    simp [block]
  have hhead : firstOther (unit.self.name ++ "(" ++ k.parameters ++ ")") = some '(' := by
    refine firstOther_append (firstOther_append ?_)
    rw [firstOther_identifier hname]
    decide
  rw [Constructor.lines]
  split
  · rename_i hopen
    have hread : ∀ rest, emitted? unit.self.name isPublic
        (unit.self.name ++ "(" ++ k.parameters ++ ")" ++ " \x7b") rest
          = some ⟨isPublic, k.parameters, none, bodyOf rest⟩ := fun rest =>
      (emitted?_head hparameters _ rest).trans (if_pos (by decide))
    rw [hblock, constructorsIn_head (firstOther_append hhead) (hread _), hbody, bodyOf_indent,
      Constructor.emitted, if_pos hopen]
  · rename_i hopen
    have hline : unit.self.name ++ "(" ++ k.parameters ++ ")"
        = unit.self.name ++ "(" ++ k.parameters ++ ")" ++ "" := String.append_empty.symm
    have hread : ∀ text rest, emitted? unit.self.name isPublic
        (unit.self.name ++ "(" ++ k.parameters ++ ")") (("  : " ++ text ++ " \x7b") :: rest)
          = some ⟨isPublic, k.parameters, some text, bodyOf rest⟩ := by
      intro text rest
      have htext : between? "  : " " \x7b" ("  : " ++ text ++ " \x7b") = some text :=
        between?_eq_some_iff.mpr rfl
      rw [hline, emitted?_head hparameters, if_neg (by decide), if_pos (by decide), List.head?_cons,
        Option.bind_some, htext, Option.map_some, List.tail_cons]
    have hinitializers : ∀ text, Ordinary ("  : " ++ text ++ " \x7b") := fun text =>
      ordinary_of_firstOther (firstOther_append (firstOther_append (c := ' ') (by decide)))
        (by decide)
    rw [List.cons_append, hblock, constructorsIn_head hhead (hread _ _),
      constructorsIn_cons hname (hinitializers _), hbody, bodyOf_indent, Constructor.emitted,
      if_neg hopen]

/-- **A class has four constructors**, two of them public. -/
theorem constructorsOf_eq {unit : ClassUnit} (hname : IdentifierText unit.self.name) :
    constructorsOf unit = [
      (constructor unit false .own).emitted unit true,
      (constructor unit true .own).emitted unit true,
      (constructor unit false .passed).emitted unit false,
      (constructor unit true .passed).emitted unit false] := by
  have hempty : ∀ {isPublic} m, constructorsIn unit.self.name isPublic ("" :: m)
      = constructorsIn unit.self.name isPublic m :=
    constructorsIn_cons hname ⟨by decide, by decide⟩
  have hpublic : outdent "public:" = "public:" := by decide
  have hprotected : outdent "protected:" = "protected:" := by decide
  have haccessors : ∀ line ∈ unit.accessors.flatMap accessorMethods, Ordinary line := by
    intro line hline
    obtain ⟨a, -, hline⟩ := List.mem_flatMap.mp hline
    exact ordinary_accessorMethods a line hline
  rw [constructorsOf, members]
  simp only [List.map_append, map_outdent_indent, List.map_cons, hpublic, hprotected,
    List.append_assoc, List.cons_append, List.nil_append]
  rw [constructorsIn, if_pos rfl, constructorsIn_lines hname, hempty, constructorsIn_lines hname,
    hempty, constructorsIn_append hname (ordinary_assignment hname),
    constructorsIn_append hname haccessors, hempty, constructorsIn, if_neg (by decide), if_pos rfl,
    constructorsIn_lines hname, ← List.append_nil ((constructor unit true .passed).lines unit),
    constructorsIn_lines hname, constructorsIn]

/-! ## 3. Reading bases -/

/-- The virtual bases that the lines of a file give to a class, in order. -/
def virtualBases? (name : String) (lines : List String) : Option (List String) :=
  (lines.findSome? (between? ("class " ++ name ++ " : ") "")).bind fun text =>
    (listed text).mapM (between? "public virtual " "")

theorem item_virtualBase {r : ClassRef} (h : r.WellNamed) :
    Item ("public virtual " ++ qualified r) := by
  have hplain : ',' ∉ (qualified r).toList := by
    intro hcomma
    have hother : ¬ (isIdentifierChar ',' = true ∨ ',' = ':') := by decide
    exact hother (plain_qualified h ',' hcomma)
  exact ⟨by simp [hplain], by simp⟩

theorem head?_blockComment (text : String) :
    ∀ line ∈ blockComment text, line.toList.head? ≠ some 'c' := by
  simp only [blockComment, List.forall_mem_append, List.forall_mem_singleton]
  refine ⟨⟨by simp, ?_⟩, by simp⟩
  split
  · simp
  · rw [List.forall_mem_map]
    simp

theorem head?_parentIncludes (unit : ClassUnit) :
    ∀ line ∈ parentIncludes unit, line.toList.head? ≠ some 'c' := by
  unfold parentIncludes
  split
  · simp
  · rw [List.forall_mem_append, List.forall_mem_map]
    simp

/-- **The bases of a class are read as they were written**: they are its parents, in their order. -/
theorem virtualBases?_classLines {outer : String} {unit : ClassUnit}
    (hlevel : unit.isRootLevel = false) (h : ∀ p ∈ unit.parents, p.WellNamed) :
    virtualBases? unit.self.name (classLines outer unit) = some (unit.parents.map qualified) := by
  have hskip : ∀ l : List String, (∀ line ∈ l, line.toList.head? ≠ some 'c') →
      ∀ m, (l ++ m).findSome? (between? ("class " ++ unit.self.name ++ " : ") "")
        = m.findSome? (between? ("class " ++ unit.self.name ++ " : ") "") := by
    intro l hl m
    have hnone : l.findSome? (between? ("class " ++ unit.self.name ++ " : ") "") = none :=
      List.findSome?_eq_none_iff.mpr fun line hline =>
        between?_eq_none (afterText?_eq_none_of_head? (by simp) (hl line hline))
    rw [List.findSome?_append, hnone, Option.none_or]
  have hlibrary : ∀ line ∈ libraryHeaders.map fun header => "#include <QtCore/" ++ header ++ ">",
      line.toList.head? ≠ some 'c' := by decide
  have hbases : (bases outer unit).map ("public virtual " ++ ·)
      = (unit.parents.map qualified).map ("public virtual " ++ ·) := by
    rw [bases, hlevel]
    rfl
  have hread : ∀ text, between? ("class " ++ unit.self.name ++ " : ") ""
      ("class " ++ unit.self.name ++ " : " ++ text) = some text := fun text =>
    between?_eq_some_iff.mpr String.append_empty.symm
  have hlisted :
      listed (", ".intercalate ((unit.parents.map qualified).map ("public virtual " ++ ·)))
        = (unit.parents.map qualified).map ("public virtual " ++ ·) := by
    obtain ⟨first, others, hparents⟩ :=
      List.exists_cons_of_ne_nil (ClassUnit.isRootLevel_eq_false_iff.mp hlevel)
    have hitems : ∀ text ∈ (unit.parents.map qualified).map ("public virtual " ++ ·),
        Item text := by
      rw [List.forall_mem_map, List.forall_mem_map]
      exact fun p hp => item_virtualBase (h p hp)
    rw [hparents] at hitems ⊢
    exact listed_intercalate hitems
  have hbase : ∀ name ∈ unit.parents.map qualified,
      between? "public virtual " "" ("public virtual " ++ name) = some name := fun name _ =>
    between?_eq_some_iff.mpr String.append_empty.symm
  rw [virtualBases?]
  delta classLines
  simp only [List.append_assoc]
  rw [hskip _ (by simp), hskip _ hlibrary, hskip _ (by simp), hskip _ (head?_parentIncludes unit),
    hskip _ (by simp), hskip _ (head?_blockComment _), List.cons_append, List.findSome?_cons,
    hbases, hread, Option.bind_some, hlisted, mapM_map_eq_some _ hbase, List.map_id']

/-! ## 4. Running constructors -/

/-- The parameters of the constructor that takes a call. -/
def Call.parameters (call : Call) : String :=
  ", ".intercalate
    ((if call.copies then ["const SimpleResource& res"] else [])
      ++ if call.type.isSome then ["const QUrl& type"] else [])

/-- The constructor of a class that takes a call. -/
def taking? (call : Call) (unit : ClassUnit) : Option Emitted :=
  (constructorsOf unit).find? (·.parameters == call.parameters)

/-- The types that the body of a constructor adds. -/
def Emitted.added? (k : Emitted) (passed : Option String) : Option (List String) :=
  k.body.mapM fun line => (between? "addType(" ");" line).bind (typeValue? passed)

/-- What a constructor gives to the bases that it names. -/
def Emitted.given? (k : Emitted) (passed : Option String) : Option (List (String × Call)) :=
  match k.initializers with
  | none => some []
  | some text => initializers? passed text

/-- The types that a virtual base adds: in the constructor that is named for it, or else in its
default constructor. -/
def addedByBase? (given : List (String × Call)) (base : ClassUnit) : Option (List String) :=
  let call := (given.lookup (qualified base.self)).getD ⟨false, none⟩
  (taking? call base).bind fun k => k.added? call.type

section Running

variable (outer : String) (rendering : Rendering)

/-- **A class is derived from another**: its file names it among the virtual bases.  A class that
hangs directly off the root is derived from that of the runtime, which is not generated. -/
def DerivedFrom (unit base : ClassUnit) : Prop :=
  unit ∈ rendering.units ∧ base ∈ rendering.units ∧ unit.isRootLevel = false ∧
    ∃ names, virtualBases? unit.self.name (classLines outer unit) = some names ∧
      qualified base.self ∈ names

/-- **Making an object of a class by a call adds some types**: those of the body of the constructor,
and those of every virtual base.  All constructors that run can be read. -/
inductive Makes (unit : ClassUnit) (call : Call) : Set String → Prop
  | intro {k : Emitted} {given : List (String × Call)} {own : List String}
      {inherited : ClassUnit → List String} :
      taking? call unit = some k → k.given? call.type = some given → k.added? call.type = some own →
      (∀ base, Relation.TransGen (DerivedFrom outer rendering) unit base →
        addedByBase? given base = some (inherited base)) →
      Makes unit call {type | type ∈ own ∨
        ∃ base, Relation.TransGen (DerivedFrom outer rendering) unit base ∧ type ∈ inherited base}

variable {outer : String} {rendering : Rendering}

/-- What is added is settled by the class and the call. -/
theorem Makes.unique {unit : ClassUnit} {call : Call} {types types' : Set String}
    (h : Makes outer rendering unit call types) (h' : Makes outer rendering unit call types') :
    types = types' := by
  obtain ⟨htaken, hgiven, hown, hbases⟩ := h
  obtain ⟨htaken', hgiven', hown', hbases'⟩ := h'
  obtain rfl := Option.some.inj (htaken.symm.trans htaken')
  obtain rfl := Option.some.inj (hgiven.symm.trans hgiven')
  obtain rfl := Option.some.inj (hown.symm.trans hown')
  ext type
  refine or_congr_right (exists_congr fun base => and_congr_right fun hbase => ?_)
  rw [Option.some.inj ((hbases base hbase).symm.trans (hbases' base hbase))]

end Running

section Rendered

variable {store : Store} {outer : String} {rendering : Rendering} {unit base : ClassUnit}

theorem derivedFrom_iff (h : renderAll (Index.ofStore store) (renderer outer) = .ok rendering)
    (hunit : unit ∈ rendering.units) :
    DerivedFrom outer rendering unit base ↔
      base ∈ rendering.units ∧ (Index.ofStore store).Parent unit.self.iri base.self.iri := by
  have hnames := wellNamed_of_mem_parents h hunit
  constructor
  · rintro ⟨-, hbase, hlevel, names, hread, hname⟩
    obtain rfl := Option.some.inj (hread.symm.trans (virtualBases?_classLines hlevel hnames))
    obtain ⟨parent, hparent, hsame⟩ := List.mem_map.mp hname
    obtain ⟨other, hother, rfl, hstep⟩ := exists_unit_of_mem_parents h hunit hparent
    rw [unit_eq_of_qualified_eq h hother hbase hsame] at hstep
    exact ⟨hbase, hstep⟩
  · rintro ⟨hbase, hstep⟩
    have hparent := (self_mem_parents_iff h hunit hbase).mpr hstep
    have hlevel : unit.isRootLevel = false :=
      ClassUnit.isRootLevel_eq_false_iff.mpr (List.ne_nil_of_mem hparent)
    exact ⟨hunit, hbase, hlevel, _, virtualBases?_classLines hlevel hnames,
      List.mem_map_of_mem hparent⟩

/-- **The virtual bases of a class are the classes above it.** -/
theorem transGen_derivedFrom_iff
    (h : renderAll (Index.ofStore store) (renderer outer) = .ok rendering)
    (hunit : unit ∈ rendering.units) :
    Relation.TransGen (DerivedFrom outer rendering) unit base ↔
      base ∈ rendering.units ∧ (Index.ofStore store).Above unit.self.iri base.self.iri := by
  constructor
  · intro hpath
    induction hpath with
    | single hstep =>
      obtain ⟨hbase, hparent⟩ := (derivedFrom_iff h hunit).mp hstep
      exact ⟨hbase, .single hparent⟩
    | tail _ hstep ih =>
      obtain ⟨hbase, hparent⟩ := (derivedFrom_iff h ih.1).mp hstep
      exact ⟨hbase, ih.2.tail hparent⟩
  · rintro ⟨hbase, habove⟩
    generalize hiri : base.self.iri = iri at habove
    induction habove generalizing base with
    | single hparent =>
      rw [← hiri] at hparent
      exact .single ((derivedFrom_iff h hunit).mpr ⟨hbase, hparent⟩)
    | tail _ hparent ih =>
      rw [← hiri] at hparent
      obtain ⟨c, hc, hbetween, -⟩ := id hparent
      obtain ⟨between, hmem, _, hplan⟩ := exists_unit_of_mem_classes h hc
      have hsame := hplan.iri.trans hbetween
      rw [← hsame] at hparent
      exact (ih hmem hsame).tail ((derivedFrom_iff h hmem).mpr ⟨hbase, hparent⟩)

end Rendered

end OntoWrap.Qt
