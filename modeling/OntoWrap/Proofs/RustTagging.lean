import Mathlib.Data.Finset.Insert
import OntoWrap.Proofs.Methods
import OntoWrap.Proofs.QuotedTexts
import OntoWrap.Proofs.RustModules

/-!
# Which types a Rust wrapper gives to a resource

The generated methods are run here on the set of types of a resource.  `runWrapping` reads the lines
of `from_resource_with_type`, follows the path of each call of `init_type` to a class, and runs the
lines of `init_type` of this class; adding a type inserts it.  Only classes that hang directly off
the root add anything.  Since each class has one among its ancestors or is one itself, a wrapper
adds the type that it is made with and no other (`wrapping_adds_type`).
-/
namespace OntoWrap.Rust

open Naming Text Text.Source

/-! ## 1. Bodies of methods -/

/-- The body of a method, from the line that declares it and the lines behind.  A definition on one
line has no body. -/
def bodyFrom (line : String) (rest : List String) : List String :=
  if (between? "" "\x7b\x7d" line).isSome then [] else bodyOf rest

/-- The methods that the lines of an `impl` block declare, each with its body. -/
def methods : List String → List (String × List String)
  | [] => []
  | line :: rest =>
    (declaredMethod? line).toList.map (fun name => (name, bodyFrom line rest)) ++ methods rest

theorem methods_cons {line : String} (h : declaredMethod? line = none) (l : List String) :
    methods (line :: l) = methods l := by
  rw [methods, h]
  rfl

theorem methods_append {l : List String} (h : declaredMethods l = []) (m : List String) :
    methods (l ++ m) = methods m := by
  induction l with
  | nil => rfl
  | cons line l ih =>
    rw [declaredMethods_cons, List.append_eq_nil_iff, Option.toList_eq_nil_iff] at h
    rw [List.cons_append, methods_cons h.1, ih h.2]

/-- **The body of a block** is read as it was written. -/
theorem methods_block (head : String) (body m : List String) :
    methods (block head body ++ m)
      = (declaredMethod? (head ++ " \x7b")).toList.map (fun name => (name, body)) ++ methods m := by
  have hopen : between? "" "\x7b\x7d" (head ++ " \x7b") = none := by
    refine Option.eq_none_iff_forall_ne_some.mpr fun inner hinner => ?_
    have hchars := congrArg (fun line => line.toList.getLast?) (between?_eq_some_iff.mp hinner)
    simp [List.getLast?_append] at hchars
  have hbody : bodyFrom (head ++ " \x7b") (indent body ++ "\x7d" :: m) = body := by
    rw [bodyFrom, hopen, bodyOf_indent]
    rfl
  have hclose : declaredMethod? "\x7d" = none := by decide
  have hlines : block head body ++ m = (head ++ " \x7b") :: (indent body ++ "\x7d" :: m) := by
    simp [block]
  rw [hlines, methods, hbody, methods_append (declaredMethods_indent body), methods_cons hclose]

/-- The lines that make a wrapper. -/
def wrappingLines (unit : ClassUnit) : List String :=
  ["let mut resource = res;"] ++ (typeCalls unit).map TypeCall.line ++ ["Self \x7b resource \x7d"]

/-- The lines that add a type. -/
def initLines (unit : ClassUnit) : List String :=
  if addsType unit then ["resource.add_type(type_uri);"] else []

theorem methods_initType (unit : ClassUnit) (m : List String) :
    methods (initType unit ++ m) = ("init_type", initLines unit) :: methods m := by
  have hattribute : declaredMethod? "#[doc(hidden)]" = none := by decide
  have hadding : declaredMethod?
      ("pub fn init_type(resource: &mut rt::SimpleResource, type_uri: &str)" ++ " \x7b")
        = some "init_type" := by decide
  have hidle : declaredMethod?
      "pub fn init_type(_resource: &mut rt::SimpleResource, _type_uri: &str) \x7b\x7d"
        = some "init_type" := by decide
  unfold initType initLines
  split
  · rw [List.cons_append, methods_cons hattribute, methods_block, hadding]
    rfl
  · rw [List.cons_append, methods_cons hattribute, List.cons_append, methods, hidle]
    rfl

theorem methods_comment {line : String} (h : line.toList.head? = some '/') (m : List String) :
    methods (line :: m) = methods m := by
  refine methods_cons ?_ m
  obtain ⟨cs, hcs⟩ := List.head?_eq_some_iff.mp h
  rw [declaredMethod?, hcs, methodIn?_comment]

/-- The lines of the `impl` block of a class, as they stand in its file. -/
def implLines (runtime : String) (unit : ClassUnit) : List String :=
  bodyOf ((classLines runtime unit).dropWhile (· != "impl " ++ typeName unit.self ++ " \x7b")).tail

/-- The lines of a class file before the `impl` block. -/
def linesBefore (runtime : String) (unit : ClassUnit) : List String :=
  ["//! `" ++ unit.label ++ "`: <" ++ unit.self.iri ++ ">."] ++ generatedNote
    ++ ["use " ++ runtime ++ " as rt;", ""] ++ structComment unit ++ ["#[derive(Debug, Clone)]"]
    ++ block ("pub struct " ++ typeName unit.self) ["resource: rt::SimpleResource,"] ++ [""]

/-- No line before the `impl` block begins as the block does. -/
theorem head?_linesBefore (runtime : String) (unit : ClassUnit) :
    ∀ line ∈ linesBefore runtime unit, line.toList.head? ≠ some 'i' := by
  have hcomment : ∀ line ∈ structComment unit, line.toList.head? ≠ some 'i' := fun line hline => by
    simp [head?_structComment line hline]
  simp only [linesBefore, block, indent, generatedNote, List.forall_mem_append]
  refine ⟨⟨⟨⟨⟨⟨?_, ?_⟩, ?_⟩, hcomment⟩, ?_⟩, ?_⟩, ?_⟩
  all_goals simp

theorem classLines_eq_append (runtime : String) (unit : ClassUnit) :
    classLines runtime unit = linesBefore runtime unit
      ++ block ("impl " ++ typeName unit.self)
        (constructors unit ++ unit.accessors.flatMap accessorMethods)
      ++ "" :: conversions unit := by
  simp [classLines, linesBefore, block]

/-- **The `impl` block holds the constructors and the methods of the properties.** -/
theorem implLines_eq (runtime : String) (unit : ClassUnit) :
    implLines runtime unit = constructors unit ++ unit.accessors.flatMap accessorMethods := by
  have hskip : ∀ line ∈ linesBefore runtime unit,
      (line != "impl " ++ typeName unit.self ++ " \x7b") = true := by
    intro line hline
    rw [bne_iff_ne]
    rintro rfl
    exact head?_linesBefore runtime unit _ hline (by simp)
  rw [implLines, classLines_eq_append, List.append_assoc, List.dropWhile_append_of_pos hskip, block,
    List.cons_append, List.cons_append, List.dropWhile_cons_of_neg (by simp), List.tail_cons,
    List.append_assoc, List.singleton_append, bodyOf_indent]

/-- **The methods that every wrapper has, with their bodies**, come before those of its
properties. -/
theorem methods_implLines (runtime : String) (unit : ClassUnit) :
    methods (implLines runtime unit) = [
      ("new", ["Self::with_type(Self::TYPE_URI)"]),
      ("from_resource", ["Self::from_resource_with_type(res, Self::TYPE_URI)"]),
      ("assign", ["*self = Self::from_resource(res);", "self"]),
      ("with_type", ["Self::from_resource_with_type(rt::SimpleResource::new(), type_uri)"]),
      ("from_resource_with_type", wrappingLines unit),
      ("init_type", initLines unit),
      ("wrap", ["Self \x7b resource \x7d"]),
      ("resource", ["&self.resource"]),
      ("into_resource", ["self.resource"])]
        ++ methods (unit.accessors.flatMap accessorMethods) := by
  rw [implLines_eq]
  delta constructors
  simp only [List.append_assoc, List.cons_append, List.nil_append]
  have hconst : ∀ iri m, methods (("pub const TYPE_URI: &'static str = " ++ iri ++ ";") :: m)
      = methods m := by
    intro iri m
    refine methods_cons ?_ m
    rw [String.append_assoc, declaredMethod?_ofList_append]
    rfl
  have hempty : ∀ m, methods ("" :: m) = methods m := methods_cons declaredMethod?_empty
  have hattribute : ∀ m, methods ("#[allow(dead_code)]" :: m) = methods m :=
    methods_cons (by decide)
  rw [methods_comment (by simp), hconst, hempty, methods_comment (by simp), methods_block, hempty,
    methods_comment (by simp), methods_block, hempty, methods_comment (by simp), methods_block,
    hempty, methods_comment (by decide), methods_comment (by decide), methods_block, hempty,
    methods_comment (by decide), methods_comment (by decide), methods_block, hempty,
    methods_initType, hempty, hattribute, methods_block, hempty, methods_comment (by decide),
    methods_block, hempty, methods_comment (by decide), methods_block]
  repeat rw [declaredMethod?_ofList_append]
  rfl

/-- The IRI that the lines of an `impl` block give to `TYPE_URI`. -/
def typeUri? (lines : List String) : Option String :=
  lines.findSome? fun line =>
    match (afterText? "pub const TYPE_URI: &'static str = ".toList line.toList).bind literal with
    | some (iri, [';']) => some iri
    | _ => none

/-- **The constant holds the IRI of the class**, whatever characters this has. -/
theorem typeUri?_implLines (runtime : String) (unit : ClassUnit) :
    typeUri? (implLines runtime unit) = some unit.self.iri := by
  have hline : (afterText? "pub const TYPE_URI: &'static str = ".toList
      ("pub const TYPE_URI: &'static str = " ++ quote unit.self.iri ++ ";").toList).bind literal
        = some (unit.self.iri, [';']) := by
    have hread : afterText? "pub const TYPE_URI: &'static str = ".toList
        ("pub const TYPE_URI: &'static str = " ++ quote unit.self.iri ++ ";").toList
          = some ((quote unit.self.iri).toList ++ [';']) :=
      afterText?_eq_some_iff.mpr (by simp)
    rw [hread, Option.bind_some, quote, literal_quoteBy]
  have hcomment : ∀ name, afterText? "pub const TYPE_URI: &'static str = ".toList
      ("/// IRI of the `" ++ name ++ "` class.").toList = none := by
    intro name
    simp [afterText?]
  rw [implLines_eq]
  delta constructors
  simp only [List.append_assoc, List.cons_append, typeUri?, List.findSome?_cons, hcomment, hline,
    Option.bind_none]

/-! ## 2. Running the methods -/

/-- The body of a method of a wrapper. -/
def body? (runtime name : String) (unit : ClassUnit) : Option (List String) :=
  (methods (implLines runtime unit)).lookup name

/-- The types of a resource after `init_type` of a class: each line of its body adds the type. -/
def runInitType (runtime : String) (unit : ClassUnit) (type : String) (types : Finset String) :
    Option (Finset String) := do
  let body ← body? runtime "init_type" unit
  body.foldlM (fun types line =>
    if line = "resource.add_type(type_uri);" then some (insert type types) else none) types

/-- The paths of the classes whose `init_type` is called to wrap a resource, in order.  The body
takes the resource over first and gives it back last, and there is nothing in it but these calls. -/
def callees? (runtime : String) (unit : ClassUnit) : Option (List String) := do
  let body ← body? runtime "from_resource_with_type" unit
  if body.head? = some "let mut resource = res;" ∧
      body.getLast? = some "Self \x7b resource \x7d" then
    body.tail.dropLast.mapM (between? "" "::init_type(&mut resource, type_uri);")
  else none

section Running

variable (runtime : String) (rendering : Rendering)

/-- The class that a call leads to: the class itself, or the only one that the path resolves to. -/
def callee? (unit : ClassUnit) (path : String) : Option ClassUnit :=
  if path = "Self" then some unit
  else match resolve runtime rendering (relativePath unit.self) path with
    | [target] => some target
    | _ => none

/-- The classes whose `init_type` is called to wrap a resource, in order. -/
def called? (unit : ClassUnit) : Option (List ClassUnit) :=
  (callees? runtime unit).bind fun paths => paths.mapM (callee? runtime rendering unit)

/-- The types of a resource after `from_resource_with_type`. -/
def runWrapping (unit : ClassUnit) (type : String) (types : Finset String) :
    Option (Finset String) :=
  (called? runtime rendering unit).bind fun called =>
    called.foldlM (fun types target => runInitType runtime target type types) types

/-- The types of a new resource after `with_type`. -/
def runWithType (unit : ClassUnit) (type : String) : Option (Finset String) :=
  if body? runtime "with_type" unit
      = some ["Self::from_resource_with_type(rt::SimpleResource::new(), type_uri)"] then
    runWrapping runtime rendering unit type ∅
  else none

/-- The types of a new resource after `new`. -/
def runNew (unit : ClassUnit) : Option (Finset String) :=
  if body? runtime "new" unit = some ["Self::with_type(Self::TYPE_URI)"] then
    (typeUri? (implLines runtime unit)).bind (runWithType runtime rendering unit)
  else none

end Running

/-! ## 3. What the calls lead to -/

theorem body?_initType (runtime : String) (unit : ClassUnit) :
    body? runtime "init_type" unit = some (initLines unit) := by
  rw [body?, methods_implLines]
  rfl

/-- **Only classes that hang directly off the root add the type.** -/
theorem runInitType_eq (runtime : String) (unit : ClassUnit) (type : String)
    (types : Finset String) :
    runInitType runtime unit type types
      = some (if unit.isRootLevel then insert type types else types) := by
  rw [runInitType, body?_initType, initLines, addsType]
  cases unit.isRootLevel <;> rfl

/-- The path under which a call is made. -/
def TypeCall.callee : TypeCall → String
  | own => "Self"
  | ancestor path => path.text

theorem TypeCall.line_eq (call : TypeCall) :
    call.line = "" ++ call.callee ++ "::init_type(&mut resource, type_uri);" := by
  cases call with
  | own => decide
  | ancestor path => rw [TypeCall.line, TypeCall.callee, String.empty_append]

/-- Readings that succeed one by one succeed on the whole list. -/
theorem exists_mapM_eq_some {α β : Type} {read : α → Option β} {P : α → β → Prop} {l : List α}
    (h : ∀ a ∈ l, ∃ b, read a = some b ∧ P a b) :
    ∃ results, l.mapM read = some results ∧ List.Forall₂ P l results := by
  induction l with
  | nil => exact ⟨[], rfl, .nil⟩
  | cons a l ih =>
    obtain ⟨b, hread, hb⟩ := h a List.mem_cons_self
    obtain ⟨results, hresults, hall⟩ :=
      ih fun other hother => h other (List.mem_cons_of_mem _ hother)
    refine ⟨b :: results, ?_, .cons hb hall⟩
    rw [List.mapM_cons, hread, hresults]
    rfl

/-- The calls are read as they were written. -/
theorem callees?_eq (runtime : String) (unit : ClassUnit) :
    callees? runtime unit = some ((typeCalls unit).map TypeCall.callee) := by
  have hbody : body? runtime "from_resource_with_type" unit = some (wrappingLines unit) := by
    rw [body?, methods_implLines]
    rfl
  have hframe : (wrappingLines unit).head? = some "let mut resource = res;" ∧
      (wrappingLines unit).getLast? = some "Self \x7b resource \x7d" :=
    ⟨rfl, List.getLast?_concat⟩
  have hcalls : (wrappingLines unit).tail.dropLast = (typeCalls unit).map TypeCall.line := by
    simp [wrappingLines]
  have hread : ∀ call ∈ typeCalls unit,
      between? "" "::init_type(&mut resource, type_uri);" call.line = some call.callee :=
    fun call _ => between?_eq_some_iff.mpr call.line_eq
  rw [callees?, hbody, Option.bind_eq_bind, Option.bind_some, if_pos hframe, hcalls,
    mapM_map_eq_some TypeCall.line hread]

section Rendered

variable {store : Store} {runtime : String} {rendering : Rendering} {unit target : ClassUnit}

/-- A call on a class above leads to this class. -/
theorem callee?_classPath (h : renderAll (Index.ofStore store) (renderer runtime) = .ok rendering)
    (hunit : unit ∈ rendering.units) (htarget : target ∈ rendering.units) :
    callee? runtime rendering unit (classPath unit.self target.self).text = some target := by
  have hpath : (classPath unit.self target.self).text ≠ "Self" := by
    intro heq
    have hhead := congrArg (fun text => text.toList.head?) heq
    unfold classPath at hhead
    split at hhead <;> simp at hhead
  rw [callee?, if_neg hpath, resolve_classPath h hunit htarget]

/-- A class that hangs directly off the root calls itself. -/
theorem called?_of_isRootLevel (hroot : unit.isRootLevel = true) :
    called? runtime rendering unit = some [unit] := by
  rw [called?, callees?_eq, typeCalls, if_pos hroot]
  rfl

/-- **Any other class calls its ancestors**, in their order. -/
theorem exists_called?_eq (h : renderAll (Index.ofStore store) (renderer runtime) = .ok rendering)
    (hunit : unit ∈ rendering.units) (hparents : unit.isRootLevel = false) :
    ∃ called, called? runtime rendering unit = some called ∧
      (∀ target ∈ called, target ∈ rendering.units) ∧ called.map (·.self) = unit.ancestors := by
  have hcallees : (typeCalls unit).map TypeCall.callee
      = unit.ancestors.map fun a => (classPath unit.self a).text := by
    rw [typeCalls, hparents, if_neg (by simp), List.map_map]
    rfl
  have hread : ∀ ancestor ∈ unit.ancestors, ∃ target,
      callee? runtime rendering unit (classPath unit.self ancestor).text = some target
        ∧ (target ∈ rendering.units ∧ target.self = ancestor) := by
    intro ancestor hancestor
    obtain ⟨target, htarget, rfl, -⟩ := exists_unit_of_mem_ancestors h hunit hancestor
    exact ⟨target, callee?_classPath h hunit htarget, htarget, rfl⟩
  obtain ⟨called, hcalled, hall⟩ := exists_mapM_eq_some hread
  refine ⟨called, ?_, ?_, ?_⟩
  · rw [called?, callees?_eq, Option.bind_some, hcallees, List.mapM_map]
    exact hcalled
  · intro target htarget
    obtain ⟨ancestor, -, hunits, -⟩ := exists_of_forall₂ hall.flip target htarget
    exact hunits
  · have hselves : List.Forall₂ (· = ·) (called.map (·.self)) unit.ancestors := by
      rw [List.forall₂_map_left_iff]
      exact hall.flip.imp fun _ _ hpair => hpair.2
    rwa [List.forall₂_eq_eq_eq] at hselves

/-! ## 4. The types that are added -/

/-- Calls add the type if one of them is on a class that adds it. -/
theorem foldlM_runInitType (runtime : String) (called : List ClassUnit) (type : String)
    (types : Finset String) :
    called.foldlM (fun types target => runInitType runtime target type types) types
      = some (if called.any (·.isRootLevel) then insert type types else types) := by
  induction called generalizing types with
  | nil => rfl
  | cons target called ih =>
    rw [List.foldlM_cons, runInitType_eq, Option.bind_eq_bind, Option.bind_some, ih, List.any_cons]
    cases target.isRootLevel <;> simp

/-- **Some class that is called adds the type**: the class itself, or an ancestor of it that hangs
directly off the root. -/
theorem exists_rootLevel_called
    (h : renderAll (Index.ofStore store) (renderer runtime) = .ok rendering)
    (hunit : unit ∈ rendering.units) {called : List ClassUnit}
    (hcalled : ∀ target ∈ called, target ∈ rendering.units)
    (hselves : called.map (·.self) = unit.ancestors) (hparents : unit.isRootLevel = false) :
    ∃ root ∈ called, root.isRootLevel = true := by
  obtain ⟨root, hroot, hancestor, hlevel⟩ := exists_rootLevel_ancestor h hunit hparents
  rw [← hselves] at hancestor
  obtain ⟨target, htarget, hself⟩ := List.mem_map.mp hancestor
  obtain rfl := unit_eq_of_iri_eq h (hcalled target htarget) hroot (by rw [hself])
  exact ⟨target, htarget, hlevel⟩

/-- **Making a wrapper adds its type**, and nothing else. -/
theorem runWrapping_eq (h : renderAll (Index.ofStore store) (renderer runtime) = .ok rendering)
    (hunit : unit ∈ rendering.units) (type : String) (types : Finset String) :
    runWrapping runtime rendering unit type types = some (insert type types) := by
  have hadds : ∃ called, called? runtime rendering unit = some called ∧
      called.any (·.isRootLevel) = true := by
    cases hlevel : unit.isRootLevel with
    | true => exact ⟨[unit], called?_of_isRootLevel hlevel, by simp [hlevel]⟩
    | false =>
      obtain ⟨called, hcalled, hunits, hselves⟩ := exists_called?_eq h hunit hlevel
      exact ⟨called, hcalled,
        List.any_eq_true.mpr (exists_rootLevel_called h hunit hunits hselves hlevel)⟩
  obtain ⟨called, hcalled, hany⟩ := hadds
  rw [runWrapping, hcalled, Option.bind_some, foldlM_runInitType, hany, if_pos rfl]

/-- A new wrapper has the IRI of its class as its only type. -/
theorem runNew_eq (h : renderAll (Index.ofStore store) (renderer runtime) = .ok rendering)
    (hunit : unit ∈ rendering.units) :
    runNew runtime rendering unit = some {unit.self.iri} := by
  have hnew : body? runtime "new" unit = some ["Self::with_type(Self::TYPE_URI)"] := by
    rw [body?, methods_implLines]
    rfl
  have hwithType : body? runtime "with_type" unit
      = some ["Self::from_resource_with_type(rt::SimpleResource::new(), type_uri)"] := by
    rw [body?, methods_implLines]
    rfl
  rw [runNew, if_pos hnew, typeUri?_implLines, Option.bind_some, runWithType, if_pos hwithType,
    runWrapping_eq h hunit, insert_empty_eq]

end Rendered

/-- **Tagging.**  Whenever an index is rendered, wrapping a resource as a class adds the type that
is asked for and no other, and a new wrapper has the type of its class alone.  A class with parents
calls `init_type` of each class above it, once and in the order of its lineage, and one of them adds
the type. -/
theorem wrapping_adds_type (store : Store) (runtime : String) (rendering : Rendering)
    (h : renderAll (Index.ofStore store) (renderer runtime) = .ok rendering) :
    ∀ unit ∈ rendering.units,
      (∀ type types, runWrapping runtime rendering unit type types = some (insert type types)) ∧
      runNew runtime rendering unit = some {unit.self.iri} ∧
      (unit.parents ≠ [] → ∃ c ∈ (Index.ofStore store).classes, ∃ chain called,
        c.iri = unit.self.iri ∧ (Index.ofStore store).ancestors c = .ok chain ∧
        called? runtime rendering unit = some called ∧
        (∀ target ∈ called, target ∈ rendering.units) ∧
        called.map (·.self.iri) = chain.map (·.iri) ∧ (called.map (·.self.iri)).Nodup ∧
        (∀ iri, iri ∈ called.map (·.self.iri) ↔ (Index.ofStore store).Above unit.self.iri iri) ∧
        ∃ root ∈ called, root.parents = [] ∧
          ∀ type types, runInitType runtime root type types = some (insert type types)) := by
  intro unit hunit
  refine ⟨runWrapping_eq h hunit, runNew_eq h hunit, fun hparents => ?_⟩
  have hlevel : unit.isRootLevel = false := ClassUnit.isRootLevel_eq_false_iff.mpr hparents
  obtain ⟨c, chain, hplan⟩ := exists_planOf_of_mem h hunit
  obtain ⟨called, hcalled, hunits, hselves⟩ := exists_called?_eq h hunit hlevel
  obtain ⟨root, hroot, hrootLevel⟩ := exists_rootLevel_called h hunit hunits hselves hlevel
  have hiris : called.map (·.self.iri) = unit.ancestors.map (·.iri) := by
    rw [← hselves, List.map_map]
    rfl
  refine ⟨c, hplan.declared, chain, called, hplan.iri.symm, hplan.walked, hcalled, hunits, ?_, ?_,
    ?_, root, hroot, List.isEmpty_iff.mp hrootLevel, fun type types => ?_⟩
  · rw [hiris, hplan.iri_ancestors]
  · rw [hiris]
    exact nodup_iri_ancestors h hunit
  · intro iri
    rw [hiris]
    exact mem_iri_ancestors_iff h hunit
  · rw [runInitType_eq, hrootLevel, if_pos rfl]

theorem wrapping_adds_type_media : ∃ rendering,
    renderAll (Index.ofStore media) (renderer "crate") = .ok rendering ∧
    ∃ unit ∈ rendering.units, unit.self = cellRef ∧ unit.parents ≠ [] ∧
      runNew "crate" rendering unit = some {"x:Cell"} ∧
      ∃ called, called? "crate" rendering unit = some called ∧ (called.map (·.self.iri)).Nodup ∧
        ∃ root ∈ called, root.parents = [] ∧
          runInitType "crate" root "x:Cell" ∅ = some {"x:Cell"} := by
  obtain ⟨rendering, h, hunits⟩ := exists_rendering_media
  obtain ⟨unit, hunit, hself, hparents⟩ : ∃ unit ∈ rendering.units, unit.self = cellRef ∧
      unit.parents ≠ [] := by
    rw [hunits]
    decide
  obtain ⟨-, hnew, hcalls⟩ := wrapping_adds_type media "crate" rendering h unit hunit
  obtain ⟨-, -, -, called, -, -, hcalled, -, -, hdistinct, -, root, hroot, hlevel, hadds⟩ :=
    hcalls hparents
  rw [hself] at hnew
  exact ⟨rendering, h, unit, hunit, hself, hparents, hnew, called, hcalled, hdistinct, root, hroot,
    hlevel, hadds _ _⟩

/-- A derived class passes its type on to all ancestors and adds nothing itself. -/
example :
    let unit : ClassUnit := ⟨cellRef, "Cell", none, [phoneRef], [mediumRef, phoneRef], []⟩
    wrappingLines unit = ["let mut resource = res;",
      "super::super::y::Medium::init_type(&mut resource, type_uri);",
      "super::Phone::init_type(&mut resource, type_uri);", "Self \x7b resource \x7d"] ∧
    initLines unit = [] := by
  decide +kernel

end OntoWrap.Rust
