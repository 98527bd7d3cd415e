import OntoWrap.Files.Path
import OntoWrap.Wrapper.Plan

/-!
# Renderers

A renderer turns plans into files of one target: how a class file is called, how an accessor is
declared, what stands in a class file, and which further files the set of all classes needs.
-/
namespace OntoWrap

/-- A generated file. -/
structure OutputUnit where
  /-- Path below the output folder. -/
  path : String
  /-- IRI of the class, or a description of the file. -/
  origin : String
  contents : String
  deriving DecidableEq, Repr

/-- The backend of one target. -/
structure Renderer where
  /-- Extension of class files, without the dot. -/
  extension : String
  /-- Name of a class file, without the extension. -/
  fileStem : ClassRef → String
  /-- Path of a class file below the output folder. -/
  relativePath : ClassRef → String
  /-- The name under which an accessor is declared. -/
  methodName : String → String
  /-- Text of a class file. -/
  renderClass : ClassUnit → String
  /-- Files about the set of all classes. -/
  renderIndexes : List ClassUnit → List OutputUnit

/-- The file of a planned class. -/
def Renderer.render (renderer : Renderer) (unit : ClassUnit) : OutputUnit where
  path := renderer.relativePath unit.self
  origin := unit.self.iri
  contents := renderer.renderClass unit

/-- The file of a class of an index. -/
def Renderer.emit (renderer : Renderer) (index : Index) (c : ClassInfo) :
    Except PlanFault OutputUnit :=
  (index.plan renderer.methodName c).map renderer.render

end OntoWrap
