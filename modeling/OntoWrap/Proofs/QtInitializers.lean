import OntoWrap.Proofs.OutputPaths
import OntoWrap.Proofs.QuotedTexts
import OntoWrap.Proofs.SourceLines

/-!
# Reading the constructors of Qt classes

A constructor names its bases in a list of initializers, and the arguments hold string literals and
parentheses of their own.  The list is split at the commas outside of both (`splitCommas`), and each
initializer is read as a name and the arguments (`initializers?`).  An IRI is read from the literal
that it was written as (`url?_urlExpr`), so it may hold quotes, commas and parentheses.
-/
namespace OntoWrap.Qt

open Naming Text Text.Source

/-! ## 1. Literals -/

/-- Reads the rest of a string literal, up to the closing quote; `opened` says whether a backslash
stands before. -/
def literalFrom (opened : Bool) : Lexer (List Char)
  | [] => none
  | c :: rest =>
    if opened then (letterOf? c).bind fun d => withChar d (literalFrom false rest)
    else if c = '"' then some ([], rest)
    else if c = '\\' then literalFrom true rest
    else withChar c (literalFrom false rest)

/-- **Escaped characters are read back**, up to the quote that closes them. -/
theorem literalFrom_escapeChars (cs rest : List Char) :
    literalFrom false (escapeChars cs ++ '"' :: rest) = some (cs, rest) := by
  induction cs with
  | nil => rfl
  | cons c cs ih =>
    rw [escapeChars, List.flatMap_cons, List.append_assoc, ← escapeChars]
    by_cases hescaped : c = '\\' ∨ c = '"'
    · rw [if_pos hescaped]
      rcases hescaped with rfl | rfl
      · simp [literalFrom, letterOf?, ih, withChar]
      · simp [literalFrom, letterOf?, ih, withChar]
    · obtain ⟨hbackslash, hquote⟩ := not_or.mp hescaped
      rw [if_neg (not_or.mpr ⟨hbackslash, hquote⟩)]
      simp [literalFrom, hbackslash, hquote, ih, withChar]

/-- The IRI of an expression that makes a URL. -/
def url? (expression : String) : Option String :=
  (afterText? "QUrl::fromEncoded(\"".toList expression.toList).bind fun text =>
    match literalFrom false text with
    | some (iri, after) =>
      if after = ", QUrl::StrictMode)".toList then some (String.ofList iri) else none
    | none => none

theorem toList_enclosed (front back : String) (cs : List Char) :
    (front ++ String.ofList cs ++ back).toList = front.toList ++ (cs ++ back.toList) := by
  simp

/-- **The URL of a class or property is that of its IRI**, whatever characters this has. -/
theorem url?_urlExpr (iri : String) : url? (urlExpr iri) = some iri := by
  have hclose : "\", QUrl::StrictMode)".toList = '"' :: ", QUrl::StrictMode)".toList := by decide
  have hread : afterText? "QUrl::fromEncoded(\"".toList (urlExpr iri).toList
      = some (escapeChars iri.toList ++ '"' :: ", QUrl::StrictMode)".toList) :=
    afterText?_eq_some_iff.mpr ((toList_enclosed _ _ _).trans (by rw [hclose]))
  rw [url?, hread, Option.bind_some, literalFrom_escapeChars]
  simp only [if_true, String.ofList_toList]

/-! ## 2. Splitting at commas -/

/-- Where a reader of a list of expressions stands: how many parentheses are open, and whether it is
in a literal, and there behind a backslash. -/
structure ScanState where
  depth : Nat := 0
  quoted : Bool := false
  opened : Bool := false
  deriving DecidableEq, Repr

/-- The state behind one more character. -/
def ScanState.next (s : ScanState) (c : Char) : ScanState :=
  if s.opened then { s with opened := false }
  else if s.quoted then
    if c = '\\' then { s with opened := true }
    else if c = '"' then { s with quoted := false }
    else s
  else if c = '"' then { s with quoted := true }
  else if c = '(' then { s with depth := s.depth + 1 }
  else if c = ')' then { s with depth := s.depth - 1 }
  else s

/-- Whether a character separates two expressions. -/
def ScanState.separates (s : ScanState) (c : Char) : Bool :=
  c == ',' && s.depth == 0 && !s.quoted && !s.opened

/-- The first part of a text between the commas that separate expressions, and the other parts. -/
def splitCommas (s : ScanState) : List Char → List Char × List (List Char)
  | [] => ([], [])
  | c :: rest =>
    let (part, parts) := splitCommas (s.next c) rest
    if s.separates c then ([], part :: parts) else (c :: part, parts)

/-- The state behind some characters, if no comma among them separates expressions. -/
def scan (s : ScanState) : List Char → Option ScanState
  | [] => some s
  | c :: rest => if s.separates c then none else scan (s.next c) rest

/-- What is given to a constructor: whether a resource to copy, and which type, if any. -/
structure Call where
  copies : Bool
  type : Option String
  deriving DecidableEq, Repr

/-- The type that an expression stands for, where `type` stands for the one that was passed. -/
def typeValue? (passed : Option String) (expression : String) : Option String :=
  if expression = "type" then passed else url? expression

/-- What the arguments of an initializer give to the constructor of a base. -/
def arguments? (passed : Option String) (text : String) : Option Call :=
  if text = "res" then some ⟨true, none⟩
  else match between? "res, " "" text with
    | some expression => (typeValue? passed expression).map fun type => ⟨true, some type⟩
    | none => (typeValue? passed text).map fun type => ⟨false, some type⟩

/-- An initializer: the name of a base, and what is given to its constructor. -/
def initializer? (passed : Option String) (text : List Char) : Option (String × Call) :=
  match text.dropWhile (· != '(') with
  | '(' :: inner =>
    if inner.getLast? = some ')' then
      (arguments? passed (String.ofList inner.dropLast)).map fun call =>
        (String.ofList (text.takeWhile (· != '(')), call)
    else none
  | _ => none

/-- The initializers of a constructor, in order. -/
def initializers? (passed : Option String) (text : String) : Option (List (String × Call)) :=
  let (first, others) := splitCommas {} text.toList
  (first :: others.map fun part => part.dropWhile (· == ' ')).mapM (initializer? passed)

/-- An initializer as it is written. -/
structure Initializer where
  name : String
  arguments : String

namespace Initializer

/-- The text of an initializer. -/
def text (w : Initializer) : String := w.name ++ "(" ++ w.arguments ++ ")"

/-- The name is one with its namespaces, and the arguments leave nothing open. -/
structure WellFormed (w : Initializer) : Prop where
  plain : ∀ c ∈ w.name.toList, isIdentifierChar c = true ∨ c = ':'
  closed : scan { depth := 1 } w.arguments.toList = some { depth := 1 }

variable {w : Initializer}

end Initializer

/-- The type that a constructor is called for: the one that is passed, or that of its class. -/
def Call.value (call : Call) (unit : ClassUnit) : String := call.type.getD unit.self.iri

/-- The constructor that takes a call. -/
def Call.constructor (call : Call) (unit : ClassUnit) : Constructor :=
  Qt.constructor unit call.copies (if call.type.isSome then .passed else .own)

theorem plain_qualified {r : ClassRef} (h : r.WellNamed) :
    ∀ c ∈ (qualified r).toList, isIdentifierChar c = true ∨ c = ':' := by
  intro c hc
  rw [qualified, String.toList_append, String.toList_append, List.append_assoc] at hc
  rcases List.mem_append.mp hc with hspace | hc
  · exact .inl (identifierText_namespaceName h c hspace)
  · rcases List.mem_append.mp hc with hcolon | hname
    · exact .inr (by simpa using hcolon)
    · exact .inl (h.name c hname)

end OntoWrap.Qt
