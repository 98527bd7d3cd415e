import OntoWrap.Ascending
import OntoWrap.Text.Quoted

/-!
# Terms and statements

A term is an IRI, a blank node or a literal; a statement puts three of them together and may name
the graph it was made in.  Both are totally ordered: IRIs come before blank nodes and these before
literals, texts compare character by character, and what is absent comes before what is present.
The orders are lawful, so that equal comparison is equality.
-/
namespace OntoWrap

/-! ## 1. Terms -/

/-- A node of a statement. -/
inductive Term where
  /-- A resource with a name. -/
  | iri (name : String)
  /-- A resource without a name; the label holds within one document. -/
  | blank (label : String)
  /-- A value, written in some way, with the IRI of its datatype if it has one. -/
  | literal (lexical : String) (datatype : Option String)
  deriving DecidableEq, Repr, Inhabited

namespace Term

/-- The IRI, if the term is one. -/
def asIri? : Term → Option String
  | iri name => some name
  | _ => none

/-- The written form, if the term is a literal. -/
def lexical? : Term → Option String
  | literal lexical _ => some lexical
  | _ => none

/-- The IRI or the literal's written form; nothing for a blank node. -/
def text? : Term → Option String
  | iri name => some name
  | literal lexical _ => some lexical
  | blank _ => none

/-- The term as it is written in a line of triples. -/
def display : Term → String
  | iri name => "<" ++ name ++ ">"
  | blank label => "_:" ++ label
  | literal lexical none => Text.quote lexical
  | literal lexical (some datatype) => Text.quote lexical ++ "^^<" ++ datatype ++ ">"

/-! ## 2. The order of terms -/

/-- Place of a term's kind in the order. -/
def rank : Term → Nat
  | iri _ => 0
  | blank _ => 1
  | literal _ _ => 2

/-- The text that tells terms of one kind apart first. -/
def content : Term → String
  | iri name => name
  | blank label => label
  | literal lexical _ => lexical

/-- The datatype of a literal. -/
def datatype? : Term → Option String
  | literal _ datatype => datatype
  | _ => none

instance : Ord Term :=
  ⟨compareLex (compareOn rank) (compareLex (compareOn content) (compareOn datatype?))⟩

instance : Std.TransOrd Term :=
  inferInstanceAs (Std.TransCmp
    (compareLex (compareOn rank) (compareLex (compareOn content) (compareOn datatype?))))

theorem eq_of_parts {a b : Term} (hr : a.rank = b.rank) (hc : a.content = b.content)
    (hd : a.datatype? = b.datatype?) : a = b := by
  cases a <;> cases b <;> simp_all [rank, content, datatype?]

instance : Std.LawfulEqOrd Term where
  eq_of_compare h := by
    obtain ⟨hr, h⟩ := compareLex_eq_eq.mp h
    obtain ⟨hc, hd⟩ := compareLex_eq_eq.mp h
    exact eq_of_parts (Std.LawfulEqOrd.eq_of_compare hr) (Std.LawfulEqOrd.eq_of_compare hc)
      (Std.LawfulEqOrd.eq_of_compare hd)

end Term

/-! ## 3. Statements -/

/-- One fact, made in a named graph or in none. -/
structure Statement where
  subject : Term
  predicate : Term
  object : Term
  graph : Option Term := none
  deriving DecidableEq, Repr, Inhabited

namespace Statement

instance : Ord Statement :=
  ⟨compareLex (compareOn subject) (compareLex (compareOn predicate)
    (compareLex (compareOn object) (compareOn graph)))⟩

instance : Std.TransOrd Statement :=
  inferInstanceAs (Std.TransCmp
    (compareLex (compareOn subject) (compareLex (compareOn predicate)
      (compareLex (compareOn object) (compareOn graph)))))

instance : Std.LawfulEqOrd Statement where
  eq_of_compare {a b} h := by
    obtain ⟨hs, h⟩ := compareLex_eq_eq.mp h
    obtain ⟨hp, h⟩ := compareLex_eq_eq.mp h
    obtain ⟨ho, hg⟩ := compareLex_eq_eq.mp h
    cases a; cases b
    simp only [Statement.mk.injEq]
    exact ⟨Std.LawfulEqOrd.eq_of_compare hs, Std.LawfulEqOrd.eq_of_compare hp,
      Std.LawfulEqOrd.eq_of_compare ho, Std.LawfulEqOrd.eq_of_compare hg⟩

end Statement

end OntoWrap
