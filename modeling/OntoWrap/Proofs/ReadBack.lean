import OntoWrap.Proofs.QtInitializers
import OntoWrap.Proofs.RustTagging
import OntoWrap.Rdf.Term

/-!
# Reading back what was escaped

IRIs and literals hold any characters and stand between marks in what is written: between quotes in
Rust code and in displayed terms, in a string literal of a Qt header.  Each form has a reader that
gives the text back.

* A quoted text holds no line end, whichever characters are plain
  (`Text.ne_lineEnd_of_mem_quoteBy`), so a literal is read within its line; the IRI of a class and
  those of its properties are read back from the `impl` block of the class
  (`Rust.typeUri?_implLines`, `Rust.keys_implLines`).
* A displayed term tells by its first character of which kind it is, and a literal tells by the
  quote that closes it where its datatype begins.  So terms are read back
  (`Term.ofDisplay?_displayBy`) and different terms are displayed differently.
* In a Qt literal, backslashes are doubled before a backslash is put before each quote
  (`Qt.escapeChars_eq`).  In the other order the backslashes before the quotes would be doubled too.
-/
namespace OntoWrap

/-! ## 1. Quoted texts -/

namespace Text

theorem exists_digitChar_of_mem_toDigits {n : Nat} {c : Char} (h : c ∈ Nat.toDigits 16 n) :
    ∃ d < 16, c = Nat.digitChar d := by
  induction n using Nat.strong_induction_on with
  | _ n ih =>
    by_cases hsmall : n < 16
    · rw [Nat.toDigits_of_lt_base hsmall, List.mem_singleton] at h
      exact ⟨n, hsmall, h⟩
    · rw [Nat.toDigits_of_base_le (by decide) (by omega), List.mem_append, List.mem_singleton] at h
      rcases h with h | h
      · exact ih (n / 16) (by omega) h
      · exact ⟨n % 16, Nat.mod_lt _ (by decide), h⟩

theorem ne_lineEnd_of_mem_codePointEscape {c d : Char} (h : d ∈ codePointEscape c) :
    d ≠ '\n' ∧ d ≠ '\r' := by
  have hdigits : ∀ k < 16, Nat.digitChar k ≠ '\n' ∧ Nat.digitChar k ≠ '\r' := by decide
  have hopen : ∀ d ∈ ['\\', 'u', '\x7b'], d ≠ '\n' ∧ d ≠ '\r' := by simp
  have hclose : ∀ d ∈ ['\x7d'], d ≠ '\n' ∧ d ≠ '\r' := by simp
  rw [codePointEscape, List.mem_append, List.mem_append] at h
  rcases h with (h | h) | h
  · exact hopen d h
  · obtain ⟨k, hk, rfl⟩ := exists_digitChar_of_mem_toDigits h
    exact hdigits k hk
  · exact hclose d h

theorem ne_lineEnd_of_mem_escapeChar {plain : Char → Bool} {c d : Char}
    (h : d ∈ escapeChar plain c) : d ≠ '\n' ∧ d ≠ '\r' := by
  have hletters : ∀ letter ∈ ['0', 't', 'r', 'n', '\\', '"'], ∀ d ∈ ['\\', letter],
      d ≠ '\n' ∧ d ≠ '\r' := by simp
  unfold escapeChar at h
  split_ifs at h with hnull htab hreturn hline hbackslash hquote hplain
  · exact hletters '0' (by decide) d h
  · exact hletters 't' (by decide) d h
  · exact hletters 'r' (by decide) d h
  · exact hletters 'n' (by decide) d h
  · exact hletters '\\' (by decide) d h
  · exact hletters '"' (by decide) d h
  · rw [List.mem_singleton.mp h]
    exact ⟨hline, hreturn⟩
  · exact ne_lineEnd_of_mem_codePointEscape h

/-- **A quoted text stands in one line**, even if line ends count as plain. -/
theorem ne_lineEnd_of_mem_quoteBy {plain : Char → Bool} {s : String} {d : Char}
    (h : d ∈ (quoteBy plain s).toList) : d ≠ '\n' ∧ d ≠ '\r' := by
  rw [quoteBy, String.toList_ofList, List.mem_append, List.mem_cons, List.mem_singleton] at h
  rcases h with (rfl | h) | rfl
  · decide
  · obtain ⟨c, -, hd⟩ := List.mem_flatMap.mp h
    exact ne_lineEnd_of_mem_escapeChar hd
  · decide

end Text

/-! ## 2. Displayed terms -/

namespace Term

open Text.Source (between? between?_eq_none between?_eq_some_iff)

/-- What is displayed of a datatype behind a literal. -/
def suffix : Option String → String
  | none => ""
  | some datatype => "^^<" ++ datatype ++ ">"

/-- The term as it is written in a line of triples, for a given choice of plain characters. -/
def displayBy (plain : Char → Bool) : Term → String
  | iri name => "<" ++ name ++ ">"
  | blank label => "_:" ++ label
  | literal lexical datatype => Text.quoteBy plain lexical ++ suffix datatype

theorem display_eq_displayBy (t : Term) : t.display = t.displayBy Text.isPlain := by
  rcases t with name | label | ⟨lexical, _ | datatype⟩
  · rfl
  · rfl
  · exact String.append_empty.symm
  · rw [display, displayBy, suffix, Text.quote]
    simp only [String.append_assoc]

/-- Reads the datatype from what stands behind a literal. -/
def datatypeOf? (text : String) : Option (Option String) :=
  if text = "" then some none else (between? "^^<" ">" text).map some

theorem datatypeOf?_suffix (datatype : Option String) :
    datatypeOf? (suffix datatype) = some datatype := by
  cases datatype with
  | none => rfl
  | some datatype =>
    have hread : between? "^^<" ">" (suffix (some datatype)) = some datatype :=
      between?_eq_some_iff.mpr rfl
    have hne : suffix (some datatype) ≠ "" := by
      rw [suffix, ne_eq, ← String.toList_inj]
      simp
    rw [datatypeOf?, if_neg hne, hread]
    rfl

/-- Reads a term from what is displayed of it. -/
def ofDisplay? (text : String) : Option Term :=
  match Text.literal text.toList with
  | some (lexical, rest) => (datatypeOf? (String.ofList rest)).map (literal lexical)
  | none => (between? "<" ">" text).map iri <|> (between? "_:" "" text).map blank

/-- **A displayed term is read back**, whichever characters are plain. -/
theorem ofDisplay?_displayBy (plain : Char → Bool) (t : Term) :
    ofDisplay? (t.displayBy plain) = some t := by
  cases t with
  | iri name =>
    have hliteral : Text.literal ("<" ++ name ++ ">").toList = none := by simp [Text.literal]
    have hread : between? "<" ">" ("<" ++ name ++ ">") = some name := between?_eq_some_iff.mpr rfl
    rw [displayBy, ofDisplay?, hliteral]
    simp [hread]
  | blank label =>
    have hliteral : Text.literal ("_:" ++ label).toList = none := by simp [Text.literal]
    have hiri : between? "<" ">" ("_:" ++ label) = none :=
      between?_eq_none (by simp [Text.afterText?])
    have hread : between? "_:" "" ("_:" ++ label) = some label :=
      between?_eq_some_iff.mpr String.append_empty.symm
    rw [displayBy, ofDisplay?, hliteral]
    simp [hiri, hread]
  | literal lexical datatype =>
    rw [displayBy, ofDisplay?, String.toList_append, Text.literal_quoteBy]
    simp only [String.ofList_toList, datatypeOf?_suffix, Option.map_some]

/-- **Different terms are displayed differently.** -/
theorem displayBy_injective (plain : Char → Bool) : Function.Injective (displayBy plain) := by
  intro t u hsame
  have hread := ofDisplay?_displayBy plain t
  rw [hsame, ofDisplay?_displayBy] at hread
  exact (Option.some.inj hread).symm

/-- A lexical form may hold what looks like the end of a literal and a datatype. -/
example : (literal "a\"^^<b>" none).display ≠ (literal "a" (some "b>\"")).display := by decide

end Term

/-! ## 3. IRIs in Rust code -/

namespace Rust

open Text Text.Source

/-- The literal that a line hands to a method of the resource as the first argument. -/
def key? (line : String) : Option String :=
  (afterText? "self.resource.".toList line.toList).bind fun call =>
    (literal (call.dropWhile (· != '(')).tail).map fun (iri, _) => iri

/-- The literals that the methods of an `impl` block hand to the resource, in order. -/
def keys (lines : List String) : List String :=
  (methods lines).flatMap fun (_, body) => body.filterMap key?

theorem key?_eq_none {line : String} (h : afterText? "self.resource.".toList line.toList = none) :
    key? line = none := by
  rw [key?, h, Option.bind_none]

/-- **A call is read as it was written**, whatever characters the IRI has. -/
theorem key?_call {method : String} (hmethod : '(' ∉ method.toList) (iri rest : String) :
    key? ("self.resource." ++ (method ++ ("(" ++ (quote iri ++ rest)))) = some iri := by
  have hread : afterText? "self.resource.".toList
      ("self.resource." ++ (method ++ ("(" ++ (quote iri ++ rest)))).toList
        = some (method.toList ++ '(' :: ((quote iri).toList ++ rest.toList)) :=
    afterText?_eq_some_iff.mpr (by simp)
  have hopen : ∀ c ∈ method.toList, (c != '(') = true := by
    intro c hc
    rw [bne_iff_ne]
    rintro rfl
    exact hmethod hc
  rw [key?, hread, Option.bind_some, List.dropWhile_append_of_pos hopen,
    List.dropWhile_cons_of_neg (by simp), List.tail_cons, quote, literal_quoteBy]
  rfl

/-- The keys of a public method are those of the lines of its body. -/
theorem keys_block (rest : String) (body m : List String) :
    keys (block ("pub fn " ++ rest) body ++ m) = body.filterMap key? ++ keys m := by
  have hdeclares : (declaredMethod? ("pub fn " ++ rest ++ " \x7b")).isSome = true := by
    rw [String.append_assoc, declaredMethod?_ofList_append]
    rfl
  obtain ⟨name, hname⟩ := Option.isSome_iff_exists.mp hdeclares
  rw [keys, methods_block, hname]
  rfl

/-- A method of a property, with an empty line and a comment above it, hands over one IRI. -/
theorem keys_method {line iri : String} (h : key? line = some iri) (action : String) (a : Accessor)
    (rest : String) (m : List String) :
    keys ("" :: (accessorComment action a ++ (block ("pub fn " ++ rest) [line] ++ m))) =
      iri :: keys m := by
  rw [keys, methods_cons declaredMethod?_empty,
    methods_append (declaredMethods_accessorComment action a), ← keys, keys_block,
    List.filterMap_cons_some h, List.filterMap_nil, List.singleton_append]

/-- **Getter, setter and adder hand over the IRI of their property.** -/
theorem keys_accessorMethods (a : Accessor) (m : List String) :
    keys (accessorMethods a ++ m) = List.replicate 3 a.property ++ keys m := by
  have hvalues : key? ("self.resource." ++ ("values" ++ ("(" ++ (quote a.property ++ ")"))))
      = some a.property := key?_call (by decide) a.property ")"
  have hvalue : key? ("self.resource." ++ ("value" ++ ("(" ++ (quote a.property ++ ")"))))
      = some a.property := key?_call (by decide) a.property ")"
  have hset : ∀ rest, key? ("self.resource.set_values(" ++ (quote a.property ++ rest))
      = some a.property := key?_call (by decide : '(' ∉ "set_values".toList) a.property
  have hadd : ∀ rest, key? ("self.resource.add_value(" ++ (quote a.property ++ rest))
      = some a.property := key?_call (by decide : '(' ∉ "add_value".toList) a.property
  delta accessorMethods
  cases a.valueType.isCollection
  · simp only [String.append_assoc, List.append_assoc, List.cons_append, List.nil_append,
      Bool.false_eq_true, if_false]
    rw [keys_method hvalue, keys_method (hset _), keys_method (hadd _)]
    rfl
  · simp only [String.append_assoc, List.append_assoc, List.cons_append, List.nil_append, if_true]
    rw [keys_method hvalues, keys_method (hset _), keys_method (hadd _)]
    rfl

theorem keys_flatMap_accessorMethods (accessors : List Accessor) :
    keys (accessors.flatMap accessorMethods) =
      accessors.flatMap fun a => List.replicate 3 a.property := by
  induction accessors with
  | nil => rfl
  | cons a accessors ih =>
    rw [List.flatMap_cons, keys_accessorMethods, ih, List.flatMap_cons]

/-- A call that passes the type on hands nothing to the resource. -/
theorem key?_typeCall (call : TypeCall) : key? call.line = none := by
  refine key?_eq_none ?_
  rcases call with _ | (type | ⟨module, type⟩)
  · decide
  · simp [TypeCall.line, ClassPath.text, afterText?]
  · simp [TypeCall.line, ClassPath.text, afterText?]

theorem filterMap_key?_wrappingLines (unit : ClassUnit) :
    (wrappingLines unit).filterMap key? = [] := by
  have hopen : key? "let mut resource = res;" = none := by decide
  have hclose : key? "Self \x7b resource \x7d" = none := by decide
  refine List.filterMap_eq_nil_iff.mpr fun line hline => ?_
  simp only [wrappingLines, List.mem_append, List.mem_singleton, List.mem_map] at hline
  rcases hline with (rfl | ⟨call, -, rfl⟩) | rfl
  · exact hopen
  · exact key?_typeCall call
  · exact hclose

theorem filterMap_key?_initLines (unit : ClassUnit) : (initLines unit).filterMap key? = [] := by
  unfold initLines
  split
  · decide
  · rfl

/-- **Each property is asked for, set and added to by its IRI**, and no constructor hands anything
over. -/
theorem keys_implLines (runtime : String) (unit : ClassUnit) :
    keys (implLines runtime unit)
      = unit.accessors.flatMap fun a => List.replicate 3 a.property := by
  have hread := keys_flatMap_accessorMethods unit.accessors
  rw [keys] at hread
  rw [keys, methods_implLines, List.flatMap_append, hread]
  simp only [List.flatMap_cons, filterMap_key?_wrappingLines, filterMap_key?_initLines]
  rfl

end Rust

/-! ## 4. IRIs in Qt headers -/

namespace Qt

/-- Puts a backslash before every occurrence of a character. -/
def markBefore (mark : Char) (cs : List Char) : List Char :=
  cs.flatMap fun c => if c = mark then ['\\', c] else [c]

/-- **Backslashes are doubled first, and then quotes are marked**: the backslashes that mark quotes
are not doubled. -/
theorem escapeChars_eq (cs : List Char) :
    escapeChars cs = markBefore '"' (markBefore '\\' cs) := by
  have hchar : ∀ c : Char, (if c = '\\' ∨ c = '"' then ['\\', c] else [c])
      = markBefore '"' (if c = '\\' then ['\\', c] else [c]) := by
    intro c
    by_cases hbackslash : c = '\\'
    · subst hbackslash
      rfl
    · by_cases hquote : c = '"'
      · subst hquote
        rfl
      · simp [markBefore, hbackslash, hquote]
  rw [markBefore, markBefore, List.flatMap_assoc, escapeChars]
  exact List.flatMap_congr fun c _ => hchar c

/-- In the other order the backslash before the quote would be doubled. -/
example : escapeChars ['"'] ≠ markBefore '\\' (markBefore '"' ['"']) := by decide

/-- The literal in a URL expression is that of its IRI with both replacements made. -/
theorem urlExpr_eq (iri : String) : urlExpr iri = "QUrl::fromEncoded(\"" ++
    String.ofList (markBefore '"' (markBefore '\\' iri.toList)) ++ "\", QUrl::StrictMode)" := by
  have hescaped := escapeChars_eq iri.toList
  unfold urlExpr
  rw [hescaped]

end Qt

/-- **Escaping is undone by reading.**

- A quoted text is read back by the rules of string literals in Rust, whatever follows it and
  whichever characters are plain, and it holds no line end.  In the `impl` block of a class these
  texts are the IRI of the class and the IRIs that getters, setters and adders hand over.
- Terms that are displayed alike are the same.
- The string literal in a URL expression is that of its IRI with backslashes doubled and then quotes
  marked, and undoing this gives the IRI. -/
theorem escaping_reversible :
    (∀ plain s rest, Text.literal ((Text.quoteBy plain s).toList ++ rest) = some (s, rest) ∧
      ∀ c ∈ (Text.quoteBy plain s).toList, c ≠ '\n' ∧ c ≠ '\r') ∧
    (∀ runtime unit,
      Rust.typeUri? (Rust.implLines runtime unit) = some unit.self.iri ∧
      Rust.keys (Rust.implLines runtime unit) =
        unit.accessors.flatMap fun a => List.replicate 3 a.property) ∧
    (∀ plain, Function.Injective (Term.displayBy plain)) ∧ Function.Injective Term.display ∧
    ∀ iri, Qt.url? (Qt.urlExpr iri) = some iri ∧
      Qt.urlExpr iri = "QUrl::fromEncoded(\"" ++
        String.ofList (Qt.markBefore '"' (Qt.markBefore '\\' iri.toList))
          ++ "\", QUrl::StrictMode)" := by
  refine ⟨?_, ?_, Term.displayBy_injective, ?_, ?_⟩
  · intro plain s rest
    exact ⟨Text.literal_quoteBy plain s rest, fun c => Text.ne_lineEnd_of_mem_quoteBy⟩
  · intro runtime unit
    exact ⟨Rust.typeUri?_implLines runtime unit, Rust.keys_implLines runtime unit⟩
  · intro t u hsame
    rw [Term.display_eq_displayBy, Term.display_eq_displayBy] at hsame
    exact Term.displayBy_injective _ hsame
  · intro iri
    have h1 := Qt.url?_urlExpr iri
    have h2 := Qt.urlExpr_eq iri
    constructor
    · exact h1
    · exact h2

end OntoWrap
