import OntoWrap.Document.Reader

/-!
# Turtle and TriG documents

Turtle writes statements as sentences: a subject, then predicates with their objects, and a dot at
the end.  IRIs may be shortened by prefixes or a base, blank nodes may be written by what is said of
them between square brackets, and lists between parentheses.  TriG adds graphs: a name and sentences
between braces.

Brackets nest down to `maxDepth`; the readers for one depth are made from those for the next.
-/
namespace OntoWrap.Document.Turtle

open Reader Vocabulary
open Text (Lexer afterText?)

/-! ## 1. Terms -/

/-- An IRI between angle brackets or with a prefix. -/
def iri : Reader Term := do
  if ← sees "<" then
    let base := (← get).base
    return .iri (String.ofList (← lex (iriReference base)).toChars)
  else
    let namespaceName ← lex prefixName
    let name ← lex localName
    match (← get).prefixes.lookup namespaceName with
    | some start => return .iri (start ++ name)
    | none => refuse

/-- Square brackets with nothing but spaces and comments between them. -/
def emptyBrackets : Lexer Unit := fun cs => do
  fixed "]" (afterSpace (← afterText? ['['] cs))

/-- A blank node with a label or empty brackets. -/
def blank : Reader Term := do
  match ← lex? emptyBrackets with
  | some () => fresh
  | none => return .blank (setApart (← lex blankLabel))

/-- The word `a` for the predicate that gives a type, unless a name goes on behind it. -/
def typeWord : Lexer Unit := fun cs => do
  let rest ← afterText? ['a'] cs
  if rest.head?.any fun c => goesOn c || c == '.' || c == ':' then none else some ((), rest)

/-- A predicate. -/
def verb : Reader Term := do
  match ← lex? typeWord with
  | some () => return .iri rdfType
  | none => iri

/-- A text with its language, its datatype, or neither. -/
def text : Reader Term := do
  let lexical ← lex quotedText
  skipSpace
  if ← sees "@" then
    let _ ← lex languageTag
    return .literal lexical (some rdfLangString)
  else if ← accept "^^" then
    skipSpace
    return .literal lexical (← iri).asIri?
  else return .literal lexical (some xsdString)

/-- Whether a character begins a text or a number. -/
def beginsValue (c : Char) : Bool :=
  c == '"' || c == '\'' || c == '+' || c == '-' || c == '.' || c.isDigit

/-- A literal that begins with a given character. -/
def literal (first : Char) : Reader Term := do
  if first = '"' ∨ first = '\'' then text
  else
    let (lexical, datatype) ← lex number
    return .literal lexical (some datatype)

/-- A term without brackets around parts of it. -/
def simpleTerm : Reader Term := do
  match ← peek? with
  | none => refuse
  | some c =>
    if c = '_' ∨ c = '[' then blank
    else if beginsValue c then literal c
    else
      match ← lex? truthValue with
      | some word => return .literal word (some xsdBoolean)
      | none => iri

/-- A term that is no literal. -/
def resource : Reader Term := do
  if (← sees "_") || (← sees "[") then blank else iri

/-! ## 2. Quoted statements -/

/-- A quoted statement with further ones inside, down to a depth. -/
def quoted : Nat → Reader Node
  | 0 => refuse
  | depth + 1 => do
    expect "<<"
    skipSpace
    if ← sees "<<" then discard (quoted depth) else discard resource
    skipSpace
    discard verb
    skipSpace
    if ← sees "<<" then discard (quoted depth) else discard simpleTerm
    skipSpace
    expect ">>"
    return .quoted

/-! ## 3. Predicates and objects -/

/-- What the next part of a list of predicates and objects is about. -/
structure Focus where
  subject : Node
  /-- The predicate, if only an object is to come. -/
  predicate : Option Term
  /-- Subjects and predicates of the sentences with an open annotation, innermost first. -/
  enclosing : List (Node × Term)

/-- Passes over semicolons, and says whether there were any. -/
def semicolons : Reader Bool :=
  iterate (fun seen => do
    if ← accept ";" then
      skipSpace
      return .again true
    else return .done seen) false

/-- Whether nothing more can be said of a subject after a semicolon. -/
def listEnds : Reader Bool := return (← peek?).all fun c => ".]|\x7d".toList.contains c

/-- Finds out how a list goes on after an object: with a further object, with a further predicate,
behind the annotation that ends here, or not at all. -/
def afterObject (subject : Node) (predicate : Term) (enclosing : List (Node × Term)) :
    Reader (Step Focus Unit) := do
  skipSpace
  if ← accept "," then
    skipSpace
    return .again ⟨subject, some predicate, enclosing⟩
  else if (← semicolons) && !(← listEnds) then return .again ⟨subject, none, enclosing⟩
  else
    match enclosing with
    | [] => return .done ()
    | (outerSubject, outerPredicate) :: outer =>
      expect "|\x7d"
      afterObject outerSubject outerPredicate outer

/-- Reads one object, with the predicate in front of it if that is still to come. -/
def sentencePart (object : Reader Node) (focus : Focus) : Reader (Step Focus Unit) := do
  let predicate ← match focus.predicate with
    | some predicate => pure predicate
    | none => do
      let predicate ← verb
      skipSpace
      pure predicate
  let value ← object
  state focus.subject predicate value
  skipSpace
  if ← accept "\x7b|" then
    skipSpace
    return .again ⟨.quoted, none, (focus.subject, predicate) :: focus.enclosing⟩
  else afterObject focus.subject predicate focus.enclosing

/-- Reads all that is said of a subject. -/
def predicateObjects (object : Reader Node) (subject : Node) : Reader Unit :=
  iterate (sentencePart object) ⟨subject, none, []⟩

/-! ## 4. Brackets -/

/-- The node that the sentences up to a closing square bracket are about; there is at least one. -/
def propertyList (object : Reader Node) : Reader Node := do
  expect "["
  let node ← fresh
  skipSpace
  iterate (fun () => do
    predicateObjects object (.term node)
    skipSpace
    if ← accept "]" then return .done () else return .again ()) ()
  return .term node

/-- The first cell of the list of the elements up to a closing parenthesis.  The state holds the
first and the latest cell. -/
def collection (object : Reader Node) : Reader Node := do
  expect "("
  iterate (fun (ends : Option (Term × Term)) => do
    skipSpace
    if ← accept ")" then
      match ends with
      | none => return .done (.term (.iri rdfNil))
      | some (first, latest) =>
        state (.term latest) (.iri rdfRest) (.term (.iri rdfNil))
        return .done (.term first)
    else
      let cell ← fresh
      if let some (_, latest) := ends then state (.term latest) (.iri rdfRest) (.term cell)
      state (.term cell) (.iri rdfFirst) (← object)
      return .again (some ((ends.map (·.1)).getD cell, cell))) none

/-- Square brackets with nothing but spaces, and no comment, between them. -/
def closedBrackets : Lexer Unit := fun cs => do
  fixed "]" ((← afterText? ['['] cs).dropWhile isSpace)

/-- Whether a property list comes next.  A square bracket begins one unless only spaces stand before
the bracket that closes it. -/
def seesPropertyList : Reader Bool :=
  return (← sees "[") && !(← seesLexeme closedBrackets)

/-- An object, with readers for brackets and for quoted statements in it. -/
def objectWith (brackets quoted : Reader Node) : Reader Node := do
  if ← sees "<<" then quoted
  else if (← sees "(") || (← seesPropertyList) then brackets
  else return .term (← simpleTerm)

/-- A property list or a collection with further brackets inside, down to a depth. -/
def brackets : Nat → Reader Node
  | 0 => refuse
  | depth + 1 => do
    let object := objectWith (brackets depth) (quoted depth)
    if ← sees "[" then propertyList object else collection object

/-- An object. -/
def object : Reader Node := objectWith (brackets maxDepth) (quoted maxDepth)

/-! ## 5. Sentences and directives -/

/-- A subject other than a property list. -/
def subject : Reader Node := do
  if ← sees "<<" then quoted maxDepth
  else if ← sees "(" then brackets maxDepth
  else return .term (← resource)

/-- A sentence without its dot.  After a property list, nothing more need be said. -/
def sentence : Reader Unit := do
  if ← seesPropertyList then
    let node ← brackets maxDepth
    skipSpace
    unless (← sees ".") || (← sees "\x7d") do predicateObjects object node
  else
    let node ← subject
    skipSpace
    predicateObjects object node

/-- Sets the base. -/
def setBase : Reader Unit := do
  skipSpace
  let base := (← get).base
  let iri ← lex (iriReference base)
  modify fun cursor => { cursor with base := some iri }

/-- Sets what a prefix stands for. -/
def setPrefix : Reader Unit := do
  skipSpace
  let name ← lex prefixName
  skipSpace
  let base := (← get).base
  let start ← lex (iriReference base)
  modify fun cursor =>
    { cursor with prefixes := (name, String.ofList start.toChars) :: cursor.prefixes }

/-- A directive if one comes next, and whether it did.  Only directives with an at sign end in a
dot. -/
def directive : Reader Bool := do
  if ← accept "@prefix" then setPrefix; skipSpace; expect "."; return true
  else if ← accept "@base" then setBase; skipSpace; expect "."; return true
  else if ← acceptKeyword "BASE" then setBase; return true
  else if ← acceptKeyword "PREFIX" then setPrefix; return true
  else return false

/-! ## 6. Graphs -/

/-- Sentences between braces, with dots between them. -/
def graphBody : Reader Unit := do
  expect "\x7b"
  iterate (fun () => do
    skipSpace
    if ← accept "\x7d" then return .done ()
    else
      sentence
      if ← accept "." then return .again ()
      else
        expect "\x7d"
        return .done ()) ()

/-- A graph or a sentence of TriG.  A sentence outside of braces ends in a dot. -/
def block : Reader Unit := do
  if ← acceptKeyword "GRAPH" then
    skipSpace
    let name ← resource
    skipSpace
    inGraph name graphBody
  else if ← sees "\x7b" then graphBody
  else if (← seesPropertyList) || (← sees "(") || (← sees "<<") then
    sentence
    expect "."
  else
    let name ← resource
    skipSpace
    if ← sees "\x7b" then inGraph name graphBody
    else
      predicateObjects object (.term name)
      expect "."

/-! ## 7. Documents -/

/-- Reads part after part up to the end. -/
def parts (part : Reader Unit) : Reader Unit :=
  iterate (fun () => do
    skipSpace
    if (← peek?).isNone then return .done ()
    else
      unless ← directive do part
      return .again ()) ()

/-- Reads a Turtle document, or a TriG document if `graphs` is set. -/
def read (graphs : Bool) (cs : List Char) : Option Contents :=
  readWhole (parts (if graphs then block else do sentence; expect ".")) cs

end OntoWrap.Document.Turtle
