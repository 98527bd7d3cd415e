/-!
# Language tags

A literal may carry the tag of its language.  A tag is a sequence of subtags of at most eight
letters and digits: a language with its extensions, a script, a region, variants, extensions after a
single letter or digit, and private parts after an `x`, in this order.  A few older tags are listed
whole.
-/
namespace OntoWrap.LanguageTag

/-! ## 1. Subtags -/

/-- Tags that are listed whole, in lower case. -/
def registered : List String := [
  "art-lojban", "cel-gaulish", "en-gb-oed", "i-ami", "i-bnn", "i-default", "i-enochian", "i-hak",
  "i-klingon", "i-lux", "i-mingo", "i-navajo", "i-pwn", "i-tao", "i-tay", "i-tsu", "no-bok",
  "no-nyn", "sgn-be-fr", "sgn-be-nl", "sgn-ch-de", "zh-guoyu", "zh-hakka", "zh-min", "zh-min-nan",
  "zh-xiang"]

/-- Whether all characters are letters. -/
def isAlphabetic (subtag : List Char) : Bool := subtag.all Char.isAlpha

/-- Whether some characters may be a subtag: one to eight letters and digits. -/
def isSubtag (subtag : List Char) : Bool :=
  subtag ≠ [] && subtag.length ≤ 8 && subtag.all Char.isAlphanum

/-- Whether a subtag may be a variant: five or more characters, or four after a digit. -/
def isVariant (subtag : List Char) : Bool :=
  match subtag with
  | [] => false
  | c :: _ => (c.isAlpha && 5 ≤ subtag.length) || (c.isDigit && 4 ≤ subtag.length)

/-! ## 2. Order of the subtags -/

/-- Which part of a tag has been read. -/
inductive Part where
  | start
  /-- A short language, and how many of its extensions. -/
  | language (extensions : Nat)
  /-- A language that takes no extension of its own. -/
  | longLanguage
  | script
  /-- A region or a variant. -/
  | region
  /-- An extension; whether it still lacks a subtag. -/
  | extension (bare : Bool)
  /-- Private parts; whether there still is none. -/
  | privateUse (bare : Bool)
  deriving DecidableEq

namespace Part

/-- Parts after which a script may follow. -/
def admitsScript : Part → Bool
  | language _ => true
  | longLanguage => true
  | _ => false

/-- Parts after which a region may follow. -/
def admitsRegion (part : Part) : Bool := part.admitsScript || part = script

/-- Parts after which a variant may follow. -/
def admitsVariant (part : Part) : Bool := part.admitsRegion || part = region

/-- Whether a tag may end after a part. -/
def mayEnd : Part → Bool
  | extension bare => !bare
  | privateUse bare => !bare
  | _ => true

/-- The part of the next subtag, if it may follow. -/
def next? (part : Part) (subtag : List Char) : Option Part :=
  if !isSubtag subtag then none
  else
    match part with
    | start =>
      if subtag.length < 2 || !isAlphabetic subtag then none
      else some (if subtag.length < 4 then language 0 else longLanguage)
    | privateUse _ => some (privateUse false)
    | part =>
      if subtag.length = 1 then
        if part = extension true then none
        else some (if subtag = ['x'] ∨ subtag = ['X'] then privateUse true else extension true)
      else
        match part with
        | extension _ => some (extension false)
        | language n =>
          if subtag.length = 3 ∧ isAlphabetic subtag then
            if n < 3 then some (language (n + 1)) else none
          else later subtag part
        | _ => later subtag part
where
  /-- Scripts, regions and variants. -/
  later (subtag : List Char) (part : Part) : Option Part :=
    if part.admitsScript && subtag.length = 4 && isAlphabetic subtag then some script
    else if part.admitsRegion && ((subtag.length = 2 && isAlphabetic subtag)
        || (subtag.length = 3 && subtag.all Char.isDigit)) then some region
    else if part.admitsVariant && isVariant subtag then some region
    else none

end Part

/-- Whether some subtags are a tag. -/
def areSubtags (subtags : List (List Char)) : Bool :=
  match subtags.foldlM Part.next? Part.start with
  | some part => part.mayEnd
  | none => false

/-! ## 3. Tags -/

/-- Whether a text is a language tag. -/
def isWellFormed (tag : List Char) : Bool :=
  let lowered := tag.map Char.toLower
  if registered.contains (String.ofList lowered) then true
  else
    match lowered with
    | 'x' :: '-' :: rest => (rest.splitOn '-').all isSubtag
    | _ => areSubtags (tag.splitOn '-')

end OntoWrap.LanguageTag
