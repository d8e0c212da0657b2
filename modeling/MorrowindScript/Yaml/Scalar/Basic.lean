import MorrowindScript.Text.Utf8
import MorrowindScript.Yaml.Character

/-!
# Scalars

A scalar is a piece of text. Written without quotes it may also be a word for nothing. A tag says what
kind of value is meant; text that is no such value is a fault.

* `Yaml.Scalar`: a piece of text with its tag.
* `Yaml.Scalar.value?`: the bytes it stands for.
-/

namespace MorrowindScript.Yaml

/-- A piece of text in a document. -/
structure Scalar where
  /-- Written without quotes, so that it may also stand for nothing. -/
  plain : Bool
  /-- The text. -/
  text : List Char
  /-- The tag. -/
  tag : Option (List Char) := none
  deriving DecidableEq, Repr

/-! ## Kinds of values -/

/-- The words for nothing. -/
def nullWords : List String := ["", "~", "null", "Null", "NULL"]

/-- The words for a truth value. -/
def truthWords : List String := ["true", "True", "TRUE", "false", "False", "FALSE"]

/-- The words for numbers that are not finite, without a sign. -/
def boundlessWords : List String := [".inf", ".Inf", ".INF", ".nan", ".NaN", ".NAN"]

/-- The text is one of some words. -/
def isWord (words : List String) (text : List Char) : Bool :=
  words.any (·.toList == text)

/-- The text without a sign. -/
def dropSign (text : List Char) : List Char :=
  match text with
  | '+' :: rest => rest
  | '-' :: rest => rest
  | _ => text

/-- At least one digit, and digits only. -/
def isDigits (isDigit : Char → Bool) (text : List Char) : Bool :=
  !text.isEmpty && text.all isDigit

/-- A whole number, which may have underscores between its digits. -/
def isInteger (text : List Char) : Bool :=
  match dropSign (text.filter (· != '_')) with
  | '0' :: 'x' :: digits => isDigits (hexDigit? · |>.isSome) digits
  | '0' :: 'o' :: digits => isDigits (fun c => '0' ≤ c && c ≤ '7') digits
  | '0' :: 'b' :: digits => isDigits (fun c => c == '0' || c == '1') digits
  | digits => isDigits Char.isDigit digits

/-- The digits of an exponent, or nothing. -/
def isExponent (text : List Char) : Bool :=
  match text with
  | [] => true
  | c :: rest => (c == 'e' || c == 'E') && isDigits Char.isDigit (dropSign rest)

/-- A number with a decimal point or an exponent. -/
def isDecimal (text : List Char) : Bool :=
  let text := dropSign text
  let whole := text.takeWhile Char.isDigit
  match text.dropWhile Char.isDigit with
  | '.' :: rest =>
    !(whole.isEmpty && (rest.takeWhile Char.isDigit).isEmpty) &&
      isExponent (rest.dropWhile Char.isDigit)
  | rest => !whole.isEmpty && isExponent rest

/-- A number. -/
def isNumber (text : List Char) : Bool :=
  isInteger text || isDecimal (text.filter (· != '_')) || isWord boundlessWords (dropSign text)

/-- What a tag of the language itself asks of a text; other tags ask nothing. -/
def tagCondition (tag : List Char) (text : List Char) : Bool :=
  if tag == "!!null".toList then isWord nullWords text
  else if tag == "!!bool".toList then isWord truthWords text
  else if tag == "!!int".toList then isInteger text
  else if tag == "!!float".toList then isNumber text
  else true

namespace Scalar

/-- What is meant where nothing is written. -/
def absent : Scalar := { plain := true, text := [] }

/-- The scalar stands for nothing. -/
def isNull (s : Scalar) : Bool :=
  match s.tag with
  | none => s.plain && isWord nullWords s.text
  | some tag => tag == "!!null".toList && isWord nullWords s.text

/-- The text in UTF-8. -/
def bytes (s : Scalar) : Bytes :=
  s.text.flatMap fun c => Utf8.encode c.toNat

/-- The bytes that the scalar stands for, if it stands for anything; nothing at all if its text is not
what its tag asks for. -/
def value? (s : Scalar) : Option (Option Bytes) :=
  if s.tag.all (tagCondition · s.text) then some (if s.isNull then none else some s.bytes)
  else none

/-- The key under which a mapping takes in others. -/
def isMerge (s : Scalar) : Bool :=
  s.text == ['<', '<'] &&
    match s.tag with
    | none => s.plain
    | some tag => tag == "!!merge".toList

end Scalar

end MorrowindScript.Yaml
