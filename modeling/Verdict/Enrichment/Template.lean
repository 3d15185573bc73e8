import Verdict.Context
import Verdict.Json.Printer
import Verdict.Text.Blank

/-!
# Templates

A text may refer to values of a context by dot paths between double braces.  `Template.parts` cuts a
text into pieces without looking into the values; `Template.fill` puts the values in.
-/

namespace Verdict.Template

inductive Part where
  | plain (text : List Char)
  | reference (path : List Char)
deriving DecidableEq

def isPathChar (c : Char) : Bool :=
  c != '\x7b' && c != '\x7d' && !Text.isBlank c

/-- Reads a reference at the start of a text: two braces, a path, which blanks may surround, and
two braces. -/
def reference? : List Char → Option (List Char × List Char)
  | '\x7b' :: '\x7b' :: rest =>
    let rest := Text.trimStart rest
    let path := rest.takeWhile isPathChar
    if path.isEmpty then none
    else
      match Text.trimStart (rest.dropWhile isPathChar) with
      | '\x7d' :: '\x7d' :: rest => some (path, rest)
      | _ => none
  | _ => none

def prepend (c : Char) : List Part → List Part
  | .plain text :: rest => .plain (c :: text) :: rest
  | parts => .plain [c] :: parts

/-- The pieces of a text; the fuel is the length of the text. -/
def partsLoop (fuel : Nat) (text : List Char) : List Part :=
  match fuel, text with
  | fuel + 1, c :: rest =>
    match reference? (c :: rest) with
    | some (path, rest) => .reference path :: partsLoop fuel rest
    | none => prepend c (partsLoop fuel rest)
  | _, _ => []

def parts (text : List Char) : List Part :=
  partsLoop text.length text

/-- A value inside a text: a text as it is, anything else as compact JSON. -/
def textOf : Json → String
  | .string text => text
  | value => value.render

/-- The value at a path, unless there is none or it is `null`. -/
def resolve (context : Context) (path : List Char) : Option Json :=
  (context.get? (String.ofList path)).filter fun value => !value.isNull

def fillParts (context : Context) : List Part → Option String
  | [] => some ""
  | .plain text :: rest => (fillParts context rest).map (String.ofList text ++ ·)
  | .reference path :: rest =>
    (resolve context path).bind fun value =>
      (fillParts context rest).map (textOf value ++ ·)

/-- A value with the references of its text filled in, if every one of them has a value.  Only a
text has references. -/
def fill (context : Context) (value : Json) : Option Json :=
  match value with
  | .string text =>
    match parts text.toList with
    | [.reference path] => resolve context path
    | pieces => (fillParts context pieces).map .string
  | other => some other

end Verdict.Template
