import Verdict.Config.Document
import Verdict.Json.Reader

/-!
# Configurations from JSON text

A configuration is read from the tree of its text from left to right, so that the first problem of
the text is the one reported, be it a fault of the grammar or a value of the wrong shape.
-/

namespace Verdict.Config

open Json (Tree Quoted Ending)

/-- The problem with a value that does not have the shape it should have.  A value with a text of
its own is read first. -/
def misfit : Tree → Json.Fault
  | .array _ _ | .object _ _ => .mismatch
  | value =>
    match Json.ofTree 0 value with
    | .ok _ => .mismatch
    | .error fault => fault

def orMismatch {α : Type} : Option α → Except Json.Fault α
  | some value => .ok value
  | none => .error .mismatch

def readText : Tree → Except Json.Fault String
  | .string value => value.text
  | value => .error (misfit value)

def readBool : Tree → Except Json.Fault Bool
  | .bool value => .ok value
  | value => .error (misfit value)

def readCount : Tree → Except Json.Fault Nat
  | .number literal =>
    match literal.number? with
    | some value => orMismatch (count? (.number value))
    | none => .error .malformed
  | value => .error (misfit value)

/-! ## Records -/

section Record

variable {α : Type}

/-- Reads the fields of an object; `seen` holds the names met so far. -/
def readFields (names : List String) (read : String → Tree → α → Except Json.Fault α)
    (fault : Option Json.Fault) (seen : List String) (draft : α) :
    List (Quoted × Tree) → Except Json.Fault α
  | [] =>
    match fault with
    | none => .ok draft
    | some fault => .error fault
  | (name, value) :: rest => do
    let name ← name.text
    if names.contains name then
      if seen.contains name then .error .mismatch
      else readFields names read fault (name :: seen) (← read name value draft) rest
    else
      match value.grammarFault? with
      | some fault => .error fault
      | none => readFields names read fault seen draft rest

/-- Reads the items of an array as the fields in order.  Behind the last field the array has to
end. -/
def readItems (read : String → Tree → α → Except Json.Fault α) (ending : Ending) (draft : α) :
    List String → List Tree → Except Json.Fault α
  | [], [] =>
    match ending with
    | .closed => .ok draft
    | .broken fault => .error fault
    | .dangling _ => .error .malformed
  | [], _ :: _ => .error .malformed
  | _ :: _, [] =>
    match ending with
    | .closed => .ok draft
    | .broken fault | .dangling fault => .error fault
  | name :: names, item :: rest => do
    readItems read ending (← read name item draft) names rest

/-- Reads an object or an array at a place where `room` more levels are allowed. -/
def readRecord (names : List String) (read : Nat → String → Tree → α → Except Json.Fault α)
    (draft : α) (room : Nat) : Tree → Except Json.Fault α
  | .object fields fault =>
    match room with
    | 0 => .error .malformed
    | room + 1 => readFields names (read room) fault [] draft fields
  | .array items ending =>
    match room with
    | 0 => .error .malformed
    | room + 1 => readItems (read room) ending draft names items
  | value => .error (misfit value)

end Record

/-! ## Strategies -/

def readType (value : Tree) : Except Json.Fault String := do
  let type ← readText value
  if Strategy.types.contains type then .ok type else .error .mismatch

def readEntries (room : Nat) (fault : Option Json.Fault) (type : Option String)
    (entries : List (Option String × Json)) :
    List (Quoted × Tree) → Except Json.Fault (Strategy Float)
  | [] =>
    match fault with
    | some fault => .error fault
    | none => do
      orMismatch (Strategy.ofSettings? (← orMismatch type) (.named entries.reverse))
  | (name, value) :: rest => do
    let name ← name.text
    if name = Strategy.typeName then
      if type.isSome then .error .mismatch
      else readEntries room fault (some (← readType value)) entries rest
    else
      let value ← Json.ofTree room value
      readEntries room fault type ((some name, value) :: entries) rest

def readStrategy (room : Nat) : Tree → Except Json.Fault (Strategy Float)
  | .object fields fault =>
    match room with
    | 0 => .error .malformed
    | room + 1 => readEntries room fault none [] fields
  | .array items ending =>
    match room with
    | 0 => .error .malformed
    | room + 1 =>
      match items, ending with
      | [], .closed => .error .mismatch
      | [], .broken fault | [], .dangling fault => .error fault
      | type :: rest, ending => do
        let type ← readType type
        let items ← Json.ofItems room rest
        match ending with
        | .closed => orMismatch (Strategy.ofSettings? type (.listed items))
        | .broken fault | .dangling fault => .error fault
  | value => .error (misfit value)

/-! ## Configurations -/

def readAuditSetting (_ : Nat) (_ : String) (value : Tree) (_ : Option Nat) :
    Except Json.Fault (Option Nat) :=
  (readCount value).map some

def readSetting (room : Nat) (name : String) (value : Tree) (draft : Draft) :
    Except Json.Fault Draft :=
  match name with
  | "strategy" => do return { draft with strategy := some (← readStrategy room value) }
  | "decide_timeout" => do
    return { draft with timeLimit := some (← orMismatch (Duration.ofText? (← readText value))) }
  | "trace" => do return { draft with trace := some (← readBool value) }
  | _ => do
    return { draft with
      queueCapacity := ← readRecord [capacityName] readAuditSetting none room value }

/-- The configuration that a text gives. -/
def ofJsonText (text : String) : Except Json.Fault Config := do
  let document := Json.Document.read text.toList
  let draft ← readRecord names readSetting .empty Json.maxDepth document.value
  if document.trailing then .error .malformed else .ok (ofDraft draft)

end Verdict.Config
