import Flowbook.Json.Reading

namespace Flowbook.Json

/-!
Records written in JSON: as an object with named fields in any order, or as an
array of the fields in their order, of which the last may be left off. Fields
that a record does not have are passed over, and no field may occur twice.

A record is read into a draft, field by field in the order of the text, so
that the first thing wrong with a text is what is reported.
-/

inductive Fault where
  | malformed
  /-- A label that names no outlet or inlet. -/
  | unknownLabel (label : String)
deriving DecidableEq

/-- A field of a record that is read into drafts of type `σ`: its names, whether a draft
has it, and how its value is added. -/
structure RecordField (σ : Type) where
  names : List String
  isGiven : σ → Bool
  add : Value → σ → Except Fault σ

/-- The field with a draft's value, which is empty until the field is read. -/
def RecordField.ofLens {σ α : Type} (names : List String) (get : σ → Option α)
    (set : σ → Option α → σ) (decode : Value → Except Fault α) : RecordField σ where
  names := names
  isGiven := fun draft => (get draft).isSome
  add := fun value draft => (decode value).map (fun content => set draft (some content))

def addEntry {σ : Type} (fields : List (RecordField σ)) (draft : σ) (entry : String × Value) :
    Except Fault σ :=
  match fields.find? (fun field => field.names.contains entry.1) with
  | none => if entry.2.isIntact then .ok draft else .error .malformed
  | some field =>
    if field.isGiven draft then .error .malformed else field.add entry.2 draft

def addEntries {σ : Type} (fields : List (RecordField σ)) (draft : σ) :
    List (String × Value) → Except Fault σ
  | [] => .ok draft
  | entry :: rest => do addEntries fields (← addEntry fields draft entry) rest

def addItems {σ : Type} (fields : List (RecordField σ)) (draft : σ) :
    List Value → Except Fault σ
  | [] => .ok draft
  | item :: rest =>
    match fields with
    | [] => .error .malformed
    | field :: others => do addItems others (← field.add item draft) rest

def readDraft {σ : Type} (fields : List (RecordField σ)) (draft : σ) : Value → Except Fault σ
  | .object entries => addEntries fields draft entries
  | .array items => addItems fields draft items
  | _ => .error .malformed

def required {α : Type} : Option α → Except Fault α
  | some content => .ok content
  | none => .error .malformed

/-- A natural number below a bound. -/
def decodeNat (bound : Nat) : Value → Except Fault (Fin bound)
  | .number number =>
    match number.natural? with
    | some n => if fits : n < bound then .ok ⟨n, fits⟩ else .error .malformed
    | none => .error .malformed
  | _ => .error .malformed

def decodeText : Value → Except Fault String
  | .text value => .ok value
  | _ => .error .malformed

def decodeOption {α : Type} (decode : Value → Except Fault α) : Value → Except Fault (Option α)
  | .null => .ok none
  | value => (decode value).map some

def decodeItems {α : Type} (decode : Value → Except Fault α) :
    List Value → Except Fault (List α)
  | [] => .ok []
  | item :: rest => do
    let content ← decode item
    let contents ← decodeItems decode rest
    .ok (content :: contents)

def decodeList {α : Type} (decode : Value → Except Fault α) : Value → Except Fault (List α)
  | .array items => decodeItems decode items
  | _ => .error .malformed

/-- One of several names, given as a text or as the only key of an object with `null`. -/
def decodeName {α : Type} (ofName? : String → Option α) : Value → Except Fault α
  | .text name => required (ofName? name)
  | .object [(name, .null)] => required (ofName? name)
  | _ => .error .malformed

/-- Reads a whole text, after which nothing may follow. -/
def decodeDocument {α : Type} (decode : Value → Except Fault α) (text : String) :
    Except Fault α := do
  let (value, atEnd) := read text
  let content ← decode value
  if atEnd then .ok content else .error .malformed

end Flowbook.Json
