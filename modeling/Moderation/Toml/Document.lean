import Moderation.Toml.Scalar

/-!
# `Moderation.Toml.Document`: documents as tables

A document is a sequence of statements, each of which puts a value at a path of keys, opens a
table or appends a table to a list. What a statement may touch depends on the statements before
it: a table is opened once, a value is written once, and what was written between brackets or
braces is complete.

* `insertAt` changes the table at a path, and makes the tables on the way.
* `parse?` reads a whole document, `reader` the bytes of one. How deep lists and tables may be
  nested in a value is left to the caller.
-/

set_option autoImplicit false

namespace Moderation.Toml

open Scan

/-- A path of keys. -/
abbrev Path := List String

/-- Whether some path of `frozen` leads to `path` or to something above it. -/
def isFrozen (frozen : List Path) (path : Path) : Bool := frozen.any (·.isPrefixOf path)

/-- Changes the table at a path; tables that are missing on the way are made. A list on the way
stands for its last table if `entering`. None if something else is in the way. -/
def insertAt (entering : Bool) (change : Entries Value → Option (Entries Value)) :
    Path → Entries Value → Option (Entries Value)
  | [], table => change table
  | key :: path, table => do
    match table.get? key with
    | none => return table.set key (.table (← insertAt entering change path []))
    | some (.table inner) => return table.set key (.table (← insertAt entering change path inner))
    | some (.list items) =>
      match items.getLast? with
      | some (.table inner) =>
        if entering then
          let last ← insertAt entering change path inner
          return table.set key (.list (items.dropLast ++ [.table last]))
        else none
      | _ => none
    | some _ => none

/-- Puts a value under a new key. -/
def putNew (key : String) (value : Value) (table : Entries Value) : Option (Entries Value) :=
  if table.has key then none else some (table.set key value)

/-- Appends an empty table to the list under a key, which is made if there is none. -/
def appendTable (key : String) (table : Entries Value) : Option (Entries Value) :=
  match table.get? key with
  | none => some (table.set key (.list [.table []]))
  | some (.list items) => some (table.set key (.list (items ++ [.table []])))
  | some _ => none

/-- Goes on with what there is. -/
def orReject {α : Type} : Option α → Scan α
  | some x => return x
  | none => reject

/-- Whether a value was written between brackets or braces. -/
def isBracketed : Value → Bool
  | .list _ | .table _ => true
  | _ => false

/-! ### Values -/

/-- A list, its items being read by `item`. -/
def scanList (item : Scan Value) : Scan Value := do
  skip 1
  skipGaps
  if ← accept "]" then return .list []
  repeatStep (fun (items : List Value) => do
    let items := items ++ [← item]
    skipGaps
    if ← accept "]" then return .inr (.list items)
    expect ","
    skipGaps
    if ← accept "]" then return .inr (.list items)
    return .inl items) []

/-- A key, a sign of equality and a value. -/
def scanPair (item : Scan Value) : Scan (Path × Value) := do
  let key ← scanKey
  expect "="
  skipBlanks
  return (key, ← item)

/-- A table between braces, its values being read by `item`. -/
def scanTable (item : Scan Value) : Scan Value := do
  skip 1
  skipBlanks
  if ← accept "\x7d" then return .table []
  repeatStep (fun (state : Entries Value × List Path) => do
    let (table, frozen) := state
    let (path, value) ← scanPair item
    if isFrozen frozen path then reject
    let table ← orReject
      (insertAt false (putNew (path.getLast?.getD "") value) path.dropLast table)
    skipBlanks
    if ← accept "\x7d" then return .inr (.table table)
    expect ","
    skipBlanks
    return .inl (table, if isBracketed value then path :: frozen else frozen)) ([], [])

/-- A value. There is room for `levels` values inside one another. -/
def scanValue : (levels : Nat) → Scan Value
  | 0 => throw .tooDeep
  | levels + 1 => do
    match ← peek? with
    | some '"' => return .text (String.ofList (← scanQuoted))
    | some '\'' => return .text (String.ofList (← scanApostrophed))
    | some '[' => scanList (scanValue levels)
    | some '\x7b' => scanTable (scanValue levels)
    | _ =>
      if ← accept "true" then return .switch true
      else if ← accept "false" then return .switch false
      else scanScalar

/-! ### Statements -/

/-- What has been read of a document. -/
structure Draft where
  /-- The content so far. -/
  root : Entries Value
  /-- The table that statements write to. -/
  header : Path
  /-- Tables that cannot be opened again. -/
  closed : List Path
  /-- Tables that cannot be opened once the present section ends. -/
  closing : List Path
  /-- Values that are complete. -/
  frozen : List Path

/-- The tables that a key with several parts passes through, below the table `header`. -/
def passed (header key : Path) : List Path :=
  (List.range (key.length - 1)).map fun i => header ++ key.take (i + 1)

/-- A key and a value. -/
def scanAssignment (levels : Nat) (draft : Draft) : Scan Draft := do
  let (key, value) ← scanPair (scanValue levels)
  let onTheWay := passed draft.header key
  if onTheWay.any draft.closed.contains then reject
  let target := draft.header ++ key.dropLast
  if isFrozen draft.frozen target then reject
  let root ← orReject (insertAt true (putNew (key.getLast?.getD "") value) target draft.root)
  return { draft with
    root
    closing := onTheWay ++ draft.closing
    frozen := if isBracketed value then (draft.header ++ key) :: draft.frozen else draft.frozen }

/-- The end of a section. -/
def Draft.endSection (draft : Draft) : Draft :=
  { draft with closed := draft.closing ++ draft.closed, closing := [] }

/-- A table between brackets. -/
def scanTableHeader (draft : Draft) : Scan Draft := do
  skip 1
  skipBlanks
  let key ← scanKey
  if draft.closed.contains key || isFrozen draft.frozen key then reject
  let root ← orReject (insertAt true some key draft.root)
  expect "]"
  return { draft with root, header := key, closed := key :: draft.closed }

/-- A table of a list, between two pairs of brackets. What lies below it is open again. -/
def scanListHeader (draft : Draft) : Scan Draft := do
  skip 2
  skipBlanks
  let key ← scanKey
  if isFrozen draft.frozen key then reject
  let root ← orReject
    (insertAt true (appendTable (key.getLast?.getD "")) key.dropLast draft.root)
  expect "]]"
  let isBelow (path : Path) : Bool := key.isPrefixOf path
  return { draft with
    root
    header := key
    closed := key :: draft.closed.filter (!isBelow ·)
    frozen := draft.frozen.filter (!isBelow ·) }

/-- The end of a line or of the document, after a statement. -/
def scanLineEnd : Scan Unit := do
  skipBlanks
  skipComment
  if (← peek?).isSome then expect "\n"

/-- All statements up to the end of the document. -/
def scanStatements (levels : Nat) : Scan (Entries Value) :=
  repeatStep (fun (draft : Draft) => do
    skipBlanks
    match ← peek? with
    | none => return .inr draft.root
    | some c =>
      let draft ←
        if c = '\n' || c = '#' then pure draft
        else if beginsKey c then scanAssignment levels draft
        else if c = '[' then
          if ← comes "[[" then scanListHeader draft.endSection
          else scanTableHeader draft.endSection
        else reject
      scanLineEnd
      return .inl draft) ⟨[], [], [], [], []⟩

/-! ### Documents -/

/-- Takes a carriage return before a line feed away. -/
def joinLineEnds : List Char → List Char
  | '\r' :: '\n' :: rest => '\n' :: joinLineEnds rest
  | c :: rest => c :: joinLineEnds rest
  | [] => []

/-- The table that a document describes. There is room for `levels` values inside one another. -/
def parse? (levels : Nat) (text : String) : Except Fault (Entries Value) :=
  (·.1) <$> (scanStatements levels).run (joinLineEnds text.toList)

/-- Reads documents with room for `levels` values inside one another. -/
def reader (levels : Nat) : Reader := fun content =>
  match String.fromUTF8? content with
  | some text => parse? levels text
  | none => .error .undecodable

/-- The reader of documents expects a text: it refuses bytes that are none. -/
theorem expectsText_reader (levels : Nat) : (reader levels).ExpectsText where
  undecodable content none := by rw [reader, none]

end Moderation.Toml
