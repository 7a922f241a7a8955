import SceneScript.Toml.Value

/-! # TOML documents

A document is a list of statements: entries, and headers that say which table the entries after
them belong to. A table has one header, and what an inline value holds is final.

* `Toml.Document` — the tables read so far, with the keys that may not be opened or changed;
* `Toml.parse` — a whole document.
-/

namespace SceneScript.Toml

structure Document where
  entries : Entries := []
  /-- The table that entries belong to. -/
  header : Key := []
  /-- Keys that no header may open again. -/
  declared : List Key := []
  /-- Keys that become declared at the next header. -/
  pending : List Key := []
  /-- Keys below which nothing changes any more. -/
  frozen : List Key := []

namespace Document

def isFrozen (document : Document) (key : Key) : Bool :=
  document.frozen.any fun other => other ≠ [] && other.isPrefixOf key

def isDeclared (document : Document) (key : Key) : Bool := document.declared.contains key

/-- The keys between a table and an entry in it. -/
def between (header key : Key) : List Key :=
  (List.range (key.length - 1)).map fun i => header ++ key.take (i + 1)

def addEntry? (document : Document) (key : Key) (value : Datum) : Option Document := do
  let containers := between document.header key
  if containers.any document.isDeclared || document.isFrozen (document.header ++ key.dropLast) then
    none
  let path := document.header ++ key
  let entries ← insertAt? true path value document.entries
  return { document with
    entries
    pending := document.pending ++ containers
    frozen := if isTableOrList value then path :: document.frozen else document.frozen }

def settlePending (document : Document) : Document :=
  { document with declared := document.declared ++ document.pending, pending := [] }

def openTable? (document : Document) (key : Key) : Option Document := do
  let document := document.settlePending
  if document.isDeclared key || document.isFrozen key then none
  let entries ← changeTable? true some key document.entries
  return { document with entries, header := key, declared := key :: document.declared }

/-- A new table at the end of a list of tables; below the list everything may be declared anew. -/
def openItem? (document : Document) (key : Key) : Option Document := do
  let document := document.settlePending
  if document.isFrozen key then none
  let name ← key.getLast?
  let append (table : Entries) : Option Entries :=
    match find? name table with
    | none => some (Scalar.putIn (.text name) (.list [.mapping []]) table)
    | some (.list items) => some (Scalar.putIn (.text name) (.list (items ++ [.mapping []])) table)
    | some _ => none
  let entries ← changeTable? true append key.dropLast document.entries
  let outside (other : Key) : Bool := !key.isPrefixOf other
  return { document with
    entries
    header := key
    declared := key :: document.declared.filter outside
    frozen := document.frozen.filter outside }

end Document

/-- The end of a line, before which a comment may stand. -/
def endLine? (t : Text) : Option Text :=
  let t := skipBlanks t
  let t? :=
    match t with
    | '#' :: rest =>
      if (rest.takeWhile (· ≠ '\n')).all (isPlain false) then some (rest.dropWhile (· ≠ '\n'))
      else none
    | _ => some t
  match t? with
  | some ('\n' :: rest) => some rest
  | some [] => some []
  | _ => none

def startsEntry : Text → Bool
  | c :: _ => isBare c || c = '"' || c = '\''
  | [] => false

/-- A header with the table that it opens. -/
def readHeader? (document : Document) (t : Text) : Option (Document × Text) :=
  match t with
  | '[' :: rest => do
    let (key, rest) ← readKey? (rest.length + 1) (skipBlanks rest)
    let document ← document.openItem? key
    match rest with
    | ']' :: ']' :: rest => return (document, rest)
    | _ => none
  | rest => do
    let (key, rest) ← readKey? (rest.length + 1) (skipBlanks rest)
    let document ← document.openTable? key
    return (document, ← readMark? ']' rest)

def readStatement (document : Document) (t : Text) : Except Fault (Document × Text) :=
  match t with
  | '[' :: rest => orMalformed (readHeader? document rest)
  | _ =>
    if startsEntry t then do
      let (key, rest) ← orMalformed (readKey? (t.length + 1) t)
      let rest ← orMalformed (readMark? '=' rest)
      let (value, rest) ← readValue (2 * rest.length + 2) 0 (skipBlanks rest)
      return (← orMalformed (document.addEntry? key value), rest)
    else .ok (document, t)

def readStatements : Nat → Document → Text → Except Fault Document
  | 0, _, _ => .error .malformed
  | fuel + 1, document, t =>
    match skipBlanks t with
    | [] => .ok document
    | t => do
      let (document, rest) ← readStatement document t
      readStatements fuel document (← orMalformed (endLine? rest))

def unifyLineEnds : Text → Text
  | '\r' :: '\n' :: rest => '\n' :: unifyLineEnds rest
  | c :: rest => c :: unifyLineEnds rest
  | [] => []

def parse (t : Text) : Except Fault Datum :=
  let t := unifyLineEnds t
  (readStatements (t.length + 1) {} t).map fun document => .mapping document.entries

end SceneScript.Toml
