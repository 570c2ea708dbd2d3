import PageBlocks.Toml.Scalar

/-!
# Settings files: the whole file

A file is read line by line: headers open tables, all other lines add an entry to the table that
was opened last. A file that breaks a rule is refused as a whole.
-/

namespace PageBlocks.Toml

/-- Why a file cannot be used. -/
inductive Error where
  /-- The header or entry on this line cannot be read. -/
  | unreadable (line : Nat)
  /-- The file can be read, but does not say what it should. -/
  | misfit
  deriving DecidableEq, Repr

/-- The wording of an error. -/
def Error.message : Error → String
  | .unreadable line => "TOML parse error at line " ++ toString line
  | .misfit => "TOML parse error at line 1: unexpected settings"

/-- Behind a comment sign: the text from the line's end on. A comment may not hold control
characters. -/
def afterComment? (t : Text) : Option Text :=
  let line := t.takeWhile (· != '\n')
  let body :=
    if (t.dropWhile (· != '\n')).isEmpty then line else Text.dropEndWhile (· == '\r') line
  if line.length ≤ body.length + 1 && !body.any isControl then
    some (t.drop body.length)
  else none

/-- One line break. -/
def afterBreak? : Text → Option Text
  | '\n' :: t => some t
  | '\r' :: '\n' :: t => some t
  | _ => none

/-- Skips blanks, comments and line breaks; every step takes a character. -/
def skipLines : (limit : Nat) → Text → Option Text
  | 0, t => some t
  | limit + 1, t =>
    match skipBlanks t with
    | '#' :: r =>
      match afterComment? r with
      | none => none
      | some rest => skipLines limit rest
    | r =>
      match afterBreak? r with
      | some rest => skipLines limit rest
      | none => some r

/-- Skips to the end of the line, which may hold a comment only. -/
def endOfLine? (t : Text) : Option Text :=
  let close (r : Text) : Option Text := if r.isEmpty then some [] else afterBreak? r
  match skipBlanks t with
  | '#' :: r => (afterComment? r).bind close
  | r => close r

/-- The characters of a name without quotes. -/
def isBare (c : Char) : Bool := c.isAlphanum || c == '_' || c == '-'

/-- One name of a dotted key. -/
def name? (t : Text) : Option (Text × Text) :=
  match t with
  | '"' :: r => if Text.startsWith ['"', '"'] r then some ([], r.drop 1) else string? t
  | '\'' :: r => if Text.startsWith ['\'', '\''] r then some ([], r.drop 1) else string? t
  | _ =>
    let bare := t.takeWhile isBare
    if bare.isEmpty then none else some (bare, t.dropWhile isBare)

/-- How many names a dotted key may have, and how deeply lists and tables in braces may be nested in
one value. -/
def maxDepth : Nat := 80

/-- A dotted key of at most `limit` names: its names, and what follows blanks behind it. -/
def names? : (limit : Nat) → Text → Option (List Text × Text)
  | 0, _ => none
  | limit + 1, t =>
    match name? (skipBlanks t) with
    | none => none
    | some (n, r) =>
      match skipBlanks r with
      | '.' :: r => (names? limit r).map fun (ns, rest) => (n :: ns, rest)
      | r => some ([n], r)

/-- A dotted key. -/
def key? (t : Text) : Option (List Text × Text) := names? maxDepth t

/-- Adds an entry under a dotted key. -/
def addEntry (key : List Text) (v : Value) (o : Origin) (es : Entries) :
    Option (Origin × Entries) :=
  match key.getLast? with
  | none => none
  | some name =>
    let path := key.dropLast
    Entries.update .dots (Entries.add (!path.isEmpty) name v) path o es

mutual

/-- Any value, with lists and tables in braces nested at most `depth` deep. Every step takes a
character, so the length of the text bounds `limit`. -/
def value? : (limit depth : Nat) → Text → Option (Value × Text)
  | 0, _, _ => none
  | limit + 1, depth, t =>
    match t with
    | '"' :: _ => (string? t).map fun (s, rest) => (.str s, rest)
    | '\'' :: _ => (string? t).map fun (s, rest) => (.str s, rest)
    | '[' :: r =>
      if depth = 0 then none
      else (items? limit (depth - 1) r).map fun (vs, rest) => (.arr vs, rest)
    | '\x7b' :: r =>
      if depth = 0 then none
      else (fields? limit (depth - 1) [] r).map fun (es, rest) => (.table .inline es, rest)
    | _ => plain? t

/-- The items of a list up to its closing bracket. -/
def items? : (limit depth : Nat) → Text → Option (List Value × Text)
  | 0, _, _ => none
  | limit + 1, depth, t =>
    match skipLines t.length t with
    | none => none
    | some (']' :: rest) => some ([], rest)
    | some r =>
      match value? limit depth r with
      | none => none
      | some (v, r) =>
        match skipLines r.length r with
        | some (',' :: r) => (items? limit depth r).map fun (vs, rest) => (v :: vs, rest)
        | some (']' :: rest) => some ([v], rest)
        | _ => none

/-- The entries of a table in braces up to the closing one. -/
def fields? : (limit depth : Nat) → Entries → Text → Option (Entries × Text)
  | 0, _, _, _ => none
  | limit + 1, depth, es, t =>
    match skipLines t.length t with
    | none => none
    | some ('\x7d' :: rest) => some (es, rest)
    | some r =>
      match key? r with
      | none => none
      | some (key, r) =>
        match skipLines r.length r with
        | some ('=' :: r) =>
          match (skipLines r.length r).bind (value? limit depth) with
          | none => none
          | some (v, r) =>
            match addEntry key v .inline es with
            | none => none
            | some (_, es) =>
              match skipLines r.length r with
              | some (',' :: r) => fields? limit depth es r
              | some ('\x7d' :: rest) => some (es, rest)
              | _ => none
        | _ => none

end

/-- A file as far as it has been read: its tables, and the path of the one opened last. -/
structure Document where
  entries : Entries := []
  current : List Text := []

namespace Document

/-- Changes the table at the end of a path of headers. -/
def change (d : Document) (path : List Text)
    (f : Origin → Entries → Option (Origin × Entries)) : Option Entries :=
  (Entries.update .headers f path .header d.entries).map Prod.snd

/-- Opens a table by its header. -/
def openTable (d : Document) (key : List Text) : Option Document :=
  match key.getLast? with
  | none => none
  | some name =>
    (d.change key.dropLast (Entries.openTable name)).map fun es => ⟨es, key⟩

/-- Opens one more table of several by its header. -/
def openNext (d : Document) (key : List Text) : Option Document :=
  match key.getLast? with
  | none => none
  | some name =>
    (d.change key.dropLast (Entries.openNext name)).map fun es => ⟨es, key⟩

/-- Adds an entry to the table opened last. -/
def add (d : Document) (key : List Text) (v : Value) : Option Document :=
  (d.change d.current (addEntry key v)).map fun es => { d with entries := es }

/-- Reads one header or entry at the start of `t`, up to the end of its line. -/
def step? (d : Document) (t : Text) : Option (Document × Text) :=
  match t with
  | '[' :: '[' :: r =>
    match key? r with
    | some (key, ']' :: ']' :: rest) => do return (← d.openNext key, ← endOfLine? rest)
    | _ => none
  | '[' :: r =>
    match key? r with
    | some (key, ']' :: rest) => do return (← d.openTable key, ← endOfLine? rest)
    | _ => none
  | r =>
    match key? r with
    | some (key, '=' :: r) => do
      let (v, rest) ← value? (r.length + 1) maxDepth (skipBlanks r)
      return (← d.add key v, ← endOfLine? rest)
    | _ => none

/-- Reads the lines of a file; every step takes a line. A failure gives the text from the line that
cannot be read. -/
def read : (limit : Nat) → Document → Text → Except Text Document
  | 0, _, t => .error t
  | limit + 1, d, t =>
    match skipLines t.length t with
    | none => .error t
    | some [] => .ok d
    | some r =>
      match d.step? r with
      | none => .error r
      | some (d, rest) => read limit d rest

end Document

/-- The entries of a whole file. A byte order mark may stand in front. -/
def parse (text : Text) : Except Error Entries :=
  let text := match text with
    | c :: rest => if c.toNat = 0xFEFF then rest else text
    | [] => []
  match Document.read (text.length + 1) {} text with
  | .ok d => .ok d.entries
  | .error rest => .error (.unreadable (1 + Text.lineFeeds text - Text.lineFeeds rest))

end PageBlocks.Toml
