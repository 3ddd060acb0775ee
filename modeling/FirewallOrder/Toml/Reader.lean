import FirewallOrder.Toml.Scalar
/-!
# Reading TOML

A text in TOML is a list of lines: entries, headers, comments. `Toml.parse` gives the table that it
builds, or nothing for a text that is wrong anywhere; where, it does not tell.
-/

namespace FirewallOrder.Toml

/-! ## Values -/

/-- The text behind blanks, line ends and comments. -/
def skipLines : Nat → List Char → Option (List Char)
  | 0, _ => none
  | fuel + 1, cs =>
    match skipBlanks cs with
    | '#' :: rest => do
      let rest ← takeLineEnd (skipComment ('#' :: rest))
      skipLines fuel rest
    | rest =>
      match takeLineEnd rest with
      | some rest => skipLines fuel rest
      | none => some rest

/-- How deep arrays and tables may stand within each other. -/
def maxDepth : Nat := 79

mutual

/-- A value. `depth` is how many more arrays and tables may be opened. -/
def takeValue : Nat → Nat → Taker Node
  | 0, _, _ => none
  | fuel + 1, depth, cs =>
    match cs, depth with
    | '[' :: rest, depth + 1 =>
      (takeItems fuel depth rest).map fun (items, rest) => (.arr items, rest)
    | '\x7b' :: rest, depth + 1 =>
      match skipBlanks rest with
      | '\x7d' :: rest => some (.table .inline [], rest)
      | rest =>
        (takeEntries fuel depth [] rest).map fun (entries, rest) => (.table .inline entries, rest)
    | '[' :: _, 0 => none
    | '\x7b' :: _, 0 => none
    | cs, _ => takeScalar cs

/-- The items of an array up to its bracket. -/
def takeItems : Nat → Nat → Taker (List Node)
  | 0, _, _ => none
  | fuel + 1, depth, cs => do
    match ← skipLines (cs.length + 1) cs with
    | ']' :: rest => pure ([], rest)
    | rest =>
      let (item, rest) ← takeValue fuel depth rest
      match ← skipLines (rest.length + 1) rest with
      | ']' :: rest => pure ([item], rest)
      | ',' :: rest =>
        let (items, rest) ← takeItems fuel depth rest
        pure (item :: items, rest)
      | _ => none

/-- The entries of a table between braces, up to its brace. -/
def takeEntries : Nat → Nat → Entries → Taker Entries
  | 0, _, _, _ => none
  | fuel + 1, depth, entries, cs => do
    let (path, rest) ← takePath (cs.length + 1) cs
    let rest ← expect '=' rest
    let (value, rest) ← takeValue fuel depth (skipBlanks rest)
    let key ← path.getLast?
    let entries ← insert entries path.dropLast key value
    match skipBlanks rest with
    | '\x7d' :: rest => pure (entries, rest)
    | ',' :: rest => takeEntries fuel depth entries rest
    | _ => none

end

/-! ## Lines -/

/-- What is built so far: the whole table, and the table of the last header, which is put into its
place when the next header comes. -/
structure Building where
  whole : Entries
  /-- The entries of the table of the last header. -/
  current : Entries
  path : List String
  /-- The last header stands in double brackets. -/
  repeated : Bool

/-- The path to the table above, and the last key. -/
def splitPath (path : List String) : Option (List String × String) :=
  path.getLast?.map fun key => (path.dropLast, key)

namespace Building

def start : Building := ⟨[], [], [], false⟩

/-- The whole table, with the table of the last header in its place. -/
def finish (b : Building) : Option Entries :=
  match splitPath b.path with
  | none => some b.current
  | some (above, key) =>
    along .passed
      (fun _ entries =>
        match b.repeated, find? entries key with
        | false, none => some (put entries key (.table .written b.current))
        | false, some (.table .passed _) => some (put entries key (.table .written b.current))
        | true, none => some (put entries key (.tables [b.current]))
        | true, some (.tables list) => some (put entries key (.tables (list ++ [b.current])))
        | _, _ => none)
      above .written b.whole

/-- The table of a header in single brackets: one that headers passed on their way is taken up. -/
def openTable (b : Building) (path : List String) : Option Building := do
  let whole ← b.finish
  let (above, key) ← splitPath path
  -- the entries that are there already go into the table that is opened
  let entries ← taken above key whole
  let whole ← along .passed (fun _ entries => some (remove entries key)) above .written whole
  pure ⟨whole, entries, path, false⟩
where
  /-- What a table holds that is there already; one that was written out cannot be opened. -/
  taken : List String → String → Entries → Option Entries
    | [], key, entries =>
      match find? entries key with
      | none => some []
      | some (.table .passed inner) => some inner
      | some _ => none
    | k :: above, key, entries =>
      match find? entries k with
      | none => some []
      | some (.table _ inner) => taken above key inner
      | some (.tables list) => taken above key (list.getLast?.getD [])
      | some _ => none

/-- One more table of a header in double brackets. -/
def openRepeated (b : Building) (path : List String) : Option Building := do
  let whole ← b.finish
  let (above, key) ← splitPath path
  let whole ← along .passed
    (fun _ entries =>
      match find? entries key with
      | none => some entries
      | some (.tables _) => some entries
      | some _ => none)
    above .written whole
  pure ⟨whole, [], path, true⟩

/-- One more entry of the table of the last header. -/
def add (b : Building) (path : List String) (value : Node) : Option Building := do
  let (above, key) ← splitPath path
  let current ← insert b.current above key value
  pure { b with current := current }

end Building

/-- The text behind the end of a line: blanks and a comment may stand before it. -/
def takeRestOfLine (cs : List Char) : Option (List Char) :=
  match skipComment (skipBlanks cs) with
  | [] => some []
  | rest => takeLineEnd rest

/-- A header, and what is built when it is read. -/
def takeHeader (b : Building) (cs : List Char) : Option (Building × List Char) := do
  match cs with
  | '[' :: '[' :: rest =>
    let (path, rest) ← takePath (rest.length + 1) rest
    let rest ← expect ']' (← expect ']' rest)
    pure (← b.openRepeated path, ← takeRestOfLine rest)
  | '[' :: rest =>
    let (path, rest) ← takePath (rest.length + 1) rest
    let rest ← expect ']' rest
    pure (← b.openTable path, ← takeRestOfLine rest)
  | _ => none

/-- An entry, and what is built when it is read. -/
def takeEntry (b : Building) (cs : List Char) : Option (Building × List Char) := do
  let (path, rest) ← takePath (cs.length + 1) cs
  let rest ← expect '=' rest
  let (value, rest) ← takeValue (2 * rest.length + 2) maxDepth (skipBlanks rest)
  pure (← b.add path value, ← takeRestOfLine rest)

/-- The lines of a text, one after another. -/
def readLines : Nat → Building → List Char → Option Building
  | 0, _, _ => none
  | fuel + 1, b, cs =>
    match skipBlanks cs with
    | [] => some b
    | c :: rest =>
      if c = '#' ∨ c = '\n' ∨ c = '\r' then do
        readLines fuel b (← takeRestOfLine (c :: rest))
      else if c = '[' then do
        let (b, rest) ← takeHeader b (c :: rest)
        readLines fuel b rest
      else do
        let (b, rest) ← takeEntry b (c :: rest)
        readLines fuel b rest

/-- The text without a mark of its byte order. -/
def dropMark : List Char → List Char
  | '\ufeff' :: cs => cs
  | cs => cs

/-- The table that a text builds. -/
def parse (s : String) : Option Entries := do
  let cs := dropMark s.toList
  let b ← readLines (cs.length + 1) .start cs
  b.finish

end FirewallOrder.Toml
