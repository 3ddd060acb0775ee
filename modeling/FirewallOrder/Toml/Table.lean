import FirewallOrder.Number.Text
/-!
# Tables of TOML

A text in TOML builds one table out of entries and headers. An entry may name its place by several
keys, and the tables on the way are made as needed; so may a header. How a table came about decides
what may still be added to it: a table that was written out, by a header or between braces, is not
opened a second time.
-/

namespace FirewallOrder.Toml

/-- How a table came about. -/
inductive TableKind
  /-- By its own header, or as the whole text. -/
  | written
  /-- On the way of a header to a table below it. -/
  | passed
  /-- On the way of an entry to its place. -/
  | dotted
  /-- Between braces. -/
  | inline
  deriving DecidableEq, Repr

/-- A value, or a table that is still being built. -/
inductive Node
  | str (s : String)
  | int (n : Int)
  | float (x : Binary64)
  | bool (b : Bool)
  | date
  | arr (items : List Node)
  | table (kind : TableKind) (entries : List (String × Node))
  /-- The tables of one header in double brackets, in order. -/
  | tables (list : List (List (String × Node)))

abbrev Entries := List (String × Node)

/-- The node under a key. -/
def find? (entries : Entries) (key : String) : Option Node :=
  (entries.find? fun e => e.1 == key).map (·.2)

/-- The entries with the node under a key set. -/
def put (entries : Entries) (key : String) (node : Node) : Entries :=
  if entries.any fun e => e.1 == key then
    entries.map fun e => if e.1 == key then (key, node) else e
  else entries ++ [(key, node)]

/-- The entries without a key. -/
def remove (entries : Entries) (key : String) : Entries :=
  entries.filter fun e => e.1 != key

/-- Goes along a path, making the tables on the way that are not there, and acts on the table at its
end. Of the tables of one header the last is entered. An entry does not enter a table that was
written out. -/
def along (way : TableKind) (act : TableKind → Entries → Option Entries) :
    List String → TableKind → Entries → Option Entries
  | [], kind, entries => act kind entries
  | key :: path, _, entries =>
    match find? entries key with
    | none => do
      let inner ← along way act path way []
      pure (put entries key (.table way inner))
    | some (.table kind inner) =>
      if kind = .inline ∨ (way = .dotted ∧ kind = .written) then none
      else do
        let inner ← along way act path kind inner
        pure (put entries key (.table kind inner))
    | some (.tables list) =>
      match list.getLast? with
      | none => none
      | some last => do
        let last ← along way act path .written last
        pure (put entries key (.tables (list.dropLast ++ [last])))
    | some _ => none

/-- The entries with a new one at the end of a path. The table there has to be one that entries
make, unless it is the table that is being written. -/
def insert (entries : Entries) (path : List String) (key : String) (node : Node) : Option Entries :=
  along .dotted
    (fun kind inner =>
      if (path.isEmpty || kind = .dotted) && (find? inner key).isNone then
        some (put inner key node)
      else none)
    path .written entries

end FirewallOrder.Toml
