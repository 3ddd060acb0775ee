/-!
# Arguments

A command line is read against a tree of commands. At each command there are options, each with a
long name and perhaps a letter; a command either has commands below it, of which one has to follow,
or takes operands itself. Reading goes from left to right:

* `--` ends the options: every word behind it stands for itself;
* `--name`, `--name=value`, `-n`, `-nvalue` and `-n=value` are options, and the letters of options
  without value can be put together;
* the word behind an option that wants a value and has none is its value, unless it looks like an
  option;
* any other word is the name of a command below, or an operand.

An option without value is taken at once. A value that stands in a word of its own is taken only
when the next option or operand is, or at the end, so that what comes between may go wrong first.
What is taken goes into a draft of type `δ`, one for each command on the way.
-/

namespace FirewallOrder

/-- Why a command line is not carried out. -/
inductive UsageStop
  /-- Help was asked for. -/
  | help
  /-- The version was asked for. -/
  | version
  /-- Nothing was given where a command is needed. -/
  | helpInstead
  | missingCommand
  | unknownCommand
  | unknownArgument
  /-- A value is missing, or is none of those that there are. -/
  | invalidValue
  /-- A value cannot be read. -/
  | unreadableValue
  /-- An option that takes no value was given one. -/
  | needlessValue
  /-- An option was given twice, or with another that it excludes. -/
  | conflict
  | missingArgument
  deriving DecidableEq, Repr

/-- Only what was asked for is no error. -/
def UsageStop.exitCode : UsageStop → Nat
  | help | version => 0
  | _ => 2

namespace Arguments

/-- What an argument takes, and what that does to the draft. -/
inductive Taking (δ : Type)
  /-- No value, at most once. -/
  | flag (set : δ → δ)
  /-- No value, any number of times. -/
  | counter (count : δ → δ)
  /-- One value, at most once. -/
  | value (read : String → Except UsageStop (δ → δ))
  /-- Values with commas between them, any number of times. -/
  | values (add : List String → δ → δ)
  /-- No value; nothing more is read. -/
  | stop (why : UsageStop)

/-- An option, or an operand, which has a name only for its own sake. -/
structure Argument (δ : Type) where
  name : String
  letter : Option Char
  taking : Taking δ

/-- The argument takes no value. -/
def Argument.isBare {δ : Type} (a : Argument δ) : Bool :=
  match a.taking with
  | .flag _ | .counter _ | .stop _ => true
  | .value _ | .values _ => false

/-- A command with drafts `δ`, which means a `β`. -/
inductive CommandTree (δ β : Type)
  /-- One of these commands has to follow, each given by one of its names. -/
  | group (options : List (Argument δ)) (commands : List (List String × CommandTree δ β))
  | leaf (options : List (Argument δ)) (operand : Option (Argument δ))
    (finish : δ → Except UsageStop β)

namespace CommandTree

variable {δ β : Type}

def options : CommandTree δ β → List (Argument δ)
  | group options _ => options
  | leaf options _ _ => options

def operand? : CommandTree δ β → Option (Argument δ)
  | group _ _ => none
  | leaf _ operand _ => operand

/-- The command below with this name. -/
def command? : CommandTree δ β → String → Option (CommandTree δ β)
  | group _ commands, name => (commands.find? fun c => c.1.contains name).map (·.2)
  | leaf .., _ => none

/-- A group can explain the commands below it. -/
def isGroup : CommandTree δ β → Bool
  | group .. => true
  | leaf .. => false

/-- The word that asks for an explanation. -/
def helpWord : String := "help"

/-- What is behind a word that names a command. -/
inductive Named (δ β : Type)
  | command (tree : CommandTree δ β)
  | help

/-- What a word names below a command. -/
def named? (t : CommandTree δ β) (word : String) : Option (Named δ β) :=
  match t.command? word with
  | some tree => some (.command tree)
  | none => if t.isGroup && word == helpWord then some .help else none

/-- The help on the command that some words lead to. -/
def explain (t : CommandTree δ β) : List String → UsageStop
  | [] => .help
  | word :: words =>
    match t.named? word with
    | some (.command tree) => tree.explain words
    | some .help => if words.isEmpty then .help else .unknownCommand
    | none => .unknownCommand

end CommandTree

/-! ## Words -/

/-- What a word looks like. -/
inductive Shape
  | endOfOptions
  | long (name : String) (value : Option String)
  | letters (cs : List Char)
  | plain

/-- The characters before the first equals sign, and those behind it if there is one. -/
def splitAtEquals : List Char → List Char × Option (List Char)
  | [] => ([], none)
  | '=' :: cs => ([], some cs)
  | c :: cs =>
    let (name, value) := splitAtEquals cs
    (c :: name, value)

def shape (word : String) : Shape :=
  match word.toList with
  | ['-', '-'] => .endOfOptions
  | '-' :: '-' :: cs =>
    let (name, value) := splitAtEquals cs
    .long (String.ofList name) (value.map String.ofList)
  | '-' :: c :: cs => .letters (c :: cs)
  | _ => .plain

/-- The parts of a value between its commas. -/
def splitAtCommas (s : String) : List String :=
  (go s.toList).map String.ofList
where
  go : List Char → List (List Char)
    | [] => [[]]
    | ',' :: cs => [] :: go cs
    | c :: cs =>
      match go cs with
      | [] => [[c]]
      | part :: parts => (c :: part) :: parts

/-! ## The arguments of one command -/

/-- An argument that was begun and is not taken yet. -/
structure Pending (δ : Type) where
  argument : Argument δ
  value : Option String

/-- What was read of the arguments of one command. -/
structure Progress (δ : Type) where
  draft : δ
  /-- The names of the arguments that were taken. -/
  taken : List String
  pending : Option (Pending δ)
  /-- The options are over. -/
  trailing : Bool
  /-- The operand was begun. -/
  hasOperand : Bool

namespace Progress

variable {δ : Type}

def start (draft : δ) : Progress δ := ⟨draft, [], none, false, false⟩

/-- The next word, unless it looks like an option, is the value of an option. -/
def awaitsValue (p : Progress δ) : Bool :=
  !p.trailing &&
    match p.pending with
    | some q => q.value.isNone
    | none => false

/-- The argument was taken and has changed the draft. -/
def mark (p : Progress δ) (name : String) (set : δ → δ) : Progress δ :=
  { p with draft := set p.draft, taken := name :: p.taken }

/-- Takes an argument, perhaps with a value. -/
def take (p : Progress δ) (a : Argument δ) (value : Option String) :
    Except UsageStop (Progress δ) :=
  match a.taking, value with
  | .stop why, _ => .error why
  | .counter count, _ => .ok (p.mark a.name count)
  | .flag set, _ => if p.taken.contains a.name then .error .conflict else .ok (p.mark a.name set)
  | .value _, none => .error .invalidValue
  | .value read, some v =>
    if p.taken.contains a.name then .error .conflict
    else (read v).map fun set => p.mark a.name set
  | .values _, none => .error .invalidValue
  | .values add, some v => .ok (p.mark a.name (add (splitAtCommas v)))

/-- Takes the argument that was begun, if there is one. -/
def settle (p : Progress δ) : Except UsageStop (Progress δ) :=
  match p.pending with
  | none => .ok p
  | some q => { p with pending := none }.take q.argument q.value

/-- Takes an argument after the one that was begun. -/
def settleAndTake (p : Progress δ) (a : Argument δ) (value : Option String) :
    Except UsageStop (Progress δ) := do
  let p ← p.settle
  p.take a value

/-- Begins an argument after taking the one that was begun before. -/
def settleAndBegin (p : Progress δ) (a : Argument δ) (value : Option String) :
    Except UsageStop (Progress δ) := do
  let p ← p.settle
  pure { p with pending := some ⟨a, value⟩ }

/-- An option by its long name. -/
def long (p : Progress δ) (options : List (Argument δ)) (name : String) (value : Option String) :
    Except UsageStop (Progress δ) :=
  match options.find? fun a => a.name == name, value with
  | none, _ => .error .unknownArgument
  | some a, some v => if a.isBare then .error .needlessValue else p.settleAndTake a (some v)
  | some a, none => if a.isBare then p.settleAndTake a none else p.settleAndBegin a none

/-- Options by their letters. -/
def letters (options : List (Argument δ)) :
    List Char → Progress δ → Except UsageStop (Progress δ)
  | [], p => .ok p
  | c :: cs, p =>
    match options.find? fun a => a.letter == some c with
    | none => .error .unknownArgument
    | some a =>
      if a.isBare then p.settleAndTake a none >>= letters options cs
      else
        match cs with
        | [] => p.settleAndBegin a none
        | '=' :: v => p.settleAndTake a (some (String.ofList v))
        | v => p.settleAndTake a (some (String.ofList v))

/-- The value of the option that awaits one. -/
def giveValue (p : Progress δ) (word : String) : Progress δ :=
  { p with pending := p.pending.map fun q => { q with value := some word } }

/-- An operand. -/
def operand (p : Progress δ) (operand? : Option (Argument δ)) (word : String) :
    Except UsageStop (Progress δ) :=
  match operand? with
  | none => .error .unknownArgument
  | some a =>
    if p.hasOperand then .error .unknownArgument
    else do
      let p ← p.settleAndBegin a (some word)
      pure { p with hasOperand := true }

end Progress

/-! ## Command lines -/

/-- Where reading goes after a word. -/
inductive Move (δ β : Type)
  | stay (p : Progress δ)
  | enter (tree : CommandTree δ β)
  | explain

variable {δ β : Type}

/-- A word that stands for itself. -/
def plainWord (t : CommandTree δ β) (p : Progress δ) (word : String) :
    Except UsageStop (Move δ β) :=
  if t.isGroup then
    .error (if p.trailing && (t.named? word).isSome then .unknownArgument else .unknownCommand)
  else (p.operand t.operand? word).map .stay

/-- A word that may be an option. -/
def optionWord (t : CommandTree δ β) (p : Progress δ) (word : String) :
    Except UsageStop (Move δ β) :=
  match shape word with
  | .endOfOptions => .ok (.stay { p with trailing := true })
  | .long name value => (p.long t.options name value).map .stay
  | .letters cs => (Progress.letters t.options cs p).map .stay
  | .plain => if p.awaitsValue then .ok (.stay (p.giveValue word)) else plainWord t p word

/-- Reads one word. -/
def step (t : CommandTree δ β) (p : Progress δ) (word : String) : Except UsageStop (Move δ β) :=
  if p.trailing then plainWord t p word
  else
    match if p.awaitsValue then none else t.named? word with
    | some (.command tree) => .ok (.enter tree)
    | some .help => .ok .explain
    | none => optionWord t p word

/-- The end of the words, when no command below was named. -/
def finish (t : CommandTree δ β) (p : Progress δ) : Except UsageStop (List δ × β) := do
  let p ← p.settle
  match t with
  | .group _ _ => throw (if p.taken.isEmpty then .helpInstead else .missingCommand)
  | .leaf _ _ finish =>
    let result ← finish p.draft
    pure ([p.draft], result)

/-- Reads words at a command: the drafts of all commands on the way, the last one first, and what
the last one means. -/
def read (blank : δ) (t : CommandTree δ β) (p : Progress δ) :
    List String → Except UsageStop (List δ × β)
  | [] => finish t p
  | word :: words =>
    match step t p word with
    | .error why => .error why
    | .ok (.stay p) => read blank t p words
    | .ok .explain => .error (t.explain words)
    | .ok (.enter tree) => do
      let (drafts, result) ← read blank tree (.start blank) words
      let p ← p.settle
      pure (drafts ++ [p.draft], result)

/-- Reads a command line. -/
def parse (blank : δ) (t : CommandTree δ β) (words : List String) :
    Except UsageStop (List δ × β) :=
  read blank t (.start blank) words

end Arguments

end FirewallOrder
