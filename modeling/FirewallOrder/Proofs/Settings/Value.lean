import FirewallOrder.Settings.Environment
import Mathlib.Data.List.TakeDrop
import Mathlib.Data.List.TakeWhile

/-!
# What the text of a variable spells

The value of a variable is read by a small grammar (`Environment.Spells`). What that grammar does
not cover to its end is a text as it stands.
-/

namespace FirewallOrder.Environment

open Text

/-! ## The grammar -/

/-- The rest of a string behind its first quote: what is inside, up to the next quote, and what
follows. -/
inductive Quoted : List Char → List Char → List Char → Prop
  | close (rest : List Char) : Quoted ('"' :: rest) [] rest
  | escape {cs cs' inside rest : List Char} {c : Char} (escape : Toml.takeEscape cs = some (c, cs'))
    (quoted : Quoted cs' inside rest) : Quoted ('\\' :: cs) (c :: inside) rest
  | char {cs inside rest : List Char} {c : Char} (noQuote : c ≠ '"') (noEscape : c ≠ '\\')
    (line : Toml.isLineChar c = true) (quoted : Quoted cs inside rest) :
    Quoted (c :: cs) (c :: inside) rest

/-- A text that begins neither with a truth value nor with what opens another value. -/
structure IsBare (cs : List Char) : Prop where
  not_true : ¬ "true".toList <+: cs
  not_false : ¬ "false".toList <+: cs
  not_open : ∀ c ∈ cs.head?, c ∉ ['\x7b', '[', '"', '\'']

/-- A value stands at the beginning of a text, before a rest; `items` says what lists and tables
hold. -/
inductive Begins (items : Bool → List Char → List Char → Prop) :
    List Char → SettingValue → List Char → Prop
  | yes (rest : List Char) : Begins items ("true".toList ++ rest) (.bool true) rest
  | no (rest : List Char) : Begins items ("false".toList ++ rest) (.bool false) rest
  | table {cs rest : List Char} (inside : items true cs rest) :
    Begins items ('\x7b' :: cs) .table rest
  | list {cs rest : List Char} (inside : items false cs rest) : Begins items ('[' :: cs) .list rest
  | string {cs inside rest : List Char} (quoted : Quoted cs inside rest) :
    Begins items ('"' :: cs) (.text (String.ofList inside)) rest
  | char (c : Char) (rest : List Char) :
    Begins items ('\'' :: c :: '\'' :: rest) (.text c.toString) rest
  | plain {cs : List Char} (bare : IsBare cs) : Begins items cs
    (plainValue (cs.takeWhile fun c => !isSeparator c)) (cs.dropWhile fun c => !isSeparator c)

/-- What ends a table or a list. -/
def closing (keyed : Bool) : Char := if keyed then '\x7d' else ']'

/-- The text behind the key of an entry and its sign, in a table; a list has no keys. -/
def behindKey? (keyed : Bool) (cs : List Char) : Option (List Char) :=
  if keyed then (skipKey cs).bind (Toml.expect '=') else some cs

/-- The items of a list or a table stand at the beginning of a text, before a rest. -/
inductive Items : Bool → List Char → List Char → Prop
  | close (keyed : Bool) (rest : List Char) : Items keyed (closing keyed :: rest) rest
  | last {keyed : Bool} {c : Char} {cs mid tail rest : List Char} {value : SettingValue}
    (item : c ≠ closing keyed) (entry : behindKey? keyed (c :: cs) = some mid)
    (begins : Begins Items (skipBlanks mid) value tail)
    (ends : skipBlanks tail = closing keyed :: rest) : Items keyed (c :: cs) rest
  | more {keyed : Bool} {c : Char} {cs mid tail next rest : List Char} {value : SettingValue}
    (item : c ≠ closing keyed) (entry : behindKey? keyed (c :: cs) = some mid)
    (begins : Begins Items (skipBlanks mid) value tail) (ends : skipBlanks tail = ',' :: next)
    (items : Items keyed next rest) : Items keyed (c :: cs) rest

/-! ## Reading by the grammar -/

variable {fuel : Nat} {cs inside rest mid : List Char} {c : Char} {s : String} {keyed : Bool}
  {value : SettingValue}

theorem length_takeEscape_lt (h : Toml.takeEscape cs = some (c, rest)) :
    rest.length < cs.length := by
  have drop {digits : Nat} {ds : List Char} (h : Toml.hexChar digits ds = some (c, rest)) :
      rest.length ≤ ds.length := by
    unfold Toml.hexChar at h
    dsimp only at h
    split at h
    · cases h
    · obtain ⟨n, -, h⟩ := Option.bind_eq_some_iff.1 h
      obtain ⟨c', -, h⟩ := Option.bind_eq_some_iff.1 h
      cases h
      rw [List.length_drop]
      exact Nat.sub_le ..
  unfold Toml.takeEscape at h
  split at h
  all_goals first
    | cases h; exact Nat.lt_succ_self _
    | exact Nat.lt_succ_of_le (drop h)
    | cases h

theorem exists_quoted_of_takeString {sofar : List Char}
    (h : takeString fuel sofar cs = some (s, rest)) :
    ∃ inside, Quoted cs inside rest ∧ s = String.ofList (sofar.reverse ++ inside) := by
  induction fuel generalizing sofar cs with
  | zero => cases h
  | succ fuel ih =>
    rw [takeString.eq_def] at h
    dsimp only at h
    split at h
    · cases h
      exact ⟨[], .close _, by simp⟩
    · split at h
      · next escaped =>
        obtain ⟨inside, quoted, rfl⟩ := ih h
        exact ⟨_, .escape escaped quoted, by simp⟩
      · cases h
    · next c cs noQuote noEscape =>
      split at h
      · next line =>
        obtain ⟨inside, quoted, rfl⟩ := ih h
        exact ⟨_, .char noQuote noEscape line quoted, by simp⟩
      · cases h
    · cases h

theorem takeString_of_quoted (h : Quoted cs inside rest) :
    ∀ {fuel : Nat} {sofar : List Char}, cs.length < fuel →
    takeString fuel sofar cs = some (String.ofList (sofar.reverse ++ inside), rest) := by
  induction h with
  | close rest =>
    rintro (_ | fuel) sofar enough
    · cases enough
    · simp [takeString]
  | escape escaped quoted ih =>
    rintro (_ | fuel) sofar enough
    · cases enough
    · have shorter := length_takeEscape_lt escaped
      rw [List.length_cons] at enough
      simp [takeString, escaped, ih (show _ < fuel by omega)]
  | char noQuote noEscape line quoted ih =>
    rintro (_ | fuel) sofar enough
    · cases enough
    · rw [List.length_cons] at enough
      simp [takeString, line, ih (show _ < fuel by omega)]

theorem takeString_eq_some_iff : takeString (cs.length + 1) [] cs = some (s, rest) ↔
    ∃ inside, Quoted cs inside rest ∧ s = String.ofList inside := by
  constructor
  · exact exists_quoted_of_takeString
  · rintro ⟨inside, quoted, rfl⟩
    exact takeString_of_quoted quoted (Nat.lt_succ_self _)

theorem afterWord?_eq_some_iff {word : String} :
    afterWord? word cs = some rest ↔ cs = word.toList ++ rest := by
  have expect (ws : List Char) : Toml.expectWord ws cs = some rest ↔ cs = ws ++ rest := by
    induction ws generalizing cs with
    | nil => simp [Toml.expectWord, eq_comm]
    | cons w ws ih =>
      cases cs with
      | nil => simp [Toml.expectWord]
      | cons c cs =>
        rw [Toml.expectWord]
        by_cases same : w = c
        · subst same
          simp [ih]
        · simp [same, Ne.symm same]
  exact expect word.toList

theorem afterWord?_eq_none_iff {word : String} :
    afterWord? word cs = none ↔ ¬ word.toList <+: cs := by
  rw [Option.eq_none_iff_forall_ne_some]
  constructor
  · rintro none_ ⟨rest, rfl⟩
    exact none_ rest (afterWord?_eq_some_iff.2 rfl)
  · rintro no rest h
    exact no ⟨rest, (afterWord?_eq_some_iff.1 h).symm⟩

/-- One step of reading a value. -/
theorem takeValue_succ_iff : takeValue (fuel + 1) cs = some (value, rest) ↔
    ∃ tail, rest = skipBlanks tail ∧
    Begins (fun keyed cs rest => skipItems fuel keyed cs = some rest)
      (skipBlanks cs) value tail := by
  rw [takeValue, Option.map_eq_some_iff]
  generalize skipBlanks cs = ds
  constructor
  · rintro ⟨⟨_, tail⟩, found, ⟨⟩⟩
    refine ⟨tail, rfl, ?_⟩
    split at found
    · next word =>
      cases found
      rw [afterWord?_eq_some_iff.1 word]
      exact .yes _
    · next word =>
      cases found
      rw [afterWord?_eq_some_iff.1 word]
      exact .no _
    · next notTrue notFalse =>
      split at found
      · obtain ⟨rest, inside, ⟨⟩⟩ := Option.map_eq_some_iff.1 found
        exact .table inside
      · obtain ⟨rest, inside, ⟨⟩⟩ := Option.map_eq_some_iff.1 found
        exact .list inside
      · obtain ⟨⟨s, rest⟩, taken, ⟨⟩⟩ := Option.map_eq_some_iff.1 found
        obtain ⟨inside, quoted, rfl⟩ := takeString_eq_some_iff.1 taken
        exact .string quoted
      · cases found
        exact .char _ _
      · cases found
      · next noTable noList noString noChar noQuote =>
        rw [List.span_eq_takeWhile_dropWhile] at found
        cases found
        refine .plain ⟨afterWord?_eq_none_iff.1 notTrue, afterWord?_eq_none_iff.1 notFalse, ?_⟩
        intro c hc opens
        obtain ⟨ds, rfl⟩ : ∃ cs, ds = c :: cs := List.head?_eq_some_iff.1 hc
        simp only [List.mem_cons, List.not_mem_nil, or_false] at opens
        rcases opens with rfl | rfl | rfl | rfl
        exacts [noTable _ rfl, noList _ rfl, noString _ rfl, noQuote _ rfl]
  · rintro ⟨tail, rfl, begins⟩
    refine ⟨(value, tail), ?_, rfl⟩
    have words : ∀ {c : Char} {cs : List Char}, c ≠ 't' → c ≠ 'f' →
        afterWord? "true" (c :: cs) = none ∧ afterWord? "false" (c :: cs) = none := by
      intro c cs noT noF
      rw [afterWord?_eq_none_iff, afterWord?_eq_none_iff]
      constructor
      · rintro ⟨rest, same⟩
        exact noT (List.cons.inj same).1.symm
      · rintro ⟨rest, same⟩
        exact noF (List.cons.inj same).1.symm
    cases begins with
    | yes =>
      simp only [afterWord?_eq_some_iff.2 rfl]
    | no =>
      have noTrue : afterWord? "true" ("false".toList ++ tail) = none := rfl
      simp only [noTrue, afterWord?_eq_some_iff.2 rfl]
    | table inside =>
      simp only [words (show '\x7b' ≠ 't' by decide) (by decide), inside, Option.map_some]
    | list inside =>
      simp only [words (show '[' ≠ 't' by decide) (by decide), inside, Option.map_some]
    | string quoted =>
      simp only [words (show '"' ≠ 't' by decide) (by decide),
        takeString_eq_some_iff.2 ⟨_, quoted, rfl⟩, Option.map_some]
    | char c =>
      simp only [words (show '\'' ≠ 't' by decide) (by decide)]
    | plain bare =>
      simp only [afterWord?_eq_none_iff.2 bare.not_true, afterWord?_eq_none_iff.2 bare.not_false]
      have opens := bare.not_open
      split
      all_goals first
        | exact absurd (by simp) (opens _ rfl)
        | rw [List.span_eq_takeWhile_dropWhile]

theorem expect_eq_some_iff : Toml.expect c cs = some rest ↔ cs = c :: rest := by
  cases cs with
  | nil => simp [Toml.expect]
  | cons d cs =>
    rw [Toml.expect]
    by_cases same : c = d
    · simp [same]
    · simp [same, Ne.symm same]

/-- Behind an item stands what ends the items, or a comma and the next ones. -/
theorem takeNext_eq_some_iff {next? : List Char → Option (List Char)} (noComma : c ≠ ',') :
    (match cs with
      | ',' :: next => next? next
      | cs => Toml.expect c cs) = some rest ↔
      cs = c :: rest ∨ ∃ next, cs = ',' :: next ∧ next? next = some rest := by
  split
  · simp [noComma.symm]
  · next other =>
    rw [expect_eq_some_iff, or_iff_left]
    rintro ⟨next, same, -⟩
    exact other next same

theorem skipItems_cons :
    skipItems (fuel + 1) keyed (c :: cs) =
      if c = closing keyed then some cs
      else
        (behindKey? keyed (c :: cs)).bind fun mid => (takeValue fuel mid).bind fun item =>
          match item.2 with
          | ',' :: next => skipItems fuel keyed next
          | tail => Toml.expect (closing keyed) tail := by
  rw [skipItems]
  cases keyed <;> rfl

/-- One step of reading items. -/
theorem skipItems_succ_iff : skipItems (fuel + 1) keyed cs = some rest ↔
    cs = closing keyed :: rest ∨ ∃ c cs', cs = c :: cs' ∧ c ≠ closing keyed ∧ ∃ mid value tail,
    behindKey? keyed (c :: cs') = some mid ∧
      takeValue fuel mid = some (value, tail) ∧
        (tail = closing keyed :: rest ∨ ∃ next, tail = ',' :: next ∧
          skipItems fuel keyed next = some rest) := by
  have noComma : closing keyed ≠ ',' := by cases keyed <;> decide
  cases cs with
  | nil => simp [skipItems]
  | cons c cs =>
    rw [skipItems_cons]
    by_cases closed : c = closing keyed
    · subst closed
      simp
    · rw [if_neg closed]
      simp only [Option.bind_eq_some_iff, takeNext_eq_some_iff noComma]
      constructor
      · rintro ⟨mid, entry, ⟨value, tail⟩, taken, ends⟩
        exact .inr ⟨c, cs, rfl, closed, mid, value, tail, entry, taken, ends⟩
      · rintro (same | ⟨_, _, ⟨⟩, -, mid, value, tail, entry, taken, ends⟩)
        · exact absurd (List.cons.inj same).1 closed
        · exact ⟨mid, entry, ⟨value, tail⟩, taken, ends⟩

/-! ## Lengths -/

theorem length_skipBlanks_le (cs : List Char) : (skipBlanks cs).length ≤ cs.length :=
  (List.dropWhile_sublist _).length_le

theorem Quoted.length_lt (h : Quoted cs inside rest) : rest.length < cs.length := by
  induction h with
  | close rest => exact Nat.lt_succ_self _
  | escape escaped quoted ih =>
    have shorter := length_takeEscape_lt escaped
    rw [List.length_cons]
    omega
  | char noQuote noEscape line quoted ih =>
    rw [List.length_cons]
    omega

theorem length_behindKey?_le (h : behindKey? keyed cs = some mid) : mid.length ≤ cs.length := by
  have key {behind : List Char} (h : skipKey cs = some behind) : behind.length ≤ cs.length := by
    have blanks := length_skipBlanks_le cs
    unfold skipKey at h
    split at h
    · next rest same =>
      obtain ⟨⟨s, tail⟩, taken, rfl⟩ := Option.map_eq_some_iff.1 h
      obtain ⟨inside, quoted, -⟩ := takeString_eq_some_iff.1 taken
      have shorter := quoted.length_lt
      have le := length_skipBlanks_le tail
      rw [same, List.length_cons] at blanks
      dsimp only
      omega
    · rw [List.span_eq_takeWhile_dropWhile] at h
      split at h
      · cases h
      · next same =>
        cases h
        cases same
        have le := length_skipBlanks_le ((skipBlanks cs).dropWhile isKeyChar)
        have le' := (List.dropWhile_sublist isKeyChar (l := skipBlanks cs)).length_le
        omega
  cases keyed with
  | false =>
    cases h
    exact Nat.le_refl _
  | true =>
    obtain ⟨behind, found, sign⟩ := Option.bind_eq_some_iff.1 h
    rw [expect_eq_some_iff.1 sign] at found
    exact Nat.le_of_succ_le (key found)

variable {items items' : Bool → List Char → List Char → Prop} {tail : List Char}

theorem Begins.length_le (h : Begins items cs value tail)
    (shorter : ∀ {keyed cs rest}, items keyed cs rest → rest.length ≤ cs.length) :
    tail.length ≤ cs.length := by
  cases h with
  | yes | no => simp [Nat.add_assoc]
  | table inside | list inside => exact Nat.le_succ_of_le (shorter inside)
  | string quoted => exact Nat.le_succ_of_le (Nat.le_of_lt quoted.length_lt)
  | char => simp [Nat.add_assoc]
  | plain => exact (List.dropWhile_sublist _).length_le

/-- Only shorter lists and tables matter. -/
theorem Begins.mono (h : Begins items cs value tail)
    (same : ∀ {keyed cs' rest}, cs'.length < cs.length → items keyed cs' rest →
      items' keyed cs' rest) :
    Begins items' cs value tail := by
  cases h with
  | yes => exact .yes _
  | no => exact .no _
  | table inside => exact .table (same (Nat.lt_succ_self _) inside)
  | list inside => exact .list (same (Nat.lt_succ_self _) inside)
  | string quoted => exact .string quoted
  | char c => exact .char c _
  | plain bare => exact .plain bare

/-! ## The reader and the grammar -/

/-- What is read stands there. -/
theorem read_sound (fuel : Nat) :
    (∀ {cs value rest}, takeValue fuel cs = some (value, rest) → rest.length ≤ cs.length ∧
      ∃ tail, rest = skipBlanks tail ∧ Begins Items (skipBlanks cs) value tail) ∧
    ∀ {keyed cs rest}, skipItems fuel keyed cs = some rest →
    rest.length ≤ cs.length ∧ Items keyed cs rest := by
  induction fuel with
  | zero => exact ⟨nofun, nofun⟩
  | succ fuel ih =>
    obtain ⟨ihValue, ihItems⟩ := ih
    constructor
    · intro cs value rest h
      obtain ⟨tail, rfl, begins⟩ := takeValue_succ_iff.1 h
      have shorter := begins.length_le fun h => (ihItems h).1
      have blanks := length_skipBlanks_le cs
      have blanks' := length_skipBlanks_le tail
      exact ⟨by omega, tail, rfl, begins.mono fun _ h => (ihItems h).2⟩
    · intro keyed cs rest h
      rcases skipItems_succ_iff.1 h with
        rfl | ⟨c, cs, rfl, item, mid, value, tail, entry, taken, ends⟩
      · exact ⟨Nat.le_succ _, .close keyed rest⟩
      · have le := length_behindKey?_le entry
        obtain ⟨le', behind, rfl, begins⟩ := ihValue taken
        rcases ends with ends | ⟨next, ends, others⟩
        · rw [ends, List.length_cons] at le'
          exact ⟨by omega, .last item entry begins ends⟩
        · rw [ends, List.length_cons] at le'
          obtain ⟨le'', others⟩ := ihItems others
          exact ⟨by omega, .more item entry begins ends others⟩

/-- What stands there is read, if there is fuel enough. -/
theorem read_complete (fuel : Nat) :
    (∀ {cs value tail}, 2 * cs.length < fuel → Begins Items (skipBlanks cs) value tail →
      takeValue fuel cs = some (value, skipBlanks tail)) ∧
    ∀ {keyed cs rest}, 2 * cs.length + 1 < fuel → Items keyed cs rest →
    skipItems fuel keyed cs = some rest := by
  -- A value needs two steps for each character: one for an item that may be empty, and one for what
  -- opens a list.
  induction fuel with
  | zero => exact ⟨nofun, nofun⟩
  | succ fuel ih =>
    obtain ⟨ihValue, ihItems⟩ := ih
    constructor
    · intro cs value tail enough begins
      have blanks := length_skipBlanks_le cs
      exact takeValue_succ_iff.2 ⟨tail, rfl, begins.mono fun shorter h => ihItems (by omega) h⟩
    · intro keyed cs rest enough h
      rw [skipItems_succ_iff]
      cases h with
      | close => exact .inl rfl
      | @last _ c cs mid tail _ value item entry begins ends =>
        have le := length_behindKey?_le entry
        have taken := ihValue (show 2 * mid.length < fuel by omega) begins
        exact .inr ⟨c, cs, rfl, item, mid, value, _, entry, taken, .inl ends⟩
      | @more _ c cs mid tail next _ value item entry begins ends others =>
        have le := length_behindKey?_le entry
        have taken := ihValue (show 2 * mid.length < fuel by omega) begins
        have le' := ((read_sound fuel).1 taken).1
        rw [ends, List.length_cons] at le'
        exact .inr ⟨c, cs, rfl, item, mid, value, _, entry, taken,
          .inr ⟨next, ends, ihItems (by omega) others⟩⟩

/-! ## Values of texts -/

/-- The text spells the value: the grammar covers it to its end, but for blanks. -/
def Spells (s : String) (value : SettingValue) : Prop :=
  ∃ tail, Begins Items (skipBlanks s.toList) value tail ∧ skipBlanks tail = []

theorem takeValue_eq_some_iff :
    takeValue (2 * s.length + 2) s.toList = some (value, []) ↔ Spells s value := by
  constructor
  · intro h
    obtain ⟨-, tail, ends, begins⟩ := (read_sound _).1 h
    exact ⟨tail, begins, ends.symm⟩
  · rintro ⟨tail, begins, ends⟩
    have enough : 2 * s.toList.length < 2 * s.length + 2 := by
      rw [String.length_toList]
      omega
    rw [(read_complete _).1 enough begins, ends]

theorem readValue_of_spells (h : Spells s value) : readValue s = value := by
  rw [readValue, takeValue_eq_some_iff.2 h]

theorem readValue_of_not_spells (h : ∀ value, ¬ Spells s value) : readValue s = .text s := by
  unfold readValue
  split
  · next value taken => exact absurd (takeValue_eq_some_iff.1 taken) (h value)
  · rfl

/-- The characters are a number, whole or with a point. -/
def IsNumber (cs : List Char) : Prop :=
  ('.' ∈ cs ∧ ∃ x, Binary64.ofText? cs = some x) ∨
  (∃ n, Whole.readNat (Whole.bound 64 - 1) cs = .ok n) ∨
    ∃ n, Whole.readInt (Whole.bound 63) (Whole.bound 63 - 1) cs = .ok n

theorem plainValue_eq_text_iff :
    plainValue cs = .text s ↔ ¬ IsNumber (trimChars cs) ∧ s = String.ofList (trimChars cs) := by
  unfold plainValue IsNumber
  generalize trimChars cs = ds
  dsimp only
  cases float : (if ds.contains '.' then Binary64.ofText? ds else none) with
  | some x =>
    have number : '.' ∈ ds ∧ Binary64.ofText? ds = some x := by simpa using float
    simp [number]
  | none =>
    have noFloat : ¬ ('.' ∈ ds ∧ ∃ x, Binary64.ofText? ds = some x) := by
      rintro ⟨point, x, number⟩
      simp [point, number] at float
    cases natural : Whole.readNat (Whole.bound 64 - 1) ds with
    | ok n => simp
    | error fault =>
      cases integer : Whole.readInt (Whole.bound 63) (Whole.bound 63 - 1) ds with
      | ok n => simp
      | error fault =>
        simp only [noFloat, SettingValue.text.injEq, reduceCtorEq, exists_false, or_self,
          not_false_eq_true, true_and]
        exact eq_comm

/-- The text is a value as it stands: it opens no other kind of value, has no separators and no
blanks at its ends, and is no number. -/
structure IsPlain (s : String) : Prop where
  bare : IsBare s.toList
  whole : ∀ c ∈ s.toList, isSeparator c = false
  trimmed : trim s = s
  no_number : ¬ IsNumber s.toList

theorem length_trimChars_le (cs : List Char) :
    (trimChars cs).length ≤ (cs.dropWhile isBlank).length := by
  rw [trimChars, dropEnd, List.length_reverse]
  simpa using (List.dropWhile_sublist isBlank (l := (cs.dropWhile isBlank).reverse)).length_le

theorem isBlank_of_isAsciiBlank (h : isAsciiBlank c = true) : isBlank c = true := by
  simp only [isAsciiBlank, Bool.or_eq_true, beq_iff_eq] at h
  rcases h with (((rfl | rfl) | rfl) | rfl) | rfl <;> decide

theorem skipBlanks_of_trimmed (trimmed : trimChars cs = cs) : skipBlanks cs = cs := by
  cases cs with
  | nil => rfl
  | cons c cs =>
    have noBlank : ¬ isAsciiBlank c = true := by
      intro blank
      have le := length_trimChars_le (c :: cs)
      have le' := (List.dropWhile_sublist isBlank (l := cs)).length_le
      rw [trimmed, List.dropWhile_cons_of_pos (isBlank_of_isAsciiBlank blank),
        List.length_cons] at le
      omega
    exact List.dropWhile_cons_of_neg noBlank

theorem IsPlain.spells (h : IsPlain s) : Spells s (.text s) := by
  have trimmed : trimChars s.toList = s.toList := by
    simpa [trim] using congrArg String.toList h.trimmed
  have all : ∀ c ∈ s.toList, (!isSeparator c) = true := fun c hc => by simp [h.whole c hc]
  have begins : Begins Items s.toList _ _ := .plain h.bare
  rw [List.takeWhile_eq_self_iff.2 all, List.dropWhile_eq_nil_iff.2 all] at begins
  refine ⟨[], ?_, rfl⟩
  rw [skipBlanks_of_trimmed trimmed]
  convert begins
  refine (plainValue_eq_text_iff.2 ⟨?_, ?_⟩).symm
  · rw [trimmed]
    exact h.no_number
  · rw [trimmed, String.ofList_toList]

theorem Quoted.length_inside_lt (h : Quoted cs inside rest) : inside.length < cs.length := by
  induction h with
  | close rest => exact Nat.succ_pos _
  | escape escaped quoted ih =>
    have shorter := length_takeEscape_lt escaped
    rw [List.length_cons, List.length_cons]
    omega
  | char noQuote noEscape line quoted ih =>
    rw [List.length_cons, List.length_cons]
    omega

theorem isAsciiBlank_of_isSeparator (h : isSeparator c = true) : isAsciiBlank c = false := by
  have among : c ∈ [',', '\x7b', '\x7d', '[', ']'] := List.contains_iff_mem.1 h
  simp only [List.mem_cons, List.not_mem_nil, or_false] at among
  rcases among with rfl | rfl | rfl | rfl | rfl <;> rfl

theorem skipBlanks_dropWhile_eq_nil_iff :
    skipBlanks (cs.dropWhile fun c => !isSeparator c) = [] ↔ ∀ c ∈ cs, isSeparator c = false := by
  constructor
  · intro ends
    cases behind : cs.dropWhile fun c => !isSeparator c with
    | nil => simpa using List.dropWhile_eq_nil_iff.1 behind
    | cons c rest =>
      have separator := List.head?_dropWhile_not (fun c => !isSeparator c) cs
      rw [behind] at separator
      have noBlank := isAsciiBlank_of_isSeparator (c := c) (by simpa using separator)
      rw [behind, skipBlanks, List.dropWhile_cons_of_neg (by simp [noBlank])] at ends
      cases ends
  · intro all
    rw [List.dropWhile_eq_nil_iff.2 fun c hc => by simp [all c hc]]
    rfl

theorem IsPlain.of_spells (h : Spells s (.text s)) : IsPlain s := by
  obtain ⟨tail, begins, ends⟩ := h
  have blanks := length_skipBlanks_le s.toList
  generalize same : skipBlanks s.toList = ds at begins
  generalize spelt : SettingValue.text s = value at begins
  cases begins with
  | yes | no | table | list => cases spelt
  | string quoted =>
    cases spelt
    have shorter := quoted.length_inside_lt
    rw [same, String.toList_ofList, List.length_cons] at blanks
    omega
  | char c =>
    cases spelt
    rw [same] at blanks
    have short : c.toString.toList = [c] := by simp
    rw [short] at blanks
    simp [Nat.add_assoc] at blanks
  | plain bare =>
    have whole := skipBlanks_dropWhile_eq_nil_iff.1 ends
    rw [List.takeWhile_eq_self_iff.2 fun c hc => by simp [whole c hc]] at spelt
    obtain ⟨noNumber, text⟩ := plainValue_eq_text_iff.1 spelt.symm
    have chars : s.toList = trimChars ds := by rw [text, String.toList_ofList]
    -- Skipping blanks and trimming leave all characters, so neither leaves out one.
    have untouched : ds = s.toList := by
      have le := length_trimChars_le ds
      have le' := (List.dropWhile_sublist isBlank (l := ds)).length_le
      have longer : s.toList.length ≤ (skipBlanks s.toList).length := by
        rw [same, chars]
        omega
      rw [← same]
      exact (List.dropWhile_sublist isAsciiBlank).eq_of_length (Nat.le_antisymm blanks longer)
    subst untouched
    exact ⟨bare, whole, by rw [trim, ← chars, String.ofList_toList], chars ▸ noNumber⟩

/-- The text is taken literally: the grammar does not cover it, or it is plain. -/
def IsLiteral (s : String) : Prop := (∀ value, ¬ Spells s value) ∨ IsPlain s

/-- **A text is its own value exactly if it is literal.** -/
theorem readValue_eq_text_self_iff : readValue s = .text s ↔ IsLiteral s := by
  constructor
  · intro h
    by_cases spells : ∃ value, Spells s value
    · obtain ⟨value, spelt⟩ := spells
      rw [readValue_of_spells spelt] at h
      exact .inr (.of_spells (h ▸ spelt))
    · exact .inl fun value spelt => spells ⟨value, spelt⟩
  · rintro (none_ | plain)
    · exact readValue_of_not_spells none_
    · exact readValue_of_spells plain.spells

end FirewallOrder.Environment
