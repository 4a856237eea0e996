import Mathlib.Data.List.Basic

/-!
# Words of a shell

How a POSIX shell reads a word of a command: where it ends and what is left of
it after the quotes are removed.  A word has no value here if the value depends
on variables, commands or files, if the standard leaves it open, or if a
quotation is not closed.
-/

namespace Text

/-- Whether a dollar sign that starts no expansion stands for itself is left open by the
standard. -/
structure Shell where
  keepsDollar : Bool

inductive Quoting where
  | unquoted
  | single
  | double
  deriving DecidableEq

namespace Shell

/-- What follows a dollar sign is a parameter, an expression or a command. -/
def startsExpansion : List Char → Bool
  | [] => false
  | char :: _ => char.isAlphanum || char ∈ ['_', '{', '(', '@', '*', '#', '?', '-', '$', '!']

/-- The characters that end a word unless they are quoted. -/
def separators : List Char := [' ', '\t', '\n', '|', '&', ';', '<', '>', '(', ')']

/-- The characters that a backslash escapes inside double quotes. -/
def escapable : List Char := ['$', '`', '"', '\\']

/-- The character belongs to the value; none contains a null. -/
def emit (char : Char) (read : Option (List Char × List Char)) :
    Option (List Char × List Char) :=
  if char = '\x00' then none else read.map fun (value, rest) => (char :: value, rest)

/-- Read on in a word, to its value and what follows the word. -/
def read (shell : Shell) : Quoting → List Char → Option (List Char × List Char)
  | .unquoted, [] => some ([], [])
  | .single, [] | .double, [] => none
  | .unquoted, char :: rest =>
      if char ∈ separators then some ([], char :: rest)
      else if char = '\'' then read shell .single rest
      else if char = '"' then read shell .double rest
      else if char = '\\' then
        match rest with
        | [] => none
        | next :: after =>
            if next = '\n' then read shell .unquoted after
            else emit next (read shell .unquoted after)
      else if char ∈ ['`', '*', '?', '['] then none
      else if char = '$' then
        if shell.keepsDollar && !startsExpansion rest &&
            !(rest.head? == some '\'' || rest.head? == some '"') then
          emit char (read shell .unquoted rest)
        else none
      else emit char (read shell .unquoted rest)
  | .single, char :: rest =>
      if char = '\'' then read shell .unquoted rest else emit char (read shell .single rest)
  | .double, char :: rest =>
      if char = '"' then read shell .unquoted rest
      else if char = '\\' then
        match rest with
        | [] => none
        | next :: after =>
            if next = '\n' then read shell .double after
            else if next ∈ escapable then emit next (read shell .double after)
            else emit char (emit next (read shell .double after))
      else if char = '`' then none
      else if char = '$' then
        if shell.keepsDollar && !startsExpansion rest then emit char (read shell .double rest)
        else none
      else emit char (read shell .double rest)

/-- The text stands for itself between double quotes once its own ones are escaped. -/
def safe (shell : Shell) : List Char → Bool
  | [] => true
  | char :: rest =>
      (if char = '\\' then
        match rest with
        | [] => false
        | next :: _ => next != '\n' && next ∉ escapable
      else if char = '$' then shell.keepsDollar && !startsExpansion rest
      else char != '`' && char != '\x00') && safe shell rest

/-- Put a backslash before every double quote. -/
def escapeQuotes (text : List Char) : List Char :=
  text.flatMap fun char => if char = '"' then ['\\', '"'] else [char]

/-- Everything but backslashes is counted. -/
def visible (text : List Char) : Nat := text.countP fun char => char != '\\'

/-- Backslashes and double quotes are counted. -/
def marks (text : List Char) : Nat := text.countP fun char => char == '\\' || char == '"'

theorem emit_eq_some {char : Char} {result : Option (List Char × List Char)}
    {value rest : List Char} (emitted : emit char result = some (value, rest)) :
    char ≠ '\x00' ∧ ∃ others, value = char :: others ∧ result = some (others, rest) := by
  unfold emit at emitted
  split at emitted
  · cases emitted
  · rename_i present
    obtain ⟨⟨others, left⟩, same, made⟩ := Option.map_eq_some_iff.mp emitted
    cases made
    exact ⟨present, others, rfl, same⟩

/-- The part of a text that was read, of which the value is made.  A quotation takes a mark that
is not part of the value to close it; if nothing else is left out, a double quote is part of the
value only after a backslash that is not. -/
structure Accounts (quoting : Quoting) (text value rest : List Char) (taken : List Char) :
    Prop where
  split : text = taken ++ rest
  subset : value ⊆ taken
  fewer : visible value + (if quoting = .unquoted then 0 else 1) ≤ visible taken
  tight : quoting ≠ .single →
    visible value + (if quoting = .unquoted then 0 else 1) = visible taken →
      marks value ≤ taken.count '\\'

namespace Accounts

variable {quoting : Quoting} {text value rest taken : List Char}

theorem visible_cons (char : Char) (text : List Char) :
    visible (char :: text) = visible text + if char = '\\' then 0 else 1 := by
  by_cases slash : char = '\\' <;> simp [visible, slash]

theorem marks_cons (char : Char) (text : List Char) :
    marks (char :: text) = marks text + if char = '\\' ∨ char = '"' then 1 else 0 := by
  by_cases mark : char = '\\' ∨ char = '"'
  · rcases mark with rfl | rfl <;> simp [marks]
  · rw [not_or] at mark
    simp [marks, mark]

theorem count_cons (char : Char) (text : List Char) :
    (char :: text).count '\\' = text.count '\\' + if char = '\\' then 1 else 0 := by
  by_cases slash : char = '\\' <;> simp [slash]

/-- Nothing is read. -/
theorem nothing (text : List Char) : Accounts .unquoted text [] text [] where
  split := rfl
  subset := List.nil_subset _
  fewer := Nat.zero_le _
  tight _ _ := Nat.zero_le _

theorem emit (accounts : Accounts quoting text value rest taken) {char : Char}
    (plain : quoting ≠ .single → char ≠ '"') :
    Accounts quoting (char :: text) (char :: value) rest (char :: taken) where
  split := congrArg (char :: ·) accounts.split
  subset := List.cons_subset_cons char accounts.subset
  fewer := by
    have fewer := accounts.fewer
    rw [visible_cons, visible_cons]
    omega
  tight double same := by
    have tight := accounts.tight double
    have notQuote := plain double
    rw [visible_cons, visible_cons] at same
    rw [marks_cons, count_cons]
    simp only [notQuote, or_false]
    omega

theorem escape (accounts : Accounts quoting text value rest taken) (double : quoting ≠ .single)
    (next : Char) :
    Accounts quoting ('\\' :: next :: text) (next :: value) rest ('\\' :: next :: taken) where
  split := congrArg (fun text => '\\' :: next :: text) accounts.split
  subset := List.subset_cons_of_subset _ (List.cons_subset_cons next accounts.subset)
  fewer := by
    have fewer := accounts.fewer
    rw [visible_cons '\\', visible_cons next, visible_cons next, if_pos rfl]
    omega
  tight _ same := by
    have tight := accounts.tight double
    rw [visible_cons '\\', visible_cons next, visible_cons next, if_pos rfl] at same
    rw [marks_cons, count_cons, count_cons, if_pos rfl]
    split <;> omega

theorem newline : '\n' ≠ '\\' := by decide

/-- A line that is continued is left out. -/
theorem join (accounts : Accounts quoting text value rest taken) :
    Accounts quoting ('\\' :: '\n' :: text) value rest ('\\' :: '\n' :: taken) where
  split := congrArg (fun text => '\\' :: '\n' :: text) accounts.split
  subset := List.subset_cons_of_subset _ (List.subset_cons_of_subset _ accounts.subset)
  fewer := by
    have fewer := accounts.fewer
    rw [visible_cons '\\', visible_cons '\n', if_pos rfl, if_neg newline]
    omega
  tight _ same := by
    have fewer := accounts.fewer
    rw [visible_cons '\\', visible_cons '\n', if_pos rfl, if_neg newline] at same
    omega

theorem enter (accounts : Accounts quoting text value rest taken) (quoted : quoting ≠ .unquoted)
    {mark : Char} (visible : mark ≠ '\\') :
    Accounts .unquoted (mark :: text) value rest (mark :: taken) where
  split := congrArg (mark :: ·) accounts.split
  subset := List.subset_cons_of_subset _ accounts.subset
  fewer := by
    have fewer := accounts.fewer
    rw [visible_cons, if_neg visible, if_pos rfl]
    omega
  tight _ same := by
    have fewer := accounts.fewer
    rw [if_neg quoted] at fewer
    rw [visible_cons, if_neg visible, if_pos rfl] at same
    omega

theorem leave (accounts : Accounts .unquoted text value rest taken)
    (quoted : quoting ≠ .unquoted) {mark : Char} (visible : mark ≠ '\\') :
    Accounts quoting (mark :: text) value rest (mark :: taken) where
  split := congrArg (mark :: ·) accounts.split
  subset := List.subset_cons_of_subset _ accounts.subset
  fewer := by
    have fewer := accounts.fewer
    rw [if_pos rfl] at fewer
    rw [visible_cons, if_neg visible, if_neg quoted]
    omega
  tight _ same := by
    have tight := accounts.tight (by decide)
    rw [if_pos rfl] at tight
    rw [visible_cons, if_neg visible, if_neg quoted] at same
    rw [count_cons, if_neg visible]
    exact tight (by omega)

end Accounts

section Reading

variable {quoting : Quoting} {text value rest : List Char} {char : Char}
  {result : Option (List Char × List Char)}

theorem accounts_of_emit
    (later : ∀ value rest, result = some (value, rest) →
      ∃ taken, Accounts quoting text value rest taken)
    (emitted : emit char result = some (value, rest)) (plain : quoting ≠ .single → char ≠ '"') :
    ∃ taken, Accounts quoting (char :: text) value rest taken := by
  obtain ⟨_, others, rfl, read⟩ := emit_eq_some emitted
  obtain ⟨taken, accounts⟩ := later others rest read
  exact ⟨char :: taken, accounts.emit plain⟩

theorem accounts_of_escape
    (later : ∀ value rest, result = some (value, rest) →
      ∃ taken, Accounts quoting text value rest taken)
    (emitted : emit char result = some (value, rest)) (double : quoting ≠ .single) :
    ∃ taken, Accounts quoting ('\\' :: char :: text) value rest taken := by
  obtain ⟨_, others, rfl, read⟩ := emit_eq_some emitted
  obtain ⟨taken, accounts⟩ := later others rest read
  exact ⟨'\\' :: char :: taken, accounts.escape double char⟩

end Reading

/-- Every word that is read is accounted for; one case for each branch of the reader. -/
theorem read_accounts (shell : Shell) (quoting : Quoting) (text value rest : List Char)
    (read : shell.read quoting text = some (value, rest)) :
    ∃ taken, Accounts quoting text value rest taken := by
  fun_induction Shell.read shell quoting text generalizing value rest with
  | case1 =>
      cases read
      exact ⟨[], .nothing []⟩
  | case2 => cases read
  | case3 => cases read
  | case4 char after separator =>
      cases read
      exact ⟨[], .nothing _⟩
  | case5 after _ later =>
      obtain ⟨taken, accounts⟩ := later value rest read
      exact ⟨'\'' :: taken, accounts.enter (by decide) (by decide)⟩
  | case6 after _ _ later =>
      obtain ⟨taken, accounts⟩ := later value rest read
      exact ⟨'"' :: taken, accounts.enter (by decide) (by decide)⟩
  | case7 => cases read
  | case8 after _ _ _ later =>
      obtain ⟨taken, accounts⟩ := later value rest read
      exact ⟨_, accounts.join⟩
  | case9 next after _ _ _ _ later => exact accounts_of_escape later read (by decide)
  | case10 => cases read
  | case11 after _ _ _ _ _ _ later => exact accounts_of_emit later read fun _ => by decide
  | case12 => cases read
  | case13 char after _ _ notQuote _ _ _ later =>
      exact accounts_of_emit later read fun _ => notQuote
  | case14 after later =>
      obtain ⟨taken, accounts⟩ := later value rest read
      exact ⟨'\'' :: taken, accounts.leave (by decide) (by decide)⟩
  | case15 char after _ later =>
      exact accounts_of_emit later read fun double => absurd rfl double
  | case16 after later =>
      obtain ⟨taken, accounts⟩ := later value rest read
      exact ⟨'"' :: taken, accounts.leave (by decide) (by decide)⟩
  | case17 => cases read
  | case18 after _ later =>
      obtain ⟨taken, accounts⟩ := later value rest read
      exact ⟨_, accounts.join⟩
  | case19 next after _ _ _ later => exact accounts_of_escape later read (by decide)
  | case20 next after _ literal _ later =>
      have notQuote : next ≠ '"' := by
        rintro rfl
        exact literal (by decide)
      exact accounts_of_emit (fun value rest emitted =>
        accounts_of_emit later emitted fun _ => notQuote) read fun _ => by decide
  | case21 => cases read
  | case22 after _ _ _ _ later => exact accounts_of_emit later read fun _ => by decide
  | case23 => cases read
  | case24 char after notQuote _ _ _ later =>
      exact accounts_of_emit later read fun _ => notQuote

@[simp]
theorem escapeQuotes_nil : escapeQuotes [] = [] := rfl

theorem escapeQuotes_cons (char : Char) (text : List Char) :
    escapeQuotes (char :: text) =
      (if char = '"' then ['\\', '"'] else [char]) ++ escapeQuotes text := rfl

theorem escapeQuotes_quote (text : List Char) :
    escapeQuotes ('"' :: text) = '\\' :: '"' :: escapeQuotes text := rfl

theorem escapeQuotes_of_ne {char : Char} (notQuote : char ≠ '"') (text : List Char) :
    escapeQuotes (char :: text) = char :: escapeQuotes text := by
  rw [escapeQuotes_cons, if_neg notQuote]
  rfl

theorem visible_escapeQuotes (text : List Char) : visible (escapeQuotes text) = visible text := by
  induction text with
  | nil => rfl
  | cons char rest ih =>
      by_cases quote : char = '"'
      · subst quote
        rw [escapeQuotes_quote, Accounts.visible_cons '\\', Accounts.visible_cons '"',
          Accounts.visible_cons '"', ih, if_pos rfl, Nat.add_zero]
      · rw [escapeQuotes_of_ne quote, Accounts.visible_cons, Accounts.visible_cons,
          ih]

theorem count_escapeQuotes (text : List Char) : (escapeQuotes text).count '\\' = marks text := by
  induction text with
  | nil => rfl
  | cons char rest ih =>
      by_cases quote : char = '"'
      · subst quote
        rw [escapeQuotes_quote, Accounts.count_cons, Accounts.count_cons, Accounts.marks_cons,
          ih]
        simp
      · rw [escapeQuotes_of_ne quote, Accounts.count_cons, Accounts.marks_cons,
          ih]
        simp [quote]

/-- What is read of an escaped text and its closing quote has no more in it than the text. -/
theorem read_escapeQuotes_bounds {shell : Shell} {quoting : Quoting} {text value rest : List Char}
    (read : shell.read quoting (escapeQuotes text ++ '"' :: rest) = some (value, rest))
    (double : quoting ≠ .single) :
    visible value + (if quoting = .unquoted then 0 else 1) ≤ visible text + 1 ∧
      (visible value + (if quoting = .unquoted then 0 else 1) = visible text + 1 →
        marks value ≤ marks text) := by
  obtain ⟨taken, accounts⟩ := read_accounts shell quoting _ value rest read
  have closed : escapeQuotes text ++ '"' :: rest = (escapeQuotes text ++ ['"']) ++ rest := by simp
  obtain rfl : escapeQuotes text ++ ['"'] = taken :=
    List.append_cancel_right (closed.symm.trans accounts.split)
  have seen : visible (escapeQuotes text ++ ['"']) = visible text + 1 := by
    rw [← visible_escapeQuotes text]
    simp [visible]
  have counted : (escapeQuotes text ++ ['"']).count '\\' = marks text := by
    rw [← count_escapeQuotes text]
    simp
  refine ⟨seen ▸ accounts.fewer, fun same => ?_⟩
  rw [← counted]
  exact accounts.tight double (same.trans seen.symm)

theorem startsExpansion_escapeQuotes (text rest : List Char) :
    startsExpansion (escapeQuotes text ++ '"' :: rest) = startsExpansion text := by
  cases text with
  | nil => rfl
  | cons char others =>
      by_cases quote : char = '"'
      · subst quote
        rfl
      · rw [escapeQuotes_of_ne quote]
        rfl

theorem emit_eq_some_iff {char : Char} {result : Option (List Char × List Char)}
    {value rest : List Char} :
    emit char result = some (char :: value, rest) ↔
      char ≠ '\x00' ∧ result = some (value, rest) := by
  constructor
  · intro emitted
    obtain ⟨present, others, same, read⟩ := emit_eq_some emitted
    cases same
    exact ⟨present, read⟩
  · rintro ⟨present, rfl⟩
    rw [emit, if_neg present]
    rfl

/-- The value starts with the character that is read first. -/
theorem emit_ne {char first : Char} (different : first ≠ char)
    {result : Option (List Char × List Char)} {value rest : List Char} :
    emit char result ≠ some (first :: value, rest) := by
  intro emitted
  obtain ⟨_, others, same, _⟩ := emit_eq_some emitted
  exact different (List.cons.inj same).1

section Equations

variable (shell : Shell)

theorem read_double_escaped {next : Char} (escaped : next ∈ escapable) (after : List Char) :
    shell.read .double ('\\' :: next :: after) = emit next (shell.read .double after) := by
  have kept : next ≠ '\n' := by
    rintro rfl
    exact absurd escaped (by decide)
  simp [Shell.read, kept, escaped]

theorem read_double_joined (after : List Char) :
    shell.read .double ('\\' :: '\n' :: after) = shell.read .double after := by
  simp [Shell.read]

theorem read_double_plain {char : Char} (literal : char ∉ escapable) (after : List Char) :
    shell.read .double (char :: after) = emit char (shell.read .double after) := by
  simp only [escapable, List.mem_cons, List.not_mem_nil, or_false, not_or] at literal
  obtain ⟨dollar, backquote, quote, slash⟩ := literal
  rw [Shell.read.eq_def]
  simp [dollar, backquote, quote, slash]

/-- A backslash before any other character is one. -/
theorem read_double_backslash {next : Char} (literal : next ∉ escapable) (kept : next ≠ '\n')
    (after : List Char) :
    shell.read .double ('\\' :: next :: after) =
      emit '\\' (shell.read .double (next :: after)) := by
  rw [read_double_plain shell literal]
  simp [Shell.read, kept, literal]

theorem read_double_dollar (after : List Char) :
    shell.read .double ('$' :: after) =
      if shell.keepsDollar && !startsExpansion after then emit '$' (shell.read .double after)
      else none := by
  rw [Shell.read.eq_def]
  simp

theorem read_double_quote (after : List Char) :
    shell.read .double ('"' :: after) = shell.read .unquoted after := by
  rw [Shell.read.eq_def]
  simp

end Equations

/-- The end of a command, or a character that separates words. -/
def EndsWord (rest : List Char) : Prop := ∀ char ∈ rest.head?, char ∈ separators

theorem read_unquoted_of_ends (shell : Shell) {rest : List Char} (ends : EndsWord rest) :
    shell.read .unquoted rest = some ([], rest) := by
  cases rest with
  | nil => rfl
  | cons char after =>
      have separator : char ∈ separators := ends char rfl
      rw [Shell.read.eq_def]
      simp [separator]

/-- A backslash that is taken for an escape is missing from the value. -/
theorem read_backslash_ne (shell : Shell) {next : Char} {text rest : List Char}
    (taken : next = '\n' ∨ next ∈ escapable) :
    shell.read .double (escapeQuotes ('\\' :: next :: text) ++ '"' :: rest) ≠
      some ('\\' :: next :: text, rest) := by
  intro read
  rw [escapeQuotes_of_ne (by decide)] at read
  by_cases quote : next = '"'
  · -- The backslash that was put before the quote is escaped, so that the quote closes.
    subst quote
    rw [escapeQuotes_quote, List.cons_append, List.cons_append,
      read_double_escaped shell (by decide), emit_eq_some_iff, List.cons_append,
      read_double_quote] at read
    have bounds := read_escapeQuotes_bounds read.2 (by decide)
    have more := bounds.2
    rw [if_pos rfl, Accounts.visible_cons, Accounts.marks_cons, if_neg (by decide),
      if_pos (.inr rfl)] at more
    omega
  · rw [escapeQuotes_of_ne quote, List.cons_append, List.cons_append] at read
    by_cases slash : next = '\\'
    · subst slash
      rw [read_double_escaped shell (by decide), emit_eq_some_iff] at read
      have more := (read_escapeQuotes_bounds read.2 (by decide)).2
      rw [if_neg (by decide), Accounts.visible_cons, Accounts.marks_cons, if_pos rfl,
        if_pos (.inl rfl)] at more
      omega
    · by_cases broken : next = '\n'
      · subst broken
        rw [read_double_joined] at read
        have fewer := (read_escapeQuotes_bounds read (by decide)).1
        rw [if_neg (by decide), Accounts.visible_cons, Accounts.visible_cons, if_pos rfl,
          if_neg Accounts.newline] at fewer
        omega
      · rw [read_double_escaped shell (taken.resolve_left broken)] at read
        exact emit_ne (Ne.symm slash) read

/-- An escaped text between double quotes stands for the text exactly if the text is safe. -/
theorem read_escapeQuotes_iff (shell : Shell) (text : List Char) {rest : List Char}
    (ends : EndsWord rest) :
    shell.read .double (escapeQuotes text ++ '"' :: rest) = some (text, rest) ↔
      shell.safe text = true := by
  induction text with
  | nil =>
      rw [escapeQuotes_nil, List.nil_append, read_double_quote, read_unquoted_of_ends shell ends]
      simp [safe]
  | cons char text ih =>
      by_cases quote : char = '"'
      · subst quote
        rw [escapeQuotes_quote, List.cons_append, List.cons_append,
          read_double_escaped shell (by decide), emit_eq_some_iff, ih]
        simp [safe]
      by_cases slash : char = '\\'
      · subst slash
        cases text with
        | nil =>
            rw [escapeQuotes_of_ne quote, escapeQuotes_nil, List.cons_append, List.nil_append,
              read_double_escaped shell (by decide)]
            exact iff_of_false (emit_ne (by decide)) (by simp [safe])
        | cons next others =>
            by_cases taken : next = '\n' ∨ next ∈ escapable
            · refine iff_of_false (read_backslash_ne shell taken) ?_
              rcases taken with rfl | escaped
              · simp [safe]
              · simp [safe, escaped]
            · rw [not_or] at taken
              have notQuote : next ≠ '"' := by
                rintro rfl
                exact taken.2 (by decide)
              rw [escapeQuotes_of_ne quote, escapeQuotes_of_ne notQuote, List.cons_append,
                List.cons_append, read_double_backslash shell taken.2 taken.1, emit_eq_some_iff,
                ← List.cons_append, ← escapeQuotes_of_ne notQuote, ih]
              rw [safe.eq_def shell ('\\' :: next :: others)]
              simp [taken]
      rw [escapeQuotes_of_ne quote, List.cons_append]
      by_cases dollar : char = '$'
      · subst dollar
        rw [read_double_dollar, startsExpansion_escapeQuotes, safe.eq_def]
        by_cases literal : (shell.keepsDollar && !startsExpansion text) = true
        · rw [if_pos literal, emit_eq_some_iff, ih]
          simp_all
        · rw [if_neg literal]
          simp_all
      by_cases backquote : char = '`'
      · subst backquote
        rw [Shell.read.eq_def, safe.eq_def]
        simp
      rw [read_double_plain shell (by simp [escapable, quote, slash, dollar, backquote]),
        emit_eq_some_iff, ih, safe.eq_def shell (char :: text)]
      simp [slash, dollar, backquote]

/-- Write each line break as a backslash and a letter. -/
def escapeBreaks (text : List Char) : List Char :=
  text.flatMap fun char => if char = '\n' then ['\\', 'n'] else [char]

theorem escapeBreaks_of_not_mem {text : List Char} (unbroken : '\n' ∉ text) :
    escapeBreaks text = text := by
  induction text with
  | nil => rfl
  | cons char rest ih =>
      rw [List.mem_cons, not_or] at unbroken
      have later := ih unbroken.2
      unfold escapeBreaks at later ⊢
      rw [List.flatMap_cons, if_neg (Ne.symm unbroken.1), later]
      rfl

theorem not_mem_escapeBreaks (text : List Char) : '\n' ∉ escapeBreaks text := by
  intro broken
  obtain ⟨char, _, written⟩ := List.mem_flatMap.mp broken
  by_cases same : char = '\n'
  · rw [if_pos same] at written
    exact absurd written (by decide)
  · rw [if_neg same, List.mem_singleton] at written
    exact same written.symm

theorem mem_escapeQuotes {char : Char} {text : List Char} (notQuote : char ≠ '"')
    (notSlash : char ≠ '\\') : char ∈ escapeQuotes text ↔ char ∈ text := by
  unfold escapeQuotes
  rw [List.mem_flatMap]
  constructor
  · rintro ⟨source, held, written⟩
    by_cases quote : source = '"'
    · rw [if_pos quote] at written
      simp [notQuote, notSlash] at written
    · rw [if_neg quote, List.mem_singleton] at written
      exact written ▸ held
  · intro held
    exact ⟨char, held, by simp [notQuote]⟩

/-- Line breaks that are written with a letter are not found in the value. -/
theorem read_escapeBreaks_iff (shell : Shell) (text : List Char) {rest : List Char}
    (ends : EndsWord rest) :
    shell.read .double (escapeBreaks (escapeQuotes text) ++ '"' :: rest) = some (text, rest) ↔
      shell.safe text = true ∧ '\n' ∉ text := by
  by_cases broken : '\n' ∈ text
  · refine iff_of_false (fun read => ?_) fun safe => safe.2 broken
    obtain ⟨taken, accounts⟩ := read_accounts shell .double _ text rest read
    have closed : escapeBreaks (escapeQuotes text) ++ '"' :: rest =
        (escapeBreaks (escapeQuotes text) ++ ['"']) ++ rest := by simp
    obtain rfl : escapeBreaks (escapeQuotes text) ++ ['"'] = taken :=
      List.append_cancel_right (closed.symm.trans accounts.split)
    rcases List.mem_append.mp (accounts.subset broken) with body | quote
    · exact not_mem_escapeBreaks _ body
    · exact absurd quote (by decide)
  · have unbroken : '\n' ∉ escapeQuotes text := by
      rwa [mem_escapeQuotes (by decide) (by decide)]
    rw [escapeBreaks_of_not_mem unbroken, read_escapeQuotes_iff shell text ends]
    exact ⟨fun safe => ⟨safe, broken⟩, fun safe => safe.1⟩

end Shell

end Text
