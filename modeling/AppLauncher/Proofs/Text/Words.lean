import AppLauncher.CommandLine
import AppLauncher.Text.Words

/-!
# Arguments and words

A reader of a command line keeps the word that it has begun and whether quoting is on.
`splitFrom_append` says that reading a text leaves it in a state that does not depend on what
follows, so a line may be cut at any place. An argument between quotes is then one word, whatever
stood before it (`splitFrom_argument`).

**`split_build`**: a command line with arguments falls into the words of its beginning and the
arguments, if quoting is off after the beginning and no argument holds a quote.

**`arguments_of_build`**: it does so only then, because no word holds a quote
(`quote_notMem_of_mem_splitFrom`), and arguments without quotes can be told from the line.
-/

namespace AppLauncher.Words

theorem splitFrom_nil (word : Option (List Char)) (quoted : Bool) :
    splitFrom word quoted [] = word.toList := by
  cases quoted <;> rfl

theorem splitFrom_quote (word : Option (List Char)) (quoted : Bool) (rest : List Char) :
    splitFrom word quoted ('"' :: rest) = splitFrom (some (word.getD [])) (!quoted) rest := by
  rw [splitFrom, if_pos rfl]

theorem splitFrom_space (word : Option (List Char)) (rest : List Char) :
    splitFrom word false (' ' :: rest) = word.toList ++ splitFrom none false rest := by
  rw [splitFrom, if_neg (by decide), if_pos ⟨rfl, rfl⟩]

theorem splitFrom_other (word : Option (List Char)) {quoted : Bool} {c : Char} (rest : List Char)
    (noQuote : c ≠ '"') (inside : ¬ (c = ' ' ∧ quoted = false)) :
    splitFrom word quoted (c :: rest) = splitFrom (some (word.getD [] ++ [c])) quoted rest := by
  rw [splitFrom, if_neg noQuote, if_neg inside]

/-- What a reader has after a text does not depend on the rest of the line: some words, perhaps a
word begun, and quoting changed by every quote. -/
theorem splitFrom_append (word : Option (List Char)) (quoted : Bool) (text : List Char) :
    ∃ words begun, ∀ rest, splitFrom word quoted (text ++ rest) =
      words ++ splitFrom begun (quoted ^^ !isBalanced text) rest := by
  induction text generalizing word quoted with
  | nil =>
    refine ⟨[], word, fun rest => ?_⟩
    have off : (quoted ^^ !isBalanced []) = quoted := by
      cases quoted <;> rfl
    rw [off]
    rfl
  | cons c text ih =>
    by_cases isQuote : c = '"'
    · subst isQuote
      obtain ⟨words, begun, reads⟩ := ih (some (word.getD [])) (!quoted)
      have parity : ((!quoted) ^^ !isBalanced text) = (quoted ^^ !isBalanced ('"' :: text)) := by
        have turned : isBalanced ('"' :: text) = !isBalanced text := by
          simp only [isBalanced, List.count_cons_self]
          rcases Nat.mod_two_eq_zero_or_one (text.count '"') with even | odd
          · simp [Nat.add_mod, even]
          · simp [Nat.add_mod, odd]
        rw [turned]
        cases quoted <;> cases isBalanced text <;> rfl
      refine ⟨words, begun, fun rest => ?_⟩
      rw [List.cons_append, splitFrom_quote, reads, parity]
    · have kept : isBalanced (c :: text) = isBalanced text := by
        rw [isBalanced, isBalanced, List.count_cons_of_ne isQuote]
      by_cases breaks : c = ' ' ∧ quoted = false
      · obtain ⟨rfl, rfl⟩ := breaks
        obtain ⟨words, begun, reads⟩ := ih none false
        refine ⟨word.toList ++ words, begun, fun rest => ?_⟩
        rw [List.cons_append, splitFrom_space, reads, kept, List.append_assoc]
      · obtain ⟨words, begun, reads⟩ := ih (some (word.getD [] ++ [c])) quoted
        refine ⟨words, begun, fun rest => ?_⟩
        rw [List.cons_append, splitFrom_other word _ isQuote breaks, reads, kept]

/-! ## Arguments -/

/-- Between quotes everything belongs to one word. -/
theorem splitFrom_inside (word arg rest : List Char) (plain : '"' ∉ arg) :
    splitFrom (some word) true (arg ++ '"' :: rest) =
      splitFrom (some (word ++ arg)) false rest := by
  induction arg generalizing word with
  | nil => simp [splitFrom_quote]
  | cons c arg ih =>
    have noQuote : c ≠ '"' := fun same => plain (by simp [same])
    have plain' : '"' ∉ arg := fun among => plain (List.mem_cons_of_mem c among)
    rw [List.cons_append, splitFrom_other _ _ noQuote (by simp), Option.getD_some, ih _ plain',
      List.append_assoc, List.singleton_append]

/-- An argument ends the word before it, and is the word begun after it. -/
theorem splitFrom_argument (word : Option (List Char)) (arg rest : List Char) (plain : '"' ∉ arg) :
    splitFrom word false (' ' :: '"' :: arg ++ '"' :: rest) =
      word.toList ++ splitFrom (some arg) false rest := by
  rw [List.cons_append, List.cons_append, splitFrom_space, splitFrom_quote]
  exact congrArg (word.toList ++ ·) (splitFrom_inside [] arg rest plain)

theorem splitFrom_arguments (word : Option (List Char)) (args : List (List Char))
    (plain : ∀ arg ∈ args, '"' ∉ arg) :
    splitFrom word false (args.flatMap fun arg => ' ' :: '"' :: arg ++ ['"']) =
      word.toList ++ args := by
  induction args generalizing word with
  | nil => simp [splitFrom_nil]
  | cons arg rest ih =>
    have plain' : ∀ arg ∈ rest, '"' ∉ arg := fun a among => plain a (List.mem_cons_of_mem arg among)
    have first := splitFrom_argument word arg
      (rest.flatMap fun arg => ' ' :: '"' :: arg ++ ['"']) (plain arg List.mem_cons_self)
    rw [List.flatMap_cons, List.append_assoc, List.singleton_append, first, ih _ plain']
    rfl

theorem toList_build (base : String) (args : List String) :
    (CommandLine.build base args).toList =
      base.toList ++ (args.map String.toList).flatMap fun arg => ' ' :: '"' :: arg ++ ['"'] := by
  induction args generalizing base with
  | nil => simp [CommandLine.build]
  | cons arg rest ih =>
    have next : CommandLine.build base (arg :: rest) =
        CommandLine.build (base ++ CommandLine.quoted arg) rest := rfl
    rw [next, ih, List.map_cons, List.flatMap_cons, String.toList_append]
    simp [CommandLine.quoted]

/-- **The words of a command line with arguments.** -/
theorem split_build {base : String} {args : List String} (balanced : isBalanced base.toList = true)
    (plain : ∀ arg ∈ args, CommandLine.hasEmbeddedQuote arg = false) :
    split (CommandLine.build base args).toList = split base.toList ++ args.map String.toList := by
  have plain' : ∀ arg ∈ args.map String.toList, '"' ∉ arg := by
    intro chars among
    obtain ⟨arg, isArg, rfl⟩ := List.mem_map.1 among
    simpa [CommandLine.hasEmbeddedQuote] using plain arg isArg
  obtain ⟨words, begun, reads⟩ := splitFrom_append none false base.toList
  rw [balanced] at reads
  have alone : split base.toList = words ++ begun.toList := by
    have nothing := reads []
    rwa [List.append_nil, splitFrom_nil] at nothing
  calc split (CommandLine.build base args).toList
      = words ++ splitFrom begun false
          ((args.map String.toList).flatMap fun arg => ' ' :: '"' :: arg ++ ['"']) := by
        rw [toList_build, split]
        exact reads _
    _ = words ++ (begun.toList ++ args.map String.toList) := by
        rw [splitFrom_arguments begun _ plain']
    _ = split base.toList ++ args.map String.toList := by
        rw [alone, List.append_assoc]

/-! ## Which arguments a line tells -/

/-- Quotes are dropped, so no word holds one. -/
theorem quote_notMem_of_mem_splitFrom {word : Option (List Char)} {quoted : Bool}
    {line found : List Char} (begun : ∀ chars, word = some chars → '"' ∉ chars)
    (among : found ∈ splitFrom word quoted line) : '"' ∉ found := by
  induction line generalizing word quoted with
  | nil =>
    rw [splitFrom_nil, Option.mem_toList] at among
    exact begun found among
  | cons c rest ih =>
    have clean : '"' ∉ word.getD [] := by
      cases word with
      | none => simp
      | some chars => exact begun chars rfl
    by_cases isQuote : c = '"'
    · subst isQuote
      rw [splitFrom_quote] at among
      apply ih _ among
      rintro chars ⟨⟩
      exact clean
    by_cases breaks : c = ' ' ∧ quoted = false
    · obtain ⟨rfl, rfl⟩ := breaks
      rw [splitFrom_space, List.mem_append, Option.mem_toList] at among
      rcases among with before | later
      · exact begun found before
      · exact ih (by simp) later
    · rw [splitFrom_other word rest isQuote breaks] at among
      apply ih _ among
      rintro chars ⟨⟩
      simp [clean, Ne.symm isQuote]

theorem split_build_iff {base : String} {args : List String}
    (balanced : isBalanced base.toList = true) :
    split (CommandLine.build base args).toList = split base.toList ++ args.map String.toList ↔
      ∀ arg ∈ args, CommandLine.hasEmbeddedQuote arg = false := by
  constructor
  · intro words arg isArg
    have isWord : arg.toList ∈ split (CommandLine.build base args).toList := by
      rw [words]
      exact List.mem_append_right _ (List.mem_map_of_mem isArg)
    have clean : '"' ∉ arg.toList := quote_notMem_of_mem_splitFrom (by simp) isWord
    simpa [CommandLine.hasEmbeddedQuote] using clean
  · exact split_build balanced

end AppLauncher.Words

namespace AppLauncher.CommandLine

/-- The words of a line that holds nothing but arguments are the arguments, so what a line begins
with does not matter. -/
theorem eq_of_build_eq {base : String} {args other : List String}
    (plain : ∀ arg ∈ args, hasEmbeddedQuote arg = false)
    (plain' : ∀ arg ∈ other, hasEmbeddedQuote arg = false)
    (same : build base args = build base other) : args = other := by
  have alone : (build "" args).toList = (build "" other).toList := by
    have lines := congrArg String.toList same
    rw [Words.toList_build, Words.toList_build] at lines ⊢
    rw [List.append_cancel_left lines]
  have words := congrArg Words.split alone
  rw [Words.split_build rfl plain, Words.split_build rfl plain'] at words
  have chars := List.append_cancel_left words
  rwa [List.map_inj_right fun _ _ => String.toList_inj.1] at chars

/-- **What a line tells of its arguments.** Arguments may be added at once or in two parts. Those
without quotes can be told from the line, whatever it begins with: no others of this kind make the
same line. If the line begins with quoting off, its words are those of the beginning and the
arguments exactly if no argument holds a quote. -/
theorem arguments_of_build (base : String) :
    (∀ args more, build base (args ++ more) = build (build base args) more) ∧
    (∀ args other, (∀ arg ∈ args, hasEmbeddedQuote arg = false) →
      (∀ arg ∈ other, hasEmbeddedQuote arg = false) →
      build base args = build base other → args = other) ∧
    (base.toList.count '"' % 2 = 0 → ∀ args,
      Words.split (build base args).toList =
          Words.split base.toList ++ args.map String.toList ↔
        ∀ arg ∈ args, hasEmbeddedQuote arg = false) := by
  refine ⟨build_append base, ?_, ?_⟩
  · intro args other plain plain' same
    exact eq_of_build_eq plain plain' same
  · intro even args
    apply Words.split_build_iff
    simp [Words.isBalanced, even]

/-- Spaces in an argument and empty arguments are kept, but not a quote that ends one early. -/
theorem arguments_of_build_of_spaces :
    Words.split (build "run \"it\"" ["a b", ""]).toList =
        ["run", "it", "a b", ""].map String.toList ∧
      (∀ other, (∀ arg ∈ other, hasEmbeddedQuote arg = false) →
        build "run" ["a b", ""] = build "run" other → ["a b", ""] = other) ∧
      Words.split (build "run" ["a\" \"b"]).toList ≠
        Words.split "run".toList ++ ["a\" \"b"].map String.toList := by
  refine ⟨?_, ?_, ?_⟩
  · exact ((arguments_of_build "run \"it\"").2.2 (by decide) ["a b", ""]).2 (by decide)
  · exact fun other plain same =>
      (arguments_of_build "run").2.1 ["a b", ""] other (by decide) plain same
  · intro words
    have plain := ((arguments_of_build "run").2.2 (by decide) ["a\" \"b"]).1 words
    revert plain
    decide

end AppLauncher.CommandLine
