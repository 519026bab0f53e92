import AppLauncher.Proofs.Launch.Stages
import AppLauncher.Proofs.Text.IllFormed

/-!
# Reading the arguments

Reading comes to one of three ends (`parse_cases`). Arguments are read exactly if writing them gives
them back, so nothing of them is lost or changed (`parse_eq_ok_iff`). What stops them from being read is one argument, the first after the path of
the launcher that is no text; there is at most one such (`FirstNotText.unique`), and it settles the
error, whatever stands after it (`parse_eq_error_iff`).

**`arguments_parsed`** puts the two together.
-/

namespace AppLauncher.Invocation

/-- The first argument after the launcher's path that is no text, and its position among all of
them. -/
structure FirstNotText (args : List Bytes) (position : Nat) (arg : Bytes) : Prop where
  stands : args[position]? = some arg
  passed : 0 < position
  notText : ¬ arg.toByteArray.IsValidUTF8
  first : ∀ i other, 0 < i → i < position → args[i]? = some other →
    other.toByteArray.IsValidUTF8

section FirstNotText

variable {args rest : List Bytes} {program arg : Bytes} {texts : List String} {position : Nat}

theorem firstNotText_of_texts (notText : ¬ Utf8.IsText arg) :
    FirstNotText (program :: (texts.map Utf8.ofString ++ arg :: rest)) (texts.length + 1) arg := by
  refine ⟨by simp, Nat.succ_pos _, ?_, ?_⟩
  · rwa [Utf8.isText_iff_isValidUTF8] at notText
  · intro i other passed before stands
    obtain ⟨j, rfl⟩ := Nat.exists_eq_add_of_lt passed
    have within : j < (texts.map Utf8.ofString).length := by
      rw [List.length_map]
      omega
    rw [Nat.zero_add, List.getElem?_cons_succ, List.getElem?_append_left within,
      List.getElem?_map] at stands
    obtain ⟨text, -, rfl⟩ := Option.map_eq_some_iff.1 stands
    rw [← Utf8.isText_iff_isValidUTF8]
    exact ⟨text, rfl⟩

theorem FirstNotText.unique {position' : Nat} {arg' : Bytes}
    (is : FirstNotText args position arg) (is' : FirstNotText args position' arg') :
    position = position' ∧ arg = arg' := by
  have same : position = position' := by
    rcases Nat.lt_trichotomy position position' with before | same | after
    · exact absurd (is'.first _ _ is.passed before is.stands) is.notText
    · exact same
    · exact absurd (is.first _ _ is'.passed after is'.stands) is'.notText
  subst same
  have stands := is.stands.symm.trans is'.stands
  exact ⟨rfl, Option.some.inj stands⟩

end FirstNotText

/-! ## What is read, and what is not -/

section Parse

variable {args : List Bytes} {invocation : Invocation} {position : Nat} {arg : Bytes}

/-- All that can come of reading arguments. -/
theorem parse_cases (args : List Bytes) :
    args = [] ∧ parse args = .error (.invalidArguments "the launcher path is missing") ∨
    (∃ invocation,
      args = invocation.program.bytes :: invocation.passthrough.map Utf8.ofString ∧
        parse args = .ok invocation) ∨
    ∃ position arg, FirstNotText args position arg ∧
      parse args = .error (notUnicode position arg) := by
  cases args with
  | nil => exact .inl ⟨rfl, rfl⟩
  | cons program rest =>
    right
    rcases Utf8.texts_or_notText rest with ⟨texts, rfl⟩ | ⟨texts, arg, more, rfl, notText⟩
    · left
      exact ⟨⟨⟨program⟩, texts⟩, rfl, parse_texts ⟨⟨program⟩, texts⟩⟩
    · right
      exact ⟨_, _, firstNotText_of_texts notText, parse_notText program texts notText more⟩

theorem parse_eq_ok_iff :
    parse args = .ok invocation ↔
      args = invocation.program.bytes :: invocation.passthrough.map Utf8.ofString := by
  constructor
  · intro parsed
    rcases parse_cases args with ⟨-, is⟩ | ⟨invocation', written, is⟩ | ⟨_, _, -, is⟩
    · cases is.symm.trans parsed
    · cases is.symm.trans parsed
      exact written
    · cases is.symm.trans parsed
  · rintro rfl
    exact parse_texts invocation

theorem parse_of_firstNotText (is : FirstNotText args position arg) :
    parse args = .error (notUnicode position arg) := by
  rcases parse_cases args with ⟨rfl, -⟩ | ⟨invocation, rfl, -⟩ | ⟨position', arg', is', refused⟩
  · have stands := is.stands
    simp at stands
  · -- All arguments after the path were written as texts, the one found among them too.
    obtain ⟨j, rfl⟩ := Nat.exists_eq_add_of_lt is.passed
    have stands := is.stands
    rw [Nat.zero_add, List.getElem?_cons_succ, List.getElem?_map] at stands
    obtain ⟨text, -, rfl⟩ := Option.map_eq_some_iff.1 stands
    have notText := is.notText
    rw [← Utf8.isText_iff_isValidUTF8] at notText
    exact absurd ⟨text, rfl⟩ notText
  · obtain ⟨rfl, rfl⟩ := is.unique is'
    exact refused

theorem parse_eq_error_iff {e : LaunchError} :
    parse args = .error e ↔
      args = [] ∧ e = .invalidArguments "the launcher path is missing" ∨
        ∃ position arg, FirstNotText args position arg ∧ e = notUnicode position arg := by
  constructor
  · intro failed
    rcases parse_cases args with ⟨none, is⟩ | ⟨_, -, is⟩ | ⟨position, arg, found, is⟩
    · cases is.symm.trans failed
      exact .inl ⟨none, rfl⟩
    · cases is.symm.trans failed
    · cases is.symm.trans failed
      exact .inr ⟨position, arg, found, rfl⟩
  · rintro (⟨rfl, rfl⟩ | ⟨position, arg, found, rfl⟩)
    · rfl
    · exact parse_of_firstNotText found

theorem exists_parse_iff :
    (∃ invocation, parse args = .ok invocation) ↔
      args ≠ [] ∧ ∀ arg ∈ args.tail, arg.toByteArray.IsValidUTF8 := by
  constructor
  · rintro ⟨invocation, parsed⟩
    obtain rfl := parse_eq_ok_iff.1 parsed
    refine ⟨List.cons_ne_nil _ _, ?_⟩
    intro arg among
    obtain ⟨text, -, rfl⟩ := List.mem_map.1 among
    rw [← Utf8.isText_iff_isValidUTF8]
    exact ⟨text, rfl⟩
  · rintro ⟨filled, valid⟩
    cases parsed : parse args with
    | ok invocation => exact ⟨invocation, rfl⟩
    | error e =>
      rcases parse_eq_error_iff.1 parsed with ⟨none, -⟩ | ⟨position, arg, found, -⟩
      · exact absurd none filled
      · have isLater : arg ∈ args.tail := by
          rw [List.mem_iff_getElem?]
          refine ⟨position - 1, ?_⟩
          rw [List.getElem?_tail, Nat.sub_add_cancel found.passed]
          exact found.stands
        exact absurd (valid arg isLater) found.notText

end Parse

/-- **Which arguments are read.** Arguments are read if there is one at all and those after the
first are well-formed UTF-8. Then the path of the launcher is the first of them byte for byte,
whatever bytes these are, and the texts are written as the others, in their order. All else is an
error: that the path is missing, or which of the arguments is the first that is no text, counted
from the path on, and what it is shown as. -/
theorem arguments_parsed (args : List Bytes) :
    ((∃ invocation, parse args = .ok invocation) ↔
      args ≠ [] ∧ ∀ arg ∈ args.tail, arg.toByteArray.IsValidUTF8) ∧
    (∀ invocation, parse args = .ok invocation ↔
      args = invocation.program.bytes :: invocation.passthrough.map Utf8.ofString) ∧
    (∀ e, parse args = .error e ↔
      args = [] ∧ e = .invalidArguments "the launcher path is missing" ∨
        ∃ (position : Nat) (arg : Bytes) (shown : String),
          FirstNotText args position arg ∧ Utf8.Shows arg shown.toList ∧
            e = .invalidArguments s!"argument {position} is not valid unicode: {shown}") := by
  refine ⟨exists_parse_iff, fun _ => parse_eq_ok_iff, ?_⟩
  intro e
  rw [parse_eq_error_iff]
  apply or_congr_right
  constructor
  · rintro ⟨position, arg, found, rfl⟩
    refine ⟨position, arg, Utf8.toStringLossy arg, found, ?_, rfl⟩
    rw [Utf8.shows_iff, Utf8.toStringLossy, String.toList_ofList]
  · rintro ⟨position, arg, shown, found, shows, rfl⟩
    refine ⟨position, arg, found, ?_⟩
    have isShown : Utf8.toStringLossy arg = shown := by
      rw [Utf8.toStringLossy, Utf8.shows_iff.1 shows, String.ofList_toList]
    rw [notUnicode, isShown]

/-- A path may be any bytes, and an empty argument is one, but the first of the two surrogates is
told of. -/
theorem arguments_parsed_of_surrogates :
    parse [[0xFF], Utf8.ofString "", Utf8.ofString "--x"] = .ok ⟨⟨[0xFF]⟩, ["", "--x"]⟩ ∧
      ∃ shown : String, Utf8.Shows [0xED, 0xA0, 0x80] shown.toList ∧
        parse [[0xFF], Utf8.ofString "a", [0xED, 0xA0, 0x80], [0xED, 0xB0, 0x80]] =
          .error (.invalidArguments s!"argument 2 is not valid unicode: {shown}") := by
  constructor
  · exact ((arguments_parsed _).2.1 ⟨⟨[0xFF]⟩, ["", "--x"]⟩).2 rfl
  · have notText : ¬ Utf8.IsText [0xED, 0xA0, 0x80] := by
      rw [← Utf8.toString?_eq_none_iff]
      decide
    have found : FirstNotText [[0xFF], Utf8.ofString "a", [0xED, 0xA0, 0x80], [0xED, 0xB0, 0x80]]
        2 [0xED, 0xA0, 0x80] :=
      @firstNotText_of_texts _ _ _ ["a"] notText
    have shows : Utf8.Shows [0xED, 0xA0, 0x80]
        (Utf8.toStringLossy [0xED, 0xA0, 0x80]).toList := by
      rw [Utf8.shows_iff, Utf8.toStringLossy, String.toList_ofList]
    exact ⟨_, shows, ((arguments_parsed _).2.2 _).2 (.inr ⟨2, _, _, found, shows, rfl⟩)⟩

end AppLauncher.Invocation
