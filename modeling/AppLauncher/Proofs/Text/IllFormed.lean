import AppLauncher.Proofs.Text.Utf8

/-!
# What the forgiving reader shows

`Shows` says what bytes are shown as, without an automaton: the characters whose encodings stand
there, in their order, and one replacement for each ill-formed part. A part is ill-formed where no
encoding stands, and it is as long as it can be while it is the beginning of some encoding, or it is
one byte (`IllFormed`).

The automaton knows this because of what its states stand for: in a state that it is in after some
bytes, exactly those values fit whose encodings begin with these bytes (`Pending.After`). So it
refuses a byte exactly where no encoding goes on.

**`shows_iff`**: the forgiving reader gives what bytes are shown as, and nothing else is that.
-/

namespace AppLauncher.Utf8

/-- Some encoding begins with these bytes. -/
def Begins (part : Bytes) : Prop :=
  ∃ c, part <+: String.utf8EncodeChar c

/-- Before the rest of the bytes stands a part that no character can be read from. -/
structure IllFormed (part rest : Bytes) : Prop where
  filled : part ≠ []
  broken : ∀ c, ¬ String.utf8EncodeChar c <+: part ++ rest
  begun : part.length = 1 ∨ Begins part
  longest : ∀ longer, longer <+: part ++ rest → part.length < longer.length → ¬ Begins longer

/-- What bytes are shown as. -/
inductive Shows : Bytes → List Char → Prop where
  | nil : Shows [] []
  | char (c : Char) {rest : Bytes} {text : List Char} (later : Shows rest text) :
      Shows (String.utf8EncodeChar c ++ rest) (c :: text)
  | illFormed {part rest : Bytes} {text : List Char} (isIllFormed : IllFormed part rest)
      (later : Shows rest text) : Shows (part ++ rest) (replacement :: text)

theorem Begins.shorten {part longer : Bytes} (begins : Begins longer)
    (earlier : part <+: longer) : Begins part := by
  obtain ⟨c, encoding⟩ := begins
  exact ⟨c, earlier.trans encoding⟩

/-! ## The states of the automaton -/

/-- A state in which the reader is after these bytes: the values that fit are those whose encodings
begin with them. -/
structure Pending.After (p : Pending) (part : Bytes) : Prop where
  filled : part ≠ []
  bounded : p.Bounded
  begun : part.length = 1 ∨ Begins part
  encodes : ∀ v, p.Fits v → String.utf8EncodeChar (Char.ofNat v) = part ++ tails v (p.after + 1)
  fits : ∀ c, part <+: String.utf8EncodeChar c → p.Fits c.toNat

section States

variable {p q : Pending} {part : Bytes} {b : UInt8} {c : Char}

/-- No encoding comes to its end with the bytes read so far. -/
theorem Pending.After.incomplete (after : p.After part) (c : Char) :
    ¬ String.utf8EncodeChar c <+: part := by
  intro earlier
  have whole : String.utf8EncodeChar c = part := by
    rcases after.begun with single | ⟨c', encoding⟩
    · refine earlier.eq_of_length_le ?_
      rw [single]
      exact List.length_pos_of_ne_nil (String.utf8EncodeChar_ne_nil)
    · obtain rfl := encodeChar_prefix_eq (earlier.trans encoding)
      exact (List.IsPrefix.eq_of_length_le encoding earlier.length_le).symm
  have fits := after.fits c (whole ▸ List.prefix_rfl)
  have longer := after.encodes _ fits
  rw [Char.ofNat_toNat, whole, tails] at longer
  simp at longer

/-- A character that begins with the bytes read so far goes on with the byte of its next six
bits. -/
theorem Pending.After.next (after : p.After part)
    (goesOn : part ++ [b] <+: String.utf8EncodeChar c) :
    p.Fits c.toNat ∧ b = tail c.toNat p.after := by
  have fits := after.fits c ((List.prefix_append part [b]).trans goesOn)
  have encoding := after.encodes _ fits
  rw [Char.ofNat_toNat] at encoding
  rw [encoding, List.prefix_append_right_inj, tails, List.cons_prefix_cons] at goesOn
  exact ⟨fits, goesOn.1⟩

theorem within_of_feed (passes : p.feed b ≠ .refused) : p.low ≤ b ∧ b ≤ p.high := by
  by_contra outside
  exact passes (by rw [Pending.feed, if_neg outside])

theorem start_of_begins (earlier : [b] <+: String.utf8EncodeChar c) :
    start b = .char c ∨ ∃ p, start b = .more p ∧ p.Fits c.toNat := by
  by_cases small : c.toNat < 0x80
  · rw [encode_one small, List.cons_prefix_cons] at earlier
    rw [earlier.1]
    exact .inl (start_of_small small)
  · obtain ⟨b', p, begins, fits, bytes⟩ := start_of_large (Nat.le_of_not_lt small)
    rw [bytes, List.cons_prefix_cons] at earlier
    rw [earlier.1]
    exact .inr ⟨p, begins, fits⟩

theorem after_of_start (begins : start b = .more p) : p.After [b] := by
  refine ⟨List.cons_ne_nil b [], (range_of_more begins).1, .inl rfl,
    fun v fits => encode_of_more begins fits, fun c earlier => ?_⟩
  rcases start_of_begins earlier with single | ⟨p', begins', fits⟩
  · rw [single] at begins
    cases begins
  · rw [begins'] at begins
    obtain rfl := Fed.more.inj begins
    exact fits

theorem not_begins_of_start (refuses : start b = .refused) : ¬ Begins [b] := by
  rintro ⟨c, earlier⟩
  rcases start_of_begins earlier with single | ⟨p, begins, -⟩
  · rw [single] at refuses
    cases refuses
  · rw [begins] at refuses
    cases refuses

theorem Pending.After.char (after : p.After part) (feeds : p.feed b = .char c) :
    String.utf8EncodeChar c = part ++ [b] := by
  have within := within_of_feed (p := p) (b := b) (by simp [feeds])
  rw [Pending.feed, if_pos within] at feeds
  cases last : p.after with
  | succ n => simp [last] at feeds
  | zero =>
    rw [last] at feeds
    obtain rfl := Fed.char.inj feeds
    have whole : (p.value * 0x40 + (b.toNat - 0x80)) / 64 ^ p.after =
        p.value * 0x40 + (b.toNat - 0x80) := by
      rw [last, Nat.pow_zero, Nat.div_one]
    obtain ⟨fits, byte⟩ := fits_of_within after.bounded within whole
    have encoding := after.encodes _ fits
    rwa [tails, byte, last] at encoding

theorem Pending.After.more (after : p.After part) (feeds : p.feed b = .more q) :
    q.After (part ++ [b]) := by
  have within := within_of_feed (p := p) (b := b) (by simp [feeds])
  have fed := feeds
  rw [Pending.feed, if_pos within] at fed
  cases last : p.after with
  | zero => simp [last] at fed
  | succ n =>
    rw [last] at fed
    obtain rfl := Fed.more.inj fed
    have encodes : ∀ v, Pending.Fits ⟨p.value * 0x40 + (b.toNat - 0x80), 0x80, 0xBF, n⟩ v →
        String.utf8EncodeChar (Char.ofNat v) = part ++ [b] ++ tails v (n + 1) := by
      intro v fits
      have shorter : v / 64 ^ p.after = p.value * 0x40 + (b.toNat - 0x80) := by
        rw [last]
        exact fits.lead
      obtain ⟨fits, byte⟩ := fits_of_within after.bounded within shorter
      rw [after.encodes v fits, tails, byte, last, List.append_assoc]
      rfl
    refine ⟨by simp, bounded_ordinary, .inr ?_, encodes, fun c goesOn => ?_⟩
    · -- The least value with these bits begins so.
      let v := (p.value * 0x40 + (b.toNat - 0x80)) * 64 ^ (n + 1)
      have fits := fits_ordinary v n
      rw [Nat.mul_div_cancel _ (Nat.pow_pos (by decide))] at fits
      exact ⟨Char.ofNat v, by rw [encodes v fits]; exact List.prefix_append _ _⟩
    · obtain ⟨fits, rfl⟩ := after.next goesOn
      have byTail : p.feed (tail c.toNat p.after) =
          .more ⟨c.toNat / 64 ^ (n + 1), 0x80, 0xBF, n⟩ := by
        rw [feed_tail fits, last]
      rw [Fed.more.inj (feeds.symm.trans byTail)]
      exact fits_ordinary c.toNat n

theorem Pending.After.refused (after : p.After part) (refuses : p.feed b = .refused) :
    ¬ Begins (part ++ [b]) := by
  rintro ⟨c, goesOn⟩
  obtain ⟨fits, rfl⟩ := after.next goesOn
  rw [feed_tail fits] at refuses
  cases last : p.after <;> simp [last] at refuses

end States

/-! ## Reading -/

section Reading

variable {p : Pending} {part rest bytes : Bytes} {b : UInt8} {text other : List Char}

theorem illFormed_single (none : ¬ Begins [b]) (rest : Bytes) : IllFormed [b] rest := by
  refine ⟨List.cons_ne_nil b [], fun c encoding => none ⟨c, ?_⟩, .inl rfl,
    fun longer isPrefix length begins => none (begins.shorten ?_)⟩
  · refine List.prefix_of_prefix_length_le (List.prefix_append [b] rest) encoding ?_
    exact List.length_pos_of_ne_nil (String.utf8EncodeChar_ne_nil)
  · exact List.prefix_of_prefix_length_le (List.prefix_append [b] rest) isPrefix length.le

/-- What was read of a character that breaks off is ill-formed. -/
theorem Pending.After.illFormed (after : p.After part)
    (breaks : ∀ b later, rest = b :: later → ¬ Begins (part ++ [b])) : IllFormed part rest := by
  have noLonger : ∀ longer, longer <+: part ++ rest → part.length < longer.length →
      ¬ Begins longer := by
    intro longer isPrefix length begins
    cases rest with
    | nil =>
      rw [List.append_nil] at isPrefix
      exact absurd isPrefix.length_le (Nat.not_le_of_lt length)
    | cons b later =>
      refine breaks b later rfl (begins.shorten ?_)
      refine List.prefix_of_prefix_length_le ⟨later, by simp⟩ isPrefix ?_
      simpa using length
  refine ⟨after.filled, fun c encoding => ?_, after.begun, noLonger⟩
  rcases Nat.lt_or_ge part.length (String.utf8EncodeChar c).length with longer | shorter
  · exact noLonger _ encoding longer ⟨c, List.prefix_rfl⟩
  · exact after.incomplete c
      (List.prefix_of_prefix_length_le encoding (List.prefix_append part rest) shorter)

/-- A first byte is read rightly, given that the bytes after it are. -/
theorem shows_first
    (later : Shows rest (decodeLossyFrom none rest))
    (goesOn : ∀ {p : Pending}, p.After [b] → Shows ([b] ++ rest) (decodeLossyFrom (some p) rest)) :
    Shows (b :: rest) (decodeLossyFrom none (b :: rest)) := by
  rw [decodeLossyFrom]
  cases begins : start b with
  | char c =>
    have shown := Shows.char c later
    rwa [encode_of_char begins] at shown
  | more p => exact goesOn (after_of_start begins)
  | refused => exact .illFormed (illFormed_single (not_begins_of_start begins) rest) later

/-- Between characters the reader shows the bytes that are left, and inside one also those that it
has read of it. -/
theorem shows_decodeLossyFrom (bytes : Bytes) :
    Shows bytes (decodeLossyFrom none bytes) ∧
      ∀ {p : Pending} {part : Bytes}, p.After part →
        Shows (part ++ bytes) (decodeLossyFrom (some p) bytes) := by
  -- Both at once, for each of the two states leads to the other one.
  induction bytes with
  | nil =>
    refine ⟨.nil, fun after => ?_⟩
    exact .illFormed (after.illFormed nofun) .nil
  | cons b rest ih =>
    have first : Shows (b :: rest) (decodeLossyFrom none (b :: rest)) := shows_first ih.1 ih.2
    refine ⟨first, fun {p part} after => ?_⟩
    rw [decodeLossyFrom]
    cases feeds : p.feed b with
    | char c =>
      have shown := Shows.char c ih.1
      rwa [after.char feeds, List.append_assoc] at shown
    | more q =>
      have shown := ih.2 (after.more feeds)
      rwa [List.append_assoc] at shown
    | refused =>
      -- The byte breaks the character off, and is read again as a first byte.
      have breaks : ∀ b' later, b :: rest = b' :: later → ¬ Begins (part ++ [b']) := by
        rintro b' later ⟨⟩
        exact after.refused feeds
      exact .illFormed (after.illFormed breaks) first

/-- Of two ill-formed parts at the same place, neither is longer. -/
theorem IllFormed.length_le {part' rest' : Bytes} (is : IllFormed part rest)
    (is' : IllFormed part' rest') (same : part ++ rest = part' ++ rest') :
    part'.length ≤ part.length := by
  by_contra longer
  have isPrefix : part' <+: part ++ rest := by
    rw [same]
    exact List.prefix_append part' rest'
  rcases is'.begun with single | begins
  · have filled := List.length_pos_of_ne_nil is.filled
    omega
  · exact is.longest part' isPrefix (Nat.lt_of_not_le longer) begins

theorem Shows.unique (shown : Shows bytes text) (shown' : Shows bytes other) : text = other := by
  -- Both must take the same step: no encoding begins with another one, none stands where a part is
  -- ill-formed, and two ill-formed parts at one place are equally long.
  induction shown generalizing other with
  | nil =>
    generalize nothing : ([] : Bytes) = bytes at shown'
    cases shown' with
    | nil => rfl
    | char c later => simp at nothing
    | illFormed is later => simp [is.filled] at nothing
  | @char c rest text later ih =>
    generalize same : String.utf8EncodeChar c ++ rest = bytes at shown'
    cases shown' with
    | nil => simp at same
    | @char c' rest' text' later' =>
      have comparable := List.prefix_or_prefix_of_prefix (List.prefix_append _ rest)
        (same ▸ List.prefix_append (String.utf8EncodeChar c') rest')
      obtain rfl : c = c' :=
        comparable.elim encodeChar_prefix_eq fun earlier => (encodeChar_prefix_eq earlier).symm
      rw [ih (List.append_cancel_left same ▸ later')]
    | illFormed is later' => exact absurd (same ▸ List.prefix_append _ rest) (is.broken c)
  | @illFormed part rest text is later ih =>
    generalize same : part ++ rest = bytes at shown'
    cases shown' with
    | nil => simp [is.filled] at same
    | @char c rest' text' later' => exact absurd (same ▸ List.prefix_append _ rest') (is.broken c)
    | @illFormed part' rest' text' is' later' =>
      have length : part.length = part'.length :=
        Nat.le_antisymm (is'.length_le is same.symm) (is.length_le is' same)
      obtain ⟨rfl, rfl⟩ := List.append_inj same length
      rw [ih later']

end Reading

/-- **What bytes are shown as.** The forgiving reader keeps every encoding and puts one replacement
for each ill-formed part, and there is no other way to do so. -/
theorem shows_iff {bytes : Bytes} {text : List Char} :
    Shows bytes text ↔ decodeLossy bytes = text := by
  have shown : Shows bytes (decodeLossy bytes) := (shows_decodeLossyFrom bytes).1
  constructor
  · exact shown.unique
  · rintro rfl
    exact shown

/-- A character that breaks off is one part, and an overlong form is as many as it has bytes. -/
example : decodeLossy [0xE2, 0x82, 0x41, 0xC0, 0x80] =
    [replacement, 'A', replacement, replacement] := by
  decide

end AppLauncher.Utf8
