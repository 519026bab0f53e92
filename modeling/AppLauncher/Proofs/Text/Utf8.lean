import AppLauncher.Text.Utf8
import Mathlib

/-!
# The strict reader reads exactly the encodings

A character that has begun may still become any value of one interval. `Pending.Fits` says which
values these are, by the six bits that each byte to come has to bring, and `tails` are those bytes.
`decodeFrom?_tails` and `tails_of_decodeFrom?` say that the reader goes through a character in
exactly this way.

**`toString?_eq_some_iff`**: bytes are read as a text exactly when they are its encoding.
-/

namespace AppLauncher.Utf8

/-- The byte that carries the six bits of a value above its lowest `6 * n`. -/
def tail (value n : Nat) : UInt8 :=
  UInt8.ofNat (0x80 + value / 64 ^ n % 64)

/-- The last bytes of the encoding of a value. -/
def tails (value : Nat) : (count : Nat) → Bytes
  | 0 => []
  | n + 1 => tail value n :: tails value n

/-- Values that a character may come to. -/
structure Pending.Fits (p : Pending) (value : Nat) : Prop where
  lead : value / 64 ^ (p.after + 1) = p.value
  low : p.low.toNat ≤ 0x80 + value / 64 ^ p.after % 64
  high : 0x80 + value / 64 ^ p.after % 64 ≤ p.high.toNat

/-- The bounds of the next byte let nothing through but a byte that goes on with a character. -/
structure Pending.Bounded (p : Pending) : Prop where
  low : 0x80 ≤ p.low.toNat
  high : p.high.toNat ≤ 0xBF

theorem bounded_ordinary {value after : Nat} : Pending.Bounded ⟨value, 0x80, 0xBF, after⟩ :=
  ⟨Nat.le_refl 0x80, Nat.le_refl 0xBF⟩

section Tails

variable {p : Pending} {value : Nat} {bytes rest : Bytes} {s : List Char}

theorem toNat_tail (value n : Nat) : (tail value n).toNat = 0x80 + value / 64 ^ n % 64 := by
  have small : value / 64 ^ n % 64 < 64 := Nat.mod_lt _ (by decide)
  rw [tail, UInt8.toNat_ofNat', Nat.mod_eq_of_lt (by omega)]

theorem le_of_mem_tails {b : UInt8} {count : Nat} (among : b ∈ tails value count) :
    0x80 ≤ b.toNat := by
  induction count with
  | zero => cases among
  | succ n ih =>
    rcases List.mem_cons.1 among with rfl | later
    · rw [toNat_tail]
      exact Nat.le_add_right _ _
    · exact ih later

/-- A value, six bits shorter, and the six bits. -/
theorem lead_eq (value n : Nat) :
    value / 64 ^ n = value / 64 ^ (n + 1) * 64 + value / 64 ^ n % 64 := by
  rw [Nat.pow_succ, ← Nat.div_div_eq_div_mul]
  omega

theorem feed_tail (fits : p.Fits value) :
    p.feed (tail value p.after) =
      match p.after with
      | 0 => .char (Char.ofNat value)
      | n + 1 => .more ⟨value / 64 ^ (n + 1), 0x80, 0xBF, n⟩ := by
  have within : p.low ≤ tail value p.after ∧ tail value p.after ≤ p.high := by
    rw [UInt8.le_iff_toNat_le, UInt8.le_iff_toNat_le, toNat_tail]
    exact ⟨fits.low, fits.high⟩
  have sum : p.value * 0x40 + ((tail value p.after).toNat - 0x80) = value / 64 ^ p.after := by
    rw [toNat_tail, ← fits.lead, lead_eq value p.after]
    omega
  rw [Pending.feed, if_pos within, sum]
  cases p.after with
  | zero => rw [Nat.pow_zero, Nat.div_one]
  | succ n => rfl

/-- After the first continuation byte, every value with the bits read so far fits. -/
theorem fits_ordinary (value n : Nat) :
    Pending.Fits ⟨value / 64 ^ (n + 1), 0x80, 0xBF, n⟩ value := by
  refine ⟨rfl, Nat.le_add_right _ _, ?_⟩
  have small : value / 64 ^ n % 64 < 64 := Nat.mod_lt _ (by decide)
  exact Nat.le_of_lt_succ (by simpa using Nat.add_lt_add_left small 0x80)

theorem decodeFrom?_tails (fits : p.Fits value) (rest : Bytes) :
    decodeFrom? (some p) (tails value (p.after + 1) ++ rest) =
      (decodeFrom? none rest).map (Char.ofNat value :: ·) := by
  obtain ⟨lead, low, high, after⟩ := p
  induction after generalizing lead low high with
  | zero =>
    rw [tails, List.cons_append, decodeFrom?, feed_tail fits]
    rfl
  | succ n ih =>
    rw [tails, List.cons_append, decodeFrom?, feed_tail fits]
    exact ih _ _ _ (fits_ordinary value n)

/-- A byte that is let through is the one that fitting values bring next. -/
theorem fits_of_within {b : UInt8} (bounded : p.Bounded) (within : p.low ≤ b ∧ b ≤ p.high)
    (shorter : value / 64 ^ p.after = p.value * 0x40 + (b.toNat - 0x80)) :
    p.Fits value ∧ tail value p.after = b := by
  have low : p.low.toNat ≤ b.toNat := UInt8.le_iff_toNat_le.1 within.1
  have high : b.toNat ≤ p.high.toNat := UInt8.le_iff_toNat_le.1 within.2
  have least := bounded.low
  have most := bounded.high
  have bits : 0x80 + value / 64 ^ p.after % 64 = b.toNat := by omega
  have lead : value / 64 ^ (p.after + 1) = p.value := by
    have split := lead_eq value p.after
    omega
  refine ⟨⟨lead, by omega, by omega⟩, ?_⟩
  rw [← UInt8.toNat_inj, toNat_tail, bits]

/-- Whatever the reader goes through is the bytes of a value that fits. -/
theorem tails_of_decodeFrom? (bounded : p.Bounded) (reads : decodeFrom? (some p) bytes = some s) :
    ∃ value rest s', p.Fits value ∧ bytes = tails value (p.after + 1) ++ rest ∧
      s = Char.ofNat value :: s' ∧ decodeFrom? none rest = some s' := by
  obtain ⟨lead, low, high, after⟩ := p
  induction after generalizing lead low high bytes with
  | zero =>
    cases bytes with
    | nil => cases reads
    | cons b rest =>
      rw [decodeFrom?, Pending.feed] at reads
      by_cases within : low ≤ b ∧ b ≤ high
      · rw [if_pos within] at reads
        obtain ⟨s', read, rfl⟩ := Option.map_eq_some_iff.1 reads
        have whole : (lead * 0x40 + (b.toNat - 0x80)) / 64 ^ 0 = lead * 0x40 + (b.toNat - 0x80) :=
          by rw [Nat.pow_zero, Nat.div_one]
        obtain ⟨fits, byte⟩ := fits_of_within bounded within whole
        exact ⟨_, rest, s', fits, by rw [tails, byte]; rfl, rfl, read⟩
      · rw [if_neg within] at reads
        cases reads
  | succ n ih =>
    cases bytes with
    | nil => cases reads
    | cons b rest =>
      rw [decodeFrom?, Pending.feed] at reads
      by_cases within : low ≤ b ∧ b ≤ high
      · rw [if_pos within] at reads
        obtain ⟨value, rest', s', later, bytes_eq, s_eq, read⟩ :=
          ih _ _ _ bounded_ordinary reads
        obtain ⟨fits, byte⟩ := fits_of_within bounded within later.lead
        exact ⟨value, rest', s', fits, by rw [tails, byte, bytes_eq]; rfl, s_eq, read⟩
      · rw [if_neg within] at reads
        cases reads

end Tails

/-! ## First bytes -/

theorem start_eq (b : UInt8) : start b =
    if b.toNat < 0x80 then .char (Char.ofNat b.toNat)
    else if b.toNat < 0xC2 then .refused
    else if b.toNat < 0xE0 then .more ⟨b.toNat - 0xC0, 0x80, 0xBF, 0⟩
    else if b.toNat = 0xE0 then .more ⟨0, 0xA0, 0xBF, 1⟩
    else if b.toNat = 0xED then .more ⟨0xD, 0x80, 0x9F, 1⟩
    else if b.toNat < 0xF0 then .more ⟨b.toNat - 0xE0, 0x80, 0xBF, 1⟩
    else if b.toNat = 0xF0 then .more ⟨0, 0x90, 0xBF, 2⟩
    else if b.toNat < 0xF4 then .more ⟨b.toNat - 0xF0, 0x80, 0xBF, 2⟩
    else if b.toNat = 0xF4 then .more ⟨4, 0x80, 0x8F, 2⟩
    else .refused := by
  simp only [start, UInt8.lt_iff_toNat_lt, ← UInt8.toNat_inj, UInt8.reduceToNat]

/-- The numbers of characters: those below the limit that are no surrogates. -/
theorem toNat_ofNat {value : Nat} (valid : value < 0xD800 ∨ 0xDFFF < value ∧ value < 0x110000) :
    (Char.ofNat value).toNat = value := by
  rw [Char.ofNat, dif_pos valid]
  rfl

theorem toNat_valid (c : Char) : c.toNat < 0xD800 ∨ 0xDFFF < c.toNat ∧ c.toNat < 0x110000 :=
  c.valid

section Sizes

variable {c : Char}

theorem encode_one (high : c.toNat < 0x80) :
    String.utf8EncodeChar c = [UInt8.ofNat c.toNat] := by
  simp only [← Char.toNat_val] at high ⊢
  rw [String.utf8EncodeChar, if_pos (by omega)]

theorem encode_two (low : 0x80 ≤ c.toNat) (high : c.toNat < 0x800) :
    String.utf8EncodeChar c = UInt8.ofNat (0xC0 + c.toNat / 64) :: tails c.toNat 1 := by
  simp only [← Char.toNat_val] at low high ⊢
  have lead : c.val.toNat / 64 % 32 = c.val.toNat / 64 := by omega
  rw [String.utf8EncodeChar, if_neg (by omega), if_pos (by omega), lead]
  simp [tails, tail, Nat.add_comm]

theorem encode_three (low : 0x800 ≤ c.toNat) (high : c.toNat < 0x10000) :
    String.utf8EncodeChar c = UInt8.ofNat (0xE0 + c.toNat / 4096) :: tails c.toNat 2 := by
  simp only [← Char.toNat_val] at low high ⊢
  have lead : c.val.toNat / 4096 % 16 = c.val.toNat / 4096 := by omega
  rw [String.utf8EncodeChar, if_neg (by omega), if_neg (by omega), if_pos (by omega), lead]
  simp [tails, tail, Nat.add_comm]

theorem encode_four (low : 0x10000 ≤ c.toNat) :
    String.utf8EncodeChar c = UInt8.ofNat (0xF0 + c.toNat / 262144) :: tails c.toNat 3 := by
  have valid := toNat_valid c
  simp only [← Char.toNat_val] at low valid ⊢
  have lead : c.val.toNat / 262144 % 8 = c.val.toNat / 262144 := by omega
  rw [String.utf8EncodeChar, if_neg (by omega), if_neg (by omega), if_neg (by omega), lead]
  simp [tails, tail, Nat.add_comm]

theorem start_of_small (small : c.toNat < 0x80) :
    start (UInt8.ofNat c.toNat) = .char c := by
  have byte : (UInt8.ofNat c.toNat).toNat = c.toNat := by
    rw [UInt8.toNat_ofNat', Nat.mod_eq_of_lt (by omega)]
  rw [start_eq, byte, if_pos small, Char.ofNat_toNat]

theorem begins_two {v : Nat} (low : 0x80 ≤ v) (high : v < 0x800) :
    ∃ p, start (UInt8.ofNat (0xC0 + v / 64)) = .more p ∧ p.Fits v ∧ p.after = 0 := by
  have byte : (UInt8.ofNat (0xC0 + v / 64)).toNat = 0xC0 + v / 64 := by
    rw [UInt8.toNat_ofNat', Nat.mod_eq_of_lt (by omega)]
  rw [start_eq, byte, if_neg (by omega), if_neg (by omega), if_pos (by omega),
    Nat.add_sub_cancel_left]
  refine ⟨_, rfl, ?_, rfl⟩
  constructor <;> simp
  omega

theorem begins_three {v : Nat} (low : 0x800 ≤ v) (high : v < 0x10000)
    (valid : v < 0xD800 ∨ 0xDFFF < v) :
    ∃ p, start (UInt8.ofNat (0xE0 + v / 4096)) = .more p ∧ p.Fits v ∧ p.after = 1 := by
  have byte : (UInt8.ofNat (0xE0 + v / 4096)).toNat = 0xE0 + v / 4096 := by
    rw [UInt8.toNat_ofNat', Nat.mod_eq_of_lt (by omega)]
  rw [start_eq, byte, if_neg (by omega), if_neg (by omega), if_neg (by omega)]
  by_cases lowest : v / 4096 = 0
  · rw [if_pos (by omega)]
    refine ⟨_, rfl, ?_, rfl⟩
    constructor <;> simp <;> omega
  rw [if_neg (by omega)]
  by_cases beforeSurrogates : v / 4096 = 0xD
  · rw [if_pos (by omega)]
    refine ⟨_, rfl, ?_, rfl⟩
    constructor <;> simp <;> omega
  rw [if_neg (by omega), if_pos (by omega), Nat.add_sub_cancel_left]
  refine ⟨_, rfl, ?_, rfl⟩
  constructor <;> simp
  omega

theorem begins_four {v : Nat} (low : 0x10000 ≤ v) (high : v < 0x110000) :
    ∃ p, start (UInt8.ofNat (0xF0 + v / 262144)) = .more p ∧ p.Fits v ∧ p.after = 2 := by
  have byte : (UInt8.ofNat (0xF0 + v / 262144)).toNat = 0xF0 + v / 262144 := by
    rw [UInt8.toNat_ofNat', Nat.mod_eq_of_lt (by omega)]
  rw [start_eq, byte, if_neg (by omega), if_neg (by omega), if_neg (by omega), if_neg (by omega),
    if_neg (by omega), if_neg (by omega)]
  by_cases lowest : v / 262144 = 0
  · rw [if_pos (by omega)]
    refine ⟨_, rfl, ?_, rfl⟩
    constructor <;> simp <;> omega
  rw [if_neg (by omega)]
  by_cases highest : v / 262144 = 4
  · rw [if_neg (by omega), if_pos (by omega)]
    refine ⟨_, rfl, ?_, rfl⟩
    constructor <;> simp <;> omega
  rw [if_pos (by omega), Nat.add_sub_cancel_left]
  refine ⟨_, rfl, ?_, rfl⟩
  constructor <;> simp
  omega

/-- A character of several bytes begins with one after which its value fits. -/
theorem start_of_large (large : 0x80 ≤ c.toNat) :
    ∃ b p, start b = .more p ∧ p.Fits c.toNat ∧
      String.utf8EncodeChar c = b :: tails c.toNat (p.after + 1) := by
  have valid := toNat_valid c
  by_cases two : c.toNat < 0x800
  · obtain ⟨p, begins, fits, after⟩ := begins_two large two
    exact ⟨_, p, begins, fits, by rw [after, encode_two large two]⟩
  by_cases three : c.toNat < 0x10000
  · obtain ⟨p, begins, fits, after⟩ := begins_three (Nat.le_of_not_lt two) three (by omega)
    exact ⟨_, p, begins, fits, by rw [after, encode_three (Nat.le_of_not_lt two) three]⟩
  · obtain ⟨p, begins, fits, after⟩ := begins_four (Nat.le_of_not_lt three) (by omega)
    exact ⟨_, p, begins, fits, by rw [after, encode_four (Nat.le_of_not_lt three)]⟩

end Sizes

/-- A byte that is a character of its own is the encoding of this character. -/
theorem encode_of_char {b : UInt8} {c : Char} (begins : start b = .char c) :
    String.utf8EncodeChar c = [b] := by
  rw [start_eq] at begins
  by_cases small : b.toNat < 0x80
  · rw [if_pos small] at begins
    obtain rfl := Fed.char.inj begins
    have value : (Char.ofNat b.toNat).toNat = b.toNat := toNat_ofNat (by omega)
    rw [encode_one (by omega), value, UInt8.ofNat_toNat]
  · rw [if_neg small] at begins
    split_ifs at begins

/-- How a byte that begins a character bounds the values that fit after it. -/
theorem range_of_more {b : UInt8} {p : Pending} (begins : start b = .more p) :
    p.Bounded ∧ ∀ v, p.Fits v →
      (p.after = 0 ∧ 0x80 ≤ v ∧ v < 0x800 ∧ b.toNat = 0xC0 + v / 64) ∨
      (p.after = 1 ∧ 0x800 ≤ v ∧ v < 0x10000 ∧ (v < 0xD800 ∨ 0xDFFF < v) ∧
        b.toNat = 0xE0 + v / 4096) ∨
      (p.after = 2 ∧ 0x10000 ≤ v ∧ v < 0x110000 ∧ b.toNat = 0xF0 + v / 262144) := by
  rw [start_eq] at begins
  split_ifs at begins <;> obtain rfl := Fed.more.inj begins <;>
    refine ⟨⟨by simp, by simp⟩, fun v fits => ?_⟩ <;>
    obtain ⟨lead, low, high⟩ := fits <;> simp at lead low high ⊢ <;> omega

/-- After a byte that begins a character, every value that fits is a character that begins so. -/
theorem encode_of_more {b : UInt8} {p : Pending} (begins : start b = .more p) {v : Nat}
    (fits : p.Fits v) :
    String.utf8EncodeChar (Char.ofNat v) = b :: tails v (p.after + 1) := by
  rcases (range_of_more begins).2 v fits with
    ⟨after, low, high, byte⟩ | ⟨after, low, high, valid, byte⟩ | ⟨after, low, high, byte⟩
  · have value : (Char.ofNat v).toNat = v := toNat_ofNat (by omega)
    rw [encode_two (by omega) (by omega), value, after, ← byte, UInt8.ofNat_toNat]
  · have value : (Char.ofNat v).toNat = v := toNat_ofNat (by omega)
    rw [encode_three (by omega) (by omega), value, after, ← byte, UInt8.ofNat_toNat]
  · have value : (Char.ofNat v).toNat = v := toNat_ofNat (by omega)
    rw [encode_four (by omega), value, after, ← byte, UInt8.ofNat_toNat]

/-! ## Whole texts -/

/-- The encoding of a character is read as this character, whatever follows. -/
theorem decodeFrom?_encodeChar (c : Char) (rest : Bytes) :
    decodeFrom? none (String.utf8EncodeChar c ++ rest) = (decodeFrom? none rest).map (c :: ·) := by
  by_cases small : c.toNat < 0x80
  · rw [encode_one small, List.singleton_append, decodeFrom?, start_of_small small]
  · obtain ⟨b, p, begins, fits, bytes⟩ := start_of_large (Nat.le_of_not_lt small)
    rw [bytes, List.cons_append, decodeFrom?, begins]
    change decodeFrom? (some p) _ = _
    rw [decodeFrom?_tails fits, Char.ofNat_toNat]

theorem decode?_encode (s : List Char) : decode? (encode s) = some s := by
  induction s with
  | nil => rfl
  | cons c rest ih =>
    rw [encode, List.flatMap_cons, decode?, decodeFrom?_encodeChar]
    exact congrArg (Option.map (c :: ·)) ih

/-- No encoding begins with that of another character. -/
theorem encodeChar_prefix_eq {c c' : Char}
    (earlier : String.utf8EncodeChar c <+: String.utf8EncodeChar c') : c = c' := by
  obtain ⟨more, bytes⟩ := earlier
  have whole := decodeFrom?_encodeChar c' []
  rw [List.append_nil, ← bytes, decodeFrom?_encodeChar] at whole
  obtain ⟨s, -, same⟩ := Option.map_eq_some_iff.1 whole
  exact (List.cons.inj same).1

theorem encode_of_decode? {bytes : Bytes} {s : List Char} (reads : decode? bytes = some s) :
    encode s = bytes := by
  induction s generalizing bytes with
  | nil =>
    cases bytes with
    | nil => rfl
    | cons b rest =>
      rw [decode?, decodeFrom?] at reads
      cases begins : start b with
      | char c => simp [begins] at reads
      | more p =>
        rw [begins] at reads
        obtain ⟨value, rest', s', -, -, s_eq, -⟩ :=
          tails_of_decodeFrom? (range_of_more begins).1 reads
        cases s_eq
      | refused => simp [begins] at reads
  | cons c rest ih =>
    cases bytes with
    | nil => cases reads
    | cons b bytes' =>
      rw [decode?, decodeFrom?] at reads
      rw [encode, List.flatMap_cons]
      cases begins : start b with
      | char c' =>
        rw [begins] at reads
        obtain ⟨s', read, s_eq⟩ := Option.map_eq_some_iff.1 reads
        obtain ⟨rfl, rfl⟩ := List.cons.inj s_eq
        rw [encode_of_char begins]
        exact congrArg (b :: ·) (ih read)
      | more p =>
        rw [begins] at reads
        obtain ⟨value, rest', s', fits, rfl, s_eq, read⟩ :=
          tails_of_decodeFrom? (range_of_more begins).1 reads
        obtain ⟨rfl, rfl⟩ := List.cons.inj s_eq
        rw [encode_of_more begins fits, List.cons_append]
        exact congrArg (fun after => b :: (tails value (p.after + 1) ++ after)) (ih read)
      | refused =>
        rw [begins] at reads
        cases reads

theorem decode?_eq_some_iff {bytes : Bytes} {s : List Char} :
    decode? bytes = some s ↔ encode s = bytes := by
  constructor
  · exact encode_of_decode?
  · rintro rfl
    exact decode?_encode s

/-- **Bytes are read as a string exactly when they are its encoding.** -/
theorem toString?_eq_some_iff {bytes : Bytes} {s : String} :
    toString? bytes = some s ↔ ofString s = bytes := by
  rw [toString?, Option.map_eq_some_iff, ofString]
  constructor
  · rintro ⟨chars, reads, rfl⟩
    rw [String.toList_ofList]
    exact encode_of_decode? reads
  · intro bytes_eq
    exact ⟨s.toList, decode?_eq_some_iff.2 bytes_eq, String.ofList_toList⟩

theorem ofString_injective : Function.Injective ofString := by
  intro s t same
  have reads : toString? (ofString s) = some s := toString?_eq_some_iff.2 rfl
  have reads' : toString? (ofString t) = some t := toString?_eq_some_iff.2 rfl
  exact Option.some.inj (reads.symm.trans ((congrArg toString? same).trans reads'))

/-- Bytes that are the encoding of some text. -/
def IsText (bytes : Bytes) : Prop :=
  ∃ s : String, ofString s = bytes

theorem toString?_eq_none_iff {bytes : Bytes} : toString? bytes = none ↔ ¬ IsText bytes := by
  simp only [Option.eq_none_iff_forall_ne_some, IsText, not_exists, ne_eq, toString?_eq_some_iff]

theorem isText_iff_isValidUTF8 {bytes : Bytes} :
    IsText bytes ↔ bytes.toByteArray.IsValidUTF8 := by
  constructor
  · rintro ⟨s, rfl⟩
    exact .intro s.toList rfl
  · rintro ⟨chars, same⟩
    refine ⟨.ofList chars, ?_⟩
    rw [ofString, String.toList_ofList]
    exact (List.toByteArray_inj.1 same).symm

/-! ## Characters of one byte -/

theorem ofString_append (s t : String) : ofString (s ++ t) = ofString s ++ ofString t := by
  rw [ofString, String.toList_append, encode, List.flatMap_append]
  rfl

/-- The encoding of a text has a byte below `0x80` only for the character of this number. -/
theorem mem_of_mem_encode {s : List Char} {b : UInt8} (small : b.toNat < 0x80)
    (among : b ∈ encode s) : Char.ofNat b.toNat ∈ s := by
  obtain ⟨c, among, byte⟩ := List.mem_flatMap.1 among
  by_cases one : c.toNat < 0x80
  · rw [encode_one one, List.mem_singleton] at byte
    have value : b.toNat = c.toNat := by
      rw [byte, UInt8.toNat_ofNat', Nat.mod_eq_of_lt (by omega)]
    rwa [value, Char.ofNat_toNat]
  · obtain ⟨first, p, begins, -, bytes⟩ := start_of_large (Nat.le_of_not_lt one)
    rw [bytes, List.mem_cons] at byte
    rcases byte with rfl | later
    · rw [start_eq, if_pos small] at begins
      cases begins
    · have large := le_of_mem_tails later
      omega

/-- No value that fits is that of a character of one byte. -/
structure Pending.Large (p : Pending) : Prop where
  bounded : p.Bounded
  large : ∀ v, p.Fits v → 0x80 ≤ v

theorem large_of_start {b : UInt8} {p : Pending} (begins : start b = .more p) : p.Large := by
  obtain ⟨bounded, range⟩ := range_of_more begins
  refine ⟨bounded, fun v fits => ?_⟩
  rcases range v fits with ⟨-, low, -⟩ | ⟨-, low, -⟩ | ⟨-, low, -⟩ <;> omega

/-- Such a character does not come to one of one byte, a zero apart. -/
theorem feed_of_large {p : Pending} (large : p.Large) (b : UInt8) :
    match p.feed b with
    | .char c => c.toNat = 0 ∨ 0x80 ≤ c.toNat
    | .more q => q.Large
    | .refused => True := by
  rw [Pending.feed]
  by_cases within : p.low ≤ b ∧ b ≤ p.high
  · rw [if_pos within]
    cases after : p.after with
    | zero =>
      have whole : (p.value * 0x40 + (b.toNat - 0x80)) / 64 ^ p.after =
          p.value * 0x40 + (b.toNat - 0x80) := by
        rw [after, Nat.pow_zero, Nat.div_one]
      have fits := (fits_of_within large.bounded within whole).1
      have least := large.large _ fits
      change (Char.ofNat _).toNat = 0 ∨ 0x80 ≤ (Char.ofNat _).toNat
      by_cases valid : (p.value * 0x40 + (b.toNat - 0x80)).isValidChar
      · rw [toNat_ofNat valid]
        exact .inr least
      · rw [Char.ofNat, dif_neg valid]
        exact .inl rfl
    | succ n =>
      refine ⟨bounded_ordinary, fun v fits => ?_⟩
      refine large.large v (fits_of_within large.bounded within ?_).1
      rw [after]
      exact fits.lead
  · rw [if_neg within]
    trivial

section Shown

variable {c : Char}

/-- A first byte brings a character of one byte only as itself, given that the bytes after it bring
one only where they hold it. -/
theorem mem_of_mem_first {b : UInt8} {rest : Bytes} (high : c.toNat < 0x80)
    (ordinary : c ≠ replacement)
    (holds : ∀ {state : Option Pending}, (∀ p ∈ state, p.Large) → c ∈ decodeLossyFrom state rest →
      UInt8.ofNat c.toNat ∈ rest)
    (among : c ∈ decodeLossyFrom none (b :: rest)) : UInt8.ofNat c.toNat ∈ b :: rest := by
  rw [decodeLossyFrom] at among
  cases begins : start b with
  | char c' =>
    rw [begins] at among
    rcases List.mem_cons.1 among with rfl | later
    · have byte := encode_of_char begins
      rw [encode_one high] at byte
      rw [List.singleton_inj.1 byte]
      exact List.mem_cons_self
    · exact List.mem_cons_of_mem _ (holds (by simp) later)
  | more p =>
    rw [begins] at among
    refine List.mem_cons_of_mem _ (holds ?_ among)
    rintro q ⟨⟩
    exact large_of_start begins
  | refused =>
    rw [begins] at among
    rcases List.mem_cons.1 among with same | later
    · exact absurd same ordinary
    · exact List.mem_cons_of_mem _ (holds (by simp) later)

/-- A character of one byte stands in the shown text only where its byte stands. -/
theorem mem_of_mem_decodeLossyFrom {state : Option Pending} {bytes : Bytes}
    (large : ∀ p ∈ state, p.Large) (low : 0 < c.toNat) (high : c.toNat < 0x80)
    (among : c ∈ decodeLossyFrom state bytes) : UInt8.ofNat c.toNat ∈ bytes := by
  have ordinary : c ≠ replacement := by
    rintro rfl
    revert high
    decide
  induction bytes generalizing state with
  | nil =>
    cases state with
    | none => cases among
    | some p => exact absurd (List.mem_singleton.1 among) ordinary
  | cons b rest ih =>
    cases state with
    | none => exact mem_of_mem_first high ordinary ih among
    | some p =>
      have fed := feed_of_large (large p rfl) b
      rw [decodeLossyFrom] at among
      cases feeds : p.feed b with
      | char c' =>
        rw [feeds] at fed among
        rcases List.mem_cons.1 among with rfl | later
        · change c.toNat = 0 ∨ 0x80 ≤ c.toNat at fed
          omega
        · exact List.mem_cons_of_mem _ (ih (by simp) later)
      | more q =>
        rw [feeds] at fed among
        refine List.mem_cons_of_mem _ (ih ?_ among)
        rintro q' ⟨⟩
        exact fed
      | refused =>
        -- The byte breaks the character off, and is read again as a first byte.
        rw [feeds] at among
        rcases List.mem_cons.1 among with same | later
        · exact absurd same ordinary
        · exact mem_of_mem_first high ordinary ih later

/-- A character of one byte stands in a text that is shown only where its byte stands. -/
theorem mem_of_mem_toStringLossy {bytes : Bytes} (low : 0 < c.toNat)
    (high : c.toNat < 0x80) (among : c ∈ (toStringLossy bytes).toList) :
    UInt8.ofNat c.toNat ∈ bytes := by
  rw [toStringLossy, String.toList_ofList] at among
  exact mem_of_mem_decodeLossyFrom (by simp) low high among

end Shown

/-! ## Texts that are shown -/

/-- Whatever has begun is shown. -/
theorem decodeLossyFrom_ne_nil {state : Option Pending} {bytes : Bytes}
    (begun : state ≠ none ∨ bytes ≠ []) : decodeLossyFrom state bytes ≠ [] := by
  induction bytes generalizing state with
  | nil =>
    cases state with
    | none => simp at begun
    | some p => simp [decodeLossyFrom]
  | cons b rest ih =>
    have goesOn : ∀ q : Pending, decodeLossyFrom (some q) rest ≠ [] := fun q => ih (by simp)
    cases state with
    | none =>
      rw [decodeLossyFrom]
      split <;> simp [goesOn]
    | some p =>
      rw [decodeLossyFrom]
      split <;> simp [goesOn]

theorem toStringLossy_ne_empty {bytes : Bytes} (filled : bytes ≠ []) :
    toStringLossy bytes ≠ "" := by
  intro nothing
  have chars : decodeLossy bytes = [] := by
    simpa [toStringLossy] using congrArg String.toList nothing
  exact decodeLossyFrom_ne_nil (.inr filled) chars

/-- A text is shown as it is. -/
theorem toStringLossy_ofString (s : String) : toStringLossy (ofString s) = s := by
  have shown : decodeLossy (encode s.toList) = s.toList :=
    decodeLossyFrom_of_decodeFrom? (decode?_encode s.toList)
  rw [toStringLossy, ofString, shown, String.ofList_toList]

end AppLauncher.Utf8
