import PolicyLookup.Text.Utf8

set_option autoImplicit false

namespace PolicyLookup.Utf8

theorem is_in_iff (lo hi : Nat) (b : UInt8) : isIn lo hi b = true ↔ lo ≤ b.toNat ∧ b.toNat ≤ hi := by
  simp [isIn]

theorem is_in_false {lo hi : Nat} {b : UInt8} (outside : ¬ (lo ≤ b.toNat ∧ b.toNat ≤ hi)) :
    isIn lo hi b = false := by
  rwa [← Bool.not_eq_true, is_in_iff]

theorem to_nat_of_nat {n : Nat} (small : n < 256) : (UInt8.ofNat n).toNat = n :=
  UInt8.toNat_ofNat_of_lt' small

theorem of_nat_eq {n : Nat} {b : UInt8} (same : n = b.toNat) : UInt8.ofNat n = b := by
  rw [same, UInt8.ofNat_toNat]

theorem to_nat_char {n : Nat} (valid : n < 0xD800 ∨ 0xDFFF < n ∧ n < 0x110000) :
    (Char.ofNat n).toNat = n := by
  unfold Char.ofNat
  rw [dif_pos valid]
  rfl

theorem low_eq (b : UInt8) : low b = b.toNat - 0x80 := rfl

theorem second_low_eq (a : UInt8) :
    secondLow a = if a.toNat = 0xE0 then 0xA0 else if a.toNat = 0xF0 then 0x90 else 0x80 := by
  simp only [secondLow, ← UInt8.toNat_inj]
  rfl

theorem second_high_eq (a : UInt8) :
    secondHigh a = if a.toNat = 0xED then 0x9F else if a.toNat = 0xF4 then 0x8F else 0xBF := by
  simp only [secondHigh, ← UInt8.toNat_inj]
  rfl

def Second (a b : UInt8) : Prop := secondLow a ≤ b.toNat ∧ b.toNat ≤ secondHigh a

def Tail (b : UInt8) : Prop := 0x80 ≤ b.toNat ∧ b.toNat ≤ 0xBF

theorem second_tail {a b : UInt8} (second : Second a b) : Tail b := by
  rw [Second, second_low_eq, second_high_eq] at second
  unfold Tail
  split at second <;> split at second <;> (try split at second) <;> (try split at second) <;> omega

-- The bounds of a second byte keep the form shortest and off surrogates.
theorem second_three {n : Nat} {a b : UInt8} (lead : a.toNat = 0xE0 + n / 4096)
    (next : b.toNat = 0x80 + n / 64 % 64) (short : n < 0x10000) :
    Second a b ↔ 0x800 ≤ n ∧ (n < 0xD800 ∨ 0xDFFF < n) := by
  rw [Second, second_low_eq, second_high_eq, lead, next]
  split <;> split <;> (try split) <;> (try split) <;> omega

theorem second_four {n : Nat} {a b : UInt8} (lead : a.toNat = 0xF0 + n / 262144)
    (next : b.toNat = 0x80 + n / 4096 % 64) (short : n < 0x140000) :
    Second a b ↔ 0x10000 ≤ n ∧ n < 0x110000 := by
  rw [Second, second_low_eq, second_high_eq, lead, next]
  split <;> split <;> (try split) <;> (try split) <;> omega

section

variable {c : Char} {n : Nat}

theorem encode_char_one (number : c.toNat = n) (small : n < 0x80) : encodeChar c = [UInt8.ofNat n] := by
  unfold encodeChar
  rw [number]
  exact if_pos small

theorem encode_char_two (number : c.toNat = n) (range : 0x80 ≤ n ∧ n < 0x800) :
    encodeChar c = [UInt8.ofNat (0xC0 + n / 64), UInt8.ofNat (0x80 + n % 64)] := by
  have one : ¬ n < 0x80 := Nat.not_lt.mpr range.1
  unfold encodeChar
  rw [number]
  exact (if_neg one).trans (if_pos range.2)

theorem encode_char_three (number : c.toNat = n) (range : 0x800 ≤ n ∧ n < 0x10000) :
    encodeChar c = [UInt8.ofNat (0xE0 + n / 4096), UInt8.ofNat (0x80 + n / 64 % 64),
      UInt8.ofNat (0x80 + n % 64)] := by
  have one : ¬ n < 0x80 := by omega
  have two : ¬ n < 0x800 := by omega
  unfold encodeChar
  rw [number]
  exact (if_neg one).trans ((if_neg two).trans (if_pos range.2))

theorem encode_char_four (number : c.toNat = n) (range : 0x10000 ≤ n) :
    encodeChar c = [UInt8.ofNat (0xF0 + n / 262144), UInt8.ofNat (0x80 + n / 4096 % 64),
      UInt8.ofNat (0x80 + n / 64 % 64), UInt8.ofNat (0x80 + n % 64)] := by
  have one : ¬ n < 0x80 := by omega
  have two : ¬ n < 0x800 := by omega
  have three : ¬ n < 0x10000 := by omega
  unfold encodeChar
  rw [number]
  exact (if_neg one).trans ((if_neg two).trans (if_neg three))

end

section

variable {a b c d : UInt8} {n : Nat}

theorem chunks_one (lead : a.toNat ≤ 0x7F) (payload : n = a.toNat) (rest : Bytes) :
    chunks (a :: rest) = some (Char.ofNat n) :: chunks rest := by
  have one : isIn 0 0x7F a = true := (is_in_iff _ _ _).mpr ⟨Nat.zero_le _, lead⟩
  rw [payload, chunks.eq_def (a :: rest)]
  simp only [one, if_true]

theorem chunks_two (lead : 0xC2 ≤ a.toNat ∧ a.toNat ≤ 0xDF) (tail : Tail b)
    (payload : n = (a.toNat - 0xC0) * 64 + low b) (rest : Bytes) :
    chunks (a :: b :: rest) = some (Char.ofNat n) :: chunks rest := by
  have one : isIn 0 0x7F a = false := is_in_false (by omega)
  have two : isIn 0xC2 0xDF a = true := (is_in_iff _ _ _).mpr lead
  have last : isIn 0x80 0xBF b = true := (is_in_iff _ _ _).mpr tail
  rw [payload, chunks.eq_def (a :: b :: rest)]
  simp only [one, two, last, if_true, Bool.false_eq_true, if_false]

theorem chunks_three (lead : 0xE0 ≤ a.toNat ∧ a.toNat ≤ 0xEF) (second : Second a b) (tail : Tail c)
    (payload : n = (a.toNat - 0xE0) * 4096 + low b * 64 + low c) (rest : Bytes) :
    chunks (a :: b :: c :: rest) = some (Char.ofNat n) :: chunks rest := by
  have one : isIn 0 0x7F a = false := is_in_false (by omega)
  have two : isIn 0xC2 0xDF a = false := is_in_false (by omega)
  have three : isIn 0xE0 0xEF a = true := (is_in_iff _ _ _).mpr lead
  have next : isIn (secondLow a) (secondHigh a) b = true := (is_in_iff _ _ _).mpr second
  have last : isIn 0x80 0xBF c = true := (is_in_iff _ _ _).mpr tail
  rw [payload, chunks.eq_def (a :: b :: c :: rest)]
  simp only [one, two, three, next, last, if_true, Bool.false_eq_true, if_false]

theorem chunks_four (lead : 0xF0 ≤ a.toNat ∧ a.toNat ≤ 0xF4) (second : Second a b) (third : Tail c)
    (tail : Tail d) (payload : n = (a.toNat - 0xF0) * 262144 + low b * 4096 + low c * 64 + low d)
    (rest : Bytes) :
    chunks (a :: b :: c :: d :: rest) = some (Char.ofNat n) :: chunks rest := by
  have one : isIn 0 0x7F a = false := is_in_false (by omega)
  have two : isIn 0xC2 0xDF a = false := is_in_false (by omega)
  have three : isIn 0xE0 0xEF a = false := is_in_false (by omega)
  have four : isIn 0xF0 0xF4 a = true := (is_in_iff _ _ _).mpr lead
  have next : isIn (secondLow a) (secondHigh a) b = true := (is_in_iff _ _ _).mpr second
  have middle : isIn 0x80 0xBF c = true := (is_in_iff _ _ _).mpr third
  have last : isIn 0x80 0xBF d = true := (is_in_iff _ _ _).mpr tail
  rw [payload, chunks.eq_def (a :: b :: c :: d :: rest)]
  simp only [one, two, three, four, next, middle, last, if_true, Bool.false_eq_true, if_false]

end

theorem chunks_encode_char (c : Char) (rest : Bytes) :
    chunks (encodeChar c ++ rest) = some c :: chunks rest := by
  have valid : c.toNat < 0xD800 ∨ 0xDFFF < c.toNat ∧ c.toNat < 0x110000 := c.valid
  have back : Char.ofNat c.toNat = c := Char.ofNat_toNat c
  obtain ⟨n, number⟩ : ∃ n, c.toNat = n := ⟨_, rfl⟩
  rw [number] at valid back
  by_cases one : n < 0x80
  · have lead : (UInt8.ofNat n).toNat = n := to_nat_of_nat (by omega)
    rw [encode_char_one number one, List.singleton_append, chunks_one (by omega) lead.symm, back]
  by_cases two : n < 0x800
  · have lead : (UInt8.ofNat (0xC0 + n / 64)).toNat = 0xC0 + n / 64 := to_nat_of_nat (by omega)
    have tail : (UInt8.ofNat (0x80 + n % 64)).toNat = 0x80 + n % 64 := to_nat_of_nat (by omega)
    rw [encode_char_two number ⟨by omega, two⟩, List.cons_append, List.singleton_append,
      chunks_two (n := n) (by omega) (by unfold Tail; omega) (by rw [low_eq]; omega), back]
  by_cases three : n < 0x10000
  · have lead : (UInt8.ofNat (0xE0 + n / 4096)).toNat = 0xE0 + n / 4096 := to_nat_of_nat (by omega)
    have next : (UInt8.ofNat (0x80 + n / 64 % 64)).toNat = 0x80 + n / 64 % 64 := to_nat_of_nat (by omega)
    have tail : (UInt8.ofNat (0x80 + n % 64)).toNat = 0x80 + n % 64 := to_nat_of_nat (by omega)
    have second := (second_three lead next three).mpr (by omega)
    rw [encode_char_three number ⟨by omega, three⟩, List.cons_append, List.cons_append,
      List.singleton_append, chunks_three (n := n) (by omega) second (by unfold Tail; omega)
        (by rw [low_eq, low_eq]; omega), back]
  · have lead : (UInt8.ofNat (0xF0 + n / 262144)).toNat = 0xF0 + n / 262144 := to_nat_of_nat (by omega)
    have next : (UInt8.ofNat (0x80 + n / 4096 % 64)).toNat = 0x80 + n / 4096 % 64 := to_nat_of_nat (by omega)
    have third : (UInt8.ofNat (0x80 + n / 64 % 64)).toNat = 0x80 + n / 64 % 64 := to_nat_of_nat (by omega)
    have tail : (UInt8.ofNat (0x80 + n % 64)).toNat = 0x80 + n % 64 := to_nat_of_nat (by omega)
    have second := (second_four lead next (by omega)).mpr (by omega)
    rw [encode_char_four number (by omega), List.cons_append, List.cons_append, List.cons_append,
      List.singleton_append, chunks_four (n := n) (by omega) second (by unfold Tail; omega)
        (by unfold Tail; omega) (by rw [low_eq, low_eq, low_eq]; omega), back]

theorem encode_cons (c : Char) (t : Text) : encode (c :: t) = encodeChar c ++ encode t := List.flatMap_cons

theorem chunks_encode (t : Text) : chunks (encode t) = t.map some := by
  induction t with
  | nil => rfl
  | cons c t ih => rw [encode_cons, chunks_encode_char, ih, List.map_cons]

theorem all_some (t : Text) : all? (t.map some) = some t := by
  induction t with
  | nil => rfl
  | cons c t ih => rw [List.map_cons, all?, ih, Option.map_some]

theorem decode_encode (t : Text) : decode? (encode t) = some t := by
  rw [decode?, chunks_encode, all_some]

theorem encode_inj {t u : Text} (same : encode t = encode u) : t = u := by
  have read := congrArg decode? same
  rw [decode_encode, decode_encode] at read
  exact Option.some.inj read

section

variable {a b c d : UInt8} {n : Nat}

theorem encode_one (lead : a.toNat ≤ 0x7F) (payload : n = a.toNat) : encodeChar (Char.ofNat n) = [a] := by
  have number := to_nat_char (n := n) (by omega)
  rw [encode_char_one number (by omega), of_nat_eq payload]

theorem encode_two (lead : 0xC2 ≤ a.toNat ∧ a.toNat ≤ 0xDF) (tail : Tail b)
    (payload : n = (a.toNat - 0xC0) * 64 + low b) : encodeChar (Char.ofNat n) = [a, b] := by
  rw [low_eq] at payload
  unfold Tail at tail
  have number := to_nat_char (n := n) (by omega)
  rw [encode_char_two number (by omega), of_nat_eq (b := a) (by omega), of_nat_eq (b := b) (by omega)]

theorem encode_three (lead : 0xE0 ≤ a.toNat ∧ a.toNat ≤ 0xEF) (second : Second a b) (tail : Tail c)
    (payload : n = (a.toNat - 0xE0) * 4096 + low b * 64 + low c) :
    encodeChar (Char.ofNat n) = [a, b, c] := by
  have bound := second_tail second
  rw [low_eq, low_eq] at payload
  unfold Tail at tail bound
  have range := (second_three (n := n) (by omega) (by omega) (by omega)).mp second
  have number := to_nat_char (n := n) (by omega)
  rw [encode_char_three number (by omega), of_nat_eq (b := a) (by omega), of_nat_eq (b := b) (by omega),
    of_nat_eq (b := c) (by omega)]

theorem encode_four (lead : 0xF0 ≤ a.toNat ∧ a.toNat ≤ 0xF4) (second : Second a b) (third : Tail c)
    (tail : Tail d) (payload : n = (a.toNat - 0xF0) * 262144 + low b * 4096 + low c * 64 + low d) :
    encodeChar (Char.ofNat n) = [a, b, c, d] := by
  have bound := second_tail second
  rw [low_eq, low_eq, low_eq] at payload
  unfold Tail at tail bound third
  have range := (second_four (n := n) (by omega) (by omega) (by omega)).mp second
  have number := to_nat_char (n := n) (by omega)
  rw [encode_char_four number (by omega), of_nat_eq (b := a) (by omega), of_nat_eq (b := b) (by omega),
    of_nat_eq (b := c) (by omega), of_nat_eq (b := d) (by omega)]

end

theorem encode_read {c : Char} {piece rest : Bytes} (written : encodeChar c = piece)
    (ih : ∀ t, all? (chunks rest) = some t → encode t = rest) (t : Text)
    (read : all? (some c :: chunks rest) = some t) : encode t = piece ++ rest := by
  rw [all?, Option.map_eq_some_iff] at read
  obtain ⟨u, later, rfl⟩ := read
  rw [encode_cons, written, ih u later]

-- The cases are those of `chunks`: a character of each length, and the ill-formed runs.
theorem encode_of_chunks (bytes : Bytes) : ∀ t, all? (chunks bytes) = some t → encode t = bytes := by
  fun_induction chunks bytes with
  | case1 =>
      intro t read
      obtain rfl := Option.some.inj read
      rfl
  | case2 a rest lead ih =>
      exact encode_read (encode_one ((is_in_iff _ _ _).mp lead).2 rfl) ih
  | case4 a _ lead b rest tail ih =>
      exact encode_read (encode_two ((is_in_iff _ _ _).mp lead) ((is_in_iff _ _ _).mp tail) rfl) ih
  | case8 a _ _ lead b second c rest tail ih =>
      exact encode_read (encode_three ((is_in_iff _ _ _).mp lead) ((is_in_iff _ _ _).mp second)
        ((is_in_iff _ _ _).mp tail) rfl) ih
  | case14 a _ _ _ lead b second c third d rest tail ih =>
      exact encode_read (encode_four ((is_in_iff _ _ _).mp lead) ((is_in_iff _ _ _).mp second)
        ((is_in_iff _ _ _).mp third) ((is_in_iff _ _ _).mp tail) rfl) ih
  | _ =>
      intro t read
      cases read

theorem decode_iff (bytes : Bytes) (t : Text) : decode? bytes = some t ↔ bytes = encode t := by
  constructor
  · intro read
    exact (encode_of_chunks bytes t read).symm
  · rintro rfl
    exact decode_encode t

theorem slash_in_encode_char {c : Char} (inside : 0x2F ∈ encodeChar c) : c = '/' := by
  have back : Char.ofNat c.toNat = c := Char.ofNat_toNat c
  have valid : c.toNat < 0xD800 ∨ 0xDFFF < c.toNat ∧ c.toNat < 0x110000 := c.valid
  obtain ⟨n, number⟩ : ∃ n, c.toNat = n := ⟨_, rfl⟩
  rw [number] at back valid
  have high {m : Nat} (range : 0x80 ≤ m ∧ m < 256) : 0x2F ≠ UInt8.ofNat m := by
    intro same
    have value := congrArg UInt8.toNat same
    rw [to_nat_of_nat range.2] at value
    exact absurd (value ▸ range.1) (by decide)
  by_cases one : n < 0x80
  · rw [encode_char_one number one, List.mem_singleton] at inside
    have value := congrArg UInt8.toNat inside
    rw [to_nat_of_nat (by omega)] at value
    rw [← back, ← value]
    rfl
  by_cases two : n < 0x800
  · rw [encode_char_two number ⟨by omega, two⟩, List.mem_cons, List.mem_singleton] at inside
    rcases inside with lead | tail
    · exact absurd lead (high (by omega))
    · exact absurd tail (high (by omega))
  by_cases three : n < 0x10000
  · rw [encode_char_three number ⟨by omega, three⟩, List.mem_cons, List.mem_cons, List.mem_singleton] at inside
    rcases inside with lead | second | tail
    · exact absurd lead (high (by omega))
    · exact absurd second (high (by omega))
    · exact absurd tail (high (by omega))
  · rw [encode_char_four number (by omega), List.mem_cons, List.mem_cons, List.mem_cons,
      List.mem_singleton] at inside
    rcases inside with lead | second | third | tail
    · exact absurd lead (high (by omega))
    · exact absurd second (high (by omega))
    · exact absurd third (high (by omega))
    · exact absurd tail (high (by omega))

theorem slash_in_encode {t : Text} (inside : 0x2F ∈ encode t) : '/' ∈ t := by
  obtain ⟨c, member, here⟩ := List.mem_flatMap.mp inside
  exact slash_in_encode_char here ▸ member

end PolicyLookup.Utf8
