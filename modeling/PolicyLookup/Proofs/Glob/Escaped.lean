import PolicyLookup.Glob.Pattern

set_option autoImplicit false

namespace PolicyLookup.Glob

def IsSpecial (c : Char) : Prop := c = '?' ∨ c = '*' ∨ c = '[' ∨ c = ']'

instance (c : Char) : Decidable (IsSpecial c) := inferInstanceAs (Decidable (_ ∨ _))

def tokenOf (c : Char) : Token := if IsSpecial c then .oneOf false [(c, c)] else .char c

def tokensOf (t : Text) : List Token := t.map tokenOf

theorem tokens_cons (c : Char) (t : Text) : tokensOf (c :: t) = tokenOf c :: tokensOf t := rfl

theorem token_special {c : Char} (special : IsSpecial c) : tokenOf c = .oneOf false [(c, c)] := if_pos special

theorem token_plain {c : Char} (plain : ¬ IsSpecial c) : tokenOf c = .char c := if_neg plain

theorem escape_special {c : Char} (special : IsSpecial c) (t : Text) :
    escape (c :: t) = '[' :: c :: ']' :: escape t := by
  unfold IsSpecial at special
  rw [escape, List.flatMap_cons, if_pos special]
  rfl

theorem escape_plain {c : Char} (plain : ¬ IsSpecial c) (t : Text) : escape (c :: t) = c :: escape t := by
  unfold IsSpecial at plain
  rw [escape, List.flatMap_cons, if_neg plain]
  rfl

theorem escape_free {t : Text} (plain : ∀ c ∈ t, ¬ IsSpecial c) : escape t = t := by
  induction t with
  | nil => rfl
  | cons c t ih =>
      rw [escape_plain (plain c List.mem_cons_self), ih fun d member => plain d (List.mem_cons_of_mem c member)]

theorem escape_ne_nil {t : Text} (something : t ≠ []) : escape t ≠ [] := by
  cases t with
  | nil => contradiction
  | cons c t =>
      by_cases special : IsSpecial c
      · rw [escape_special special]
        exact List.cons_ne_nil _ _
      · rw [escape_plain special]
        exact List.cons_ne_nil _ _

theorem slash_in_escape {t : Text} (inside : '/' ∈ escape t) : '/' ∈ t := by
  induction t with
  | nil => exact inside
  | cons c t ih =>
      by_cases special : IsSpecial c
      · rw [escape_special special] at inside
        have rest : '/' = c ∨ '/' ∈ escape t := by simpa using inside
        rcases rest with rfl | later
        · exact List.mem_cons_self
        · exact List.mem_cons_of_mem c (ih later)
      · rw [escape_plain special] at inside
        rcases List.mem_cons.mp inside with rfl | later
        · exact List.mem_cons_self
        · exact List.mem_cons_of_mem c (ih later)

theorem read_plain {c : Char} (plain : ¬ IsSpecial c) (position : Nat) (before : Option Char) (rest : Text) :
    readFrom position before 0 (c :: rest) =
      (readFrom (position + 1) (some c) 0 rest).map (.char c :: ·) := by
  simp only [IsSpecial, not_or] at plain
  obtain ⟨question, star, opening, _⟩ := plain
  rw [readFrom]
  · exact question
  · exact opening
  · exact star

theorem read_special {c : Char} (special : IsSpecial c) (position : Nat) (before : Option Char) (rest : Text) :
    readFrom position before 0 ('[' :: c :: ']' :: rest) =
      (readFrom (position + 3) (some ']') 0 rest).map (.oneOf false [(c, c)] :: ·) := by
  rcases special with rfl | rfl | rfl | rfl <;> rfl

theorem read_escape (t : Text) (position : Nat) (before : Option Char) :
    ∃ next last, ∀ rest, readFrom position before 0 (escape t ++ rest) =
      (readFrom next last 0 rest).map (tokensOf t ++ ·) := by
  induction t generalizing position before with
  | nil =>
      refine ⟨position, before, ?_⟩
      intro rest
      cases read : readFrom position before 0 rest with
      | error fault => exact read
      | ok tokens => exact read
  | cons c t ih =>
      by_cases special : IsSpecial c
      · obtain ⟨next, last, reads⟩ := ih (position + 3) (some ']')
        refine ⟨next, last, ?_⟩
        intro rest
        rw [escape_special special, List.cons_append, List.cons_append, List.cons_append, read_special special,
          reads, tokens_cons, token_special special]
        cases readFrom next last 0 rest <;> rfl
      · obtain ⟨next, last, reads⟩ := ih (position + 1) (some c)
        refine ⟨next, last, ?_⟩
        intro rest
        rw [escape_plain special, List.cons_append, read_plain special, reads, tokens_cons, token_plain special]
        cases readFrom next last 0 rest <;> rfl

theorem read_name (t : Text) : read (escape t) = .ok (tokensOf t) := by
  obtain ⟨next, last, reads⟩ := read_escape t 0 none
  have whole := reads []
  rw [List.append_nil] at whole
  rw [read, whole, readFrom]
  change Except.ok (tokensOf t ++ []) = _
  rw [List.append_nil]

theorem read_folders (position : Nat) (before : Option Char) (rest : Text) :
    readFrom position before 0 ('/' :: '*' :: '*' :: '/' :: rest) =
      (readFrom (position + 4) (some '/') 0 rest).map (.char '/' :: .folders :: ·) := by
  have folders : readFrom (position + 1) (some '/') 0 ('*' :: '*' :: '/' :: rest) =
      (readFrom (position + 4) (some '/') 0 rest).map (.folders :: ·) := rfl
  rw [read_plain (by decide), folders]
  cases readFrom (position + 4) (some '/') 0 rest <;> rfl

theorem read_run (position : Nat) (before : Option Char) (rest : Text) :
    readFrom position before 0 ('*' :: '.' :: rest) =
      (readFrom (position + 1) (some '*') 0 ('.' :: rest)).map (.run :: ·) := rfl

theorem tokens_ne_folders (t : Text) : tokensOf t ≠ [.folders] := by
  intro same
  cases t with
  | nil => contradiction
  | cons c t =>
      have head := (List.cons.inj same).1
      rw [tokenOf] at head
      split at head <;> contradiction

theorem plain_tokens {t u : Text} (plain : plain? (tokensOf t) = some u) : u = t := by
  induction t generalizing u with
  | nil => exact (Option.some.inj plain).symm
  | cons c t ih =>
      by_cases special : IsSpecial c
      · rw [tokens_cons, token_special special] at plain
        contradiction
      · rw [tokens_cons, token_plain special, plain?, Option.map_eq_some_iff] at plain
        obtain ⟨v, rest, rfl⟩ := plain
        rw [ih rest]

theorem token_admits (c d : Char) : (tokenOf c).admits d = true ↔ d = c := by
  by_cases special : IsSpecial c
  · rw [token_special special]
    simp only [Token.admits, List.any_cons, List.any_nil, Bool.or_false, Bool.bne_false, Bool.and_eq_true,
      decide_eq_true_eq]
    constructor
    · rintro ⟨least, most⟩
      exact Char.le_antisymm most least
    · rintro rfl
      exact ⟨Char.le_refl d, Char.le_refl d⟩
  · rw [token_plain special, Token.admits, beq_iff_eq]

theorem matches_cons (c : Char) (tokens : List Token) (name : Text) :
    matchesName (tokenOf c :: tokens) name = true ↔
      ∃ rest, name = c :: rest ∧ matchesName tokens rest = true := by
  have step : ∀ d rest, matchesName (tokenOf c :: tokens) (d :: rest) =
      ((tokenOf c).admits d && matchesName tokens rest) := by
    intro d rest
    rw [tokenOf]
    split <;> rfl
  cases name with
  | nil =>
      have none : matchesName (tokenOf c :: tokens) [] = false := by
        rw [tokenOf]
        split <;> rfl
      rw [none]
      constructor
      · intro impossible
        contradiction
      · rintro ⟨rest, impossible, _⟩
        contradiction
  | cons d rest =>
      rw [step, Bool.and_eq_true, token_admits]
      constructor
      · rintro ⟨rfl, later⟩
        exact ⟨rest, rfl, later⟩
      · rintro ⟨more, same, later⟩
        obtain ⟨rfl, rfl⟩ := List.cons.inj same
        exact ⟨rfl, later⟩

theorem matches_tokens (t name : Text) : matchesName (tokensOf t) name = true ↔ name = t := by
  induction t generalizing name with
  | nil => exact List.isEmpty_iff
  | cons c t ih =>
      rw [tokens_cons, matches_cons]
      constructor
      · rintro ⟨rest, rfl, later⟩
        rw [(ih rest).mp later]
      · rintro rfl
        exact ⟨t, rfl, (ih t).mpr rfl⟩

theorem any_end_iff (property : Text → Bool) (t : Text) :
    anyEnd property t = true ↔ ∃ u, u <:+ t ∧ property u = true := by
  induction t with
  | nil =>
      constructor
      · intro holds
        exact ⟨[], List.suffix_refl [], holds⟩
      · rintro ⟨u, ends, holds⟩
        obtain rfl := List.suffix_nil.mp ends
        exact holds
  | cons c t ih =>
      rw [anyEnd, Bool.or_eq_true, ih]
      constructor
      · rintro (whole | ⟨u, ends, holds⟩)
        · exact ⟨c :: t, List.suffix_refl _, whole⟩
        · exact ⟨u, ends.trans (List.suffix_cons c t), holds⟩
      · rintro ⟨u, ends, holds⟩
        rcases List.suffix_cons_iff.mp ends with rfl | later
        · exact Or.inl holds
        · exact Or.inr ⟨u, later, holds⟩

theorem matches_run (t name : Text) : matchesName (.run :: tokensOf t) name = true ↔ t <:+ name := by
  rw [matchesName, any_end_iff]
  constructor
  · rintro ⟨u, ends, same⟩
    exact (matches_tokens t u).mp same ▸ ends
  · intro ends
    exact ⟨t, ends, (matches_tokens t t).mpr rfl⟩

end PolicyLookup.Glob
