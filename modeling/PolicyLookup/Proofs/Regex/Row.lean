import Mathlib.Data.List.Forall2
import PolicyLookup.Proofs.Regex.Word
import PolicyLookup.Regex.Size

set_option autoImplicit false

namespace PolicyLookup.Regex

def Expr.singles (w : Text) : List Expr := w.map fun c => .literal ⟨c, false⟩

def singles (w : Text) : List Regex := w.map fun c => .set (.singleton c)

theorem row_singles (w : Text) : row (singles w) = word w := by
  induction w with
  | nil => rfl
  | cons c w ih =>
      cases w with
      | nil => rfl
      | cons d w => exact congrArg (Regex.seq (.set (.singleton c))) ih

theorem alternatives_word (w : Text) : alternatives (word w) = [word w] := by
  cases w with
  | nil => rfl
  | cons c w => cases w <;> rfl

namespace Reading

def pushAll (r : Reading) (es : List Expr) : Reading :=
  { r with level := { r.level with items := es.reverse ++ r.level.items } }

theorem push_all_append (r : Reading) (es fs : List Expr) : r.pushAll (es ++ fs) = (r.pushAll es).pushAll fs := by
  simp [pushAll]

theorem run_word {w : Text} (word : w.IsWord) (n : Nat) {r : Reading} (terse : r.verbose = false) (rest : Text) :
    run (w.length + n) r (w ++ rest) = run n (r.pushAll (Expr.singles w)) rest := by
  have read := run_escape w n r rest terse
  rwa [escape_word word] at read

end Reading

def Means (f : Flags) (e : Expr) (r : Regex) : Prop := e.meaning f = .ok (r, f)

theorem singles_mean (w : Text) : List.Forall₂ (Means Flags.start) (Expr.singles w) (singles w) := by
  rw [Expr.singles, singles, List.forall₂_map_left_iff, List.forall₂_map_right_iff, List.forall₂_same]
  intro c member
  rfl

theorem row_meaning {f : Flags} {es : List Expr} {rs : List Regex} (mean : List.Forall₂ (Means f) es rs) :
    Means f (.ofSeq es) (row rs) := by
  induction mean with
  | nil => rfl
  | cons first later ih =>
      cases later with
      | nil => exact first
      | cons second others =>
          rw [Means] at first ih ⊢
          simp only [Expr.ofSeq, Expr.meaning, first] at ih ⊢
          rw [ih]
          rfl

theorem row_depth {es : List Expr} {n : Nat} (shallow : ∀ e ∈ es, ∀ chain, e.depth chain ≤ n) :
    (Expr.ofSeq es).depth .seq ≤ n ∧ ∀ chain, (Expr.ofSeq es).depth chain ≤ n + 1 := by
  induction es with
  | nil => exact ⟨Nat.zero_le n, fun chain => Nat.zero_le (n + 1)⟩
  | cons e es ih =>
      rw [List.forall_mem_cons] at shallow
      obtain ⟨inRow, _⟩ := ih shallow.2
      cases es with
      | nil => exact ⟨shallow.1 .seq, fun chain => Nat.le_succ_of_le (shallow.1 chain)⟩
      | cons next es =>
          have first := shallow.1 .seq
          have whole (chain : Chain) : (Expr.ofSeq (e :: next :: es)).depth chain =
              (if chain = .seq then 0 else 1) + max (e.depth .seq) ((Expr.ofSeq (next :: es)).depth .seq) := rfl
          constructor
          · rw [whole, if_pos rfl]
            omega
          · intro chain
            rw [whole]
            split <;> omega

theorem singles_depth (n : Nat) (w : Text) : ∀ e ∈ Expr.singles w, ∀ chain, e.depth chain ≤ n := by
  intro e member chain
  obtain ⟨c, _, rfl⟩ := List.mem_map.mp member
  exact Nat.zero_le n

section

variable {text : Array Char}

theorem spans_row_cons (r : Regex) (rest : List Regex) (p q : Nat) :
    Spans text (row (r :: rest)) p q ↔ ∃ m, Spans text r p m ∧ Spans text (row rest) m q := by
  cases rest with
  | nil => simp [row, Spans]
  | cons next rest => exact Iff.rfl

theorem spans_row_append (rs ss : List Regex) (p q : Nat) :
    Spans text (row (rs ++ ss)) p q ↔ ∃ m, Spans text (row rs) p m ∧ Spans text (row ss) m q := by
  induction rs generalizing p with
  | nil => simp [row, Spans]
  | cons r rs ih =>
      simp only [List.cons_append, spans_row_cons, ih]
      constructor
      · rintro ⟨next, one, m, left, right⟩
        exact ⟨m, ⟨next, one, left⟩, right⟩
      · rintro ⟨m, ⟨next, one, left⟩, right⟩
        exact ⟨next, one, m, left, right⟩

end

theorem spans_singles (t w : Text) (p q : Nat) :
    Spans t.toArray (row (singles w)) p q ↔ q = p + w.length ∧ w <+: t.drop p := by
  rw [row_singles, spans_word]

theorem length_bytes_of (n : Nat) : (bytesOf n).length ≤ 4 := by
  simp only [bytesOf]
  split
  · simp
  · split
    · simp
    · split <;> simp

theorem singleton_size (direction : Direction) (c : Char) : setSize direction (.singleton c) ≤ 128 := by
  have bytes := length_bytes_of c.toNat
  have size : setSize direction (.singleton c) = stateBytes * (bytesOf c.toNat).length := by
    simp [setSize, CharSet.only?, CharSet.singleton]
  rw [size, stateBytes]
  omega

theorem row_size {direction : Direction} {rs : List Regex} {n : Nat}
    (small : ∀ r ∈ rs, ∀ inChoice, r.size direction inChoice ≤ n) (inChoice : Bool) :
    (row rs).size direction inChoice ≤ 32 + n * rs.length := by
  induction rs generalizing inChoice with
  | nil => simp [row, size, stateBytes]
  | cons r rs ih =>
      rw [List.forall_mem_cons] at small
      have later := ih small.2
      rw [List.length_cons, Nat.mul_succ]
      cases rs with
      | nil =>
          have one := small.1 inChoice
          rw [row]
          omega
      | cons next rs =>
          have one := small.1 false
          have others := later false
          have whole : (row (r :: next :: rs)).size direction inChoice =
              r.size direction false + (row (next :: rs)).size direction false := rfl
          omega

theorem singles_size (direction : Direction) (w : Text) :
    ∀ r ∈ singles w, ∀ inChoice, r.size direction inChoice ≤ 128 := by
  intro r member inChoice
  obtain ⟨c, _, rfl⟩ := List.mem_map.mp member
  exact singleton_size direction c

theorem word_size (direction : Direction) (inChoice : Bool) (w : Text) :
    (word w).size direction inChoice ≤ 32 + 128 * w.length := by
  have bound := row_size (singles_size direction w) inChoice
  rwa [row_singles, singles, List.length_map] at bound

theorem fits_of_small {r : Regex} {bound : Nat} (small : ∀ direction, automatonSize direction r ≤ bound)
    (within : bound ≤ sizeLimit) : r.isTooLarge = false := by
  have forwards := small .forwards
  have backwards := small .backwards
  rw [isTooLarge, Bool.or_eq_false_iff]
  exact ⟨decide_eq_false (by omega), decide_eq_false (by omega)⟩

end PolicyLookup.Regex
