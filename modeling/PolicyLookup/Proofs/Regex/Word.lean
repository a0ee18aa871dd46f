import PolicyLookup.Proofs.Regex.Spans
import PolicyLookup.Regex.Meaning
import PolicyLookup.Regex.Reader

set_option autoImplicit false

namespace PolicyLookup

def Text.IsWord (t : Text) : Prop := ∀ c ∈ t, c.isAlphanum = true ∨ c = '_'

instance (t : Text) : Decidable (Text.IsWord t) :=
  List.decidableBAll (fun c : Char => c.isAlphanum = true ∨ c = '_') t

theorem Text.word_free {t : Text} (word : t.IsWord) {c : Char} (other : c.isAlphanum = false) (notLine : c ≠ '_') :
    c ∉ t := by
  intro member
  rcases word c member with alphanumeric | line
  · rw [other] at alphanumeric
    contradiction
  · exact notLine line

namespace Regex

def Expr.word (w : Text) : Expr := .ofSeq (w.map fun c => .literal ⟨c, false⟩)

def word : Text → Regex
  | [] => .empty
  | [c] => .set (.singleton c)
  | c :: rest => .seq (.set (.singleton c)) (word rest)

namespace Reading

def pushWord (r : Reading) (w : Text) : Reading :=
  { r with level := { r.level with
      items := (w.map fun c => Expr.literal ⟨c, false⟩).reverse ++ r.level.items } }

theorem push_word_cons (r : Reading) (c : Char) (w : Text) :
    r.pushWord (c :: w) = (r.push (.literal ⟨c, false⟩)).pushWord w := by
  simp [pushWord, push, Level.push]

theorem step_plain (r : Reading) (c : Char) (rest : Text) (plain : isMeta c = false) :
    r.step c rest = .ok (r.push (.literal ⟨c, false⟩), rest) := by
  unfold step
  split
  case h_13 => rfl
  all_goals exact absurd plain (by decide)

theorem meta_unworded (c : Char) (special : isMeta c = true) : c.isAlphanum = false ∧ c ≠ '_' := by
  simp only [isMeta, Bool.or_eq_true, beq_iff_eq, or_assoc] at special
  rcases special with rfl | rfl | rfl | rfl | rfl | rfl | rfl | rfl | rfl | rfl | rfl | rfl |
    rfl | rfl | rfl | rfl | rfl | rfl <;> decide

theorem meta_not_digit (c : Char) (special : isMeta c = true) : c.isDigit = false := by
  have other := (meta_unworded c special).1
  rw [Char.isAlphanum, Bool.or_eq_false_iff] at other
  exact other.2

-- The many escapes that are none of these cases stay folded.
theorem read_escape_cons (verbose : Bool) (c : Char) (rest : Text) :
    ∃ unspecial, readEscape verbose (c :: rest) =
      if c.isDigit then .error .backreference
      else if isMeta c then .ok (.literal ⟨c, false⟩, rest)
      else unspecial :=
  ⟨_, rfl⟩

theorem step_escaped (r : Reading) (c : Char) (rest : Text) (special : isMeta c = true) :
    r.step '\\' (c :: rest) = .ok (r.push (.literal ⟨c, false⟩), rest) := by
  obtain ⟨unspecial, read⟩ := read_escape_cons r.verbose c rest
  rw [if_neg (by simp [meta_not_digit c special]), if_pos special] at read
  change (readEscape r.verbose (c :: rest)).map _ = _
  rw [read]
  rfl

theorem run_plain (n : Nat) (r : Reading) (c : Char) (rest : Text) (terse : r.verbose = false)
    (plain : isMeta c = false) :
    run (n + 1) r (c :: rest) = run n (r.push (.literal ⟨c, false⟩)) rest := by
  simp only [run, skip, terse, Bool.false_eq_true, if_false, step_plain r c rest plain]
  rfl

theorem run_escaped (n : Nat) (r : Reading) (c : Char) (rest : Text) (terse : r.verbose = false)
    (special : isMeta c = true) :
    run (n + 1) r ('\\' :: c :: rest) = run n (r.push (.literal ⟨c, false⟩)) rest := by
  simp only [run, skip, terse, Bool.false_eq_true, if_false, step_escaped r c rest special]
  rfl

theorem run_escape (w : Text) (n : Nat) (r : Reading) (rest : Text) (terse : r.verbose = false) :
    run (w.length + n) r (escape w ++ rest) = run n (r.pushWord w) rest := by
  induction w generalizing r with
  | nil => simp [escape, pushWord]
  | cons c w ih =>
      have enough : (c :: w).length + n = (w.length + n) + 1 := by simp; omega
      have later := ih (r.push (.literal ⟨c, false⟩)) terse
      rw [enough, push_word_cons]
      by_cases special : isMeta c = true
      · have split : escape (c :: w) ++ rest = '\\' :: c :: (escape w ++ rest) := by
          simp [escape, special]
        rw [split, run_escaped _ r c _ terse special, later]
      · have plain : isMeta c = false := by simpa using special
        have split : escape (c :: w) ++ rest = c :: (escape w ++ rest) := by
          simp [escape, plain]
        rw [split, run_plain _ r c _ terse plain, later]

theorem run_nil (n : Nat) (r : Reading) : run n r [] = r.finish := by
  cases n with
  | zero => rfl
  | succ n => cases verbose : r.verbose <;> simp [run, skip, verbose, dropSpace]

end Reading

theorem length_escape (w : Text) : w.length ≤ (escape w).length := by
  induction w with
  | nil => simp
  | cons c w ih =>
      have one : escape (c :: w) = (if isMeta c then ['\\', c] else [c]) ++ escape w := by
        simp [escape]
      rw [one, List.length_append, List.length_cons]
      split <;> simp <;> omega

theorem escape_word {w : Text} (word : w.IsWord) : escape w = w := by
  induction w with
  | nil => rfl
  | cons c w ih =>
      have plain : isMeta c = false := by
        rw [← Bool.not_eq_true]
        intro special
        obtain ⟨notAlphanumeric, notLine⟩ := Reading.meta_unworded c special
        exact Text.word_free word notAlphanumeric notLine List.mem_cons_self
      have rest := ih fun d member => word d (List.mem_cons_of_mem c member)
      rw [escape, List.flatMap_cons, plain]
      exact congrArg (c :: ·) rest

theorem escape_append (v w : Text) : escape (v ++ w) = escape v ++ escape w := by
  simp [escape]

theorem word_depth (w : Text) : (Expr.word w).depth .seq = 0 ∧ (Expr.word w).depth .alt ≤ 1 := by
  induction w with
  | nil => exact ⟨rfl, Nat.zero_le _⟩
  | cons c w ih =>
      cases w with
      | nil => exact ⟨rfl, Nat.zero_le _⟩
      | cons d w =>
          have firstApart : Expr.word (c :: d :: w) = .seq (.literal ⟨c, false⟩) (Expr.word (d :: w)) := rfl
          rw [firstApart]
          simp [Expr.depth, ih.1]

theorem word_meaning (w : Text) : (Expr.word w).meaning Flags.start = .ok (word w, Flags.start) := by
  induction w with
  | nil => rfl
  | cons c w ih =>
      cases w with
      | nil => rfl
      | cons d w =>
          have firstApart : Expr.word (c :: d :: w) = .seq (.literal ⟨c, false⟩) (Expr.word (d :: w)) := rfl
          rw [firstApart, Expr.meaning]
          simp only [Expr.meaning, Flags.literal, Flags.start, Flags.fold, Except.map] at ih ⊢
          simp [ih, word]

theorem contains_singleton (c d : Char) : (CharSet.singleton c).contains d = true ↔ d = c := by
  simp only [CharSet.contains, CharSet.containsNat, CharSet.singleton, List.any_cons, List.any_nil,
    Bool.or_false, Bool.and_eq_true, decide_eq_true_eq]
  constructor
  · rintro ⟨low, high⟩
    exact Char.toNat_inj.mp (Nat.le_antisymm high low)
  · rintro rfl
    exact ⟨Nat.le_refl _, Nat.le_refl _⟩

theorem prefix_drop_cons (c : Char) (w text : Text) (p : Nat) :
    c :: w <+: text.drop p ↔ text[p]? = some c ∧ w <+: text.drop (p + 1) := by
  by_cases within : p < text.length
  · rw [List.drop_eq_getElem_cons within, List.cons_prefix_cons, List.getElem?_eq_getElem within]
    constructor
    · rintro ⟨same, rest⟩
      exact ⟨congrArg some same.symm, rest⟩
    · rintro ⟨same, rest⟩
      exact ⟨(Option.some.inj same).symm, rest⟩
  · have past : text.length ≤ p := by omega
    simp [List.drop_of_length_le past, List.getElem?_eq_none past]

theorem prefix_drop_append (start rest text : Text) (p : Nat) :
    start ++ rest <+: text.drop p ↔ start <+: text.drop p ∧ rest <+: text.drop (p + start.length) := by
  constructor
  · rintro ⟨after, whole⟩
    refine ⟨⟨rest ++ after, by rw [← whole, List.append_assoc]⟩, after, ?_⟩
    rw [← List.drop_drop, ← whole, List.append_assoc, List.drop_left]
  · rintro ⟨⟨after, there⟩, later⟩
    rw [← List.drop_drop, ← there, List.drop_left] at later
    rw [← there]
    exact (List.prefix_append_right_inj _).mpr later

theorem spans_set (s : CharSet) (text : Text) (p q : Nat) :
    Spans text.toArray (.set s) p q ↔ q = p + 1 ∧ ∃ c, text[p]? = some c ∧ s.contains c = true := by
  rw [Spans, List.getElem?_toArray, Option.any_eq_true, eq_comm]

theorem spans_singleton (text : Text) (c : Char) (p q : Nat) :
    Spans text.toArray (.set (.singleton c)) p q ↔ q = p + 1 ∧ text[p]? = some c := by
  simp only [spans_set, contains_singleton, exists_eq_right]

theorem spans_word (text w : Text) (p q : Nat) :
    Spans text.toArray (word w) p q ↔ q = p + w.length ∧ w <+: text.drop p := by
  induction w generalizing p with
  | nil => simp [word, Spans, eq_comm]
  | cons c w ih =>
      cases w with
      | nil =>
          rw [word, spans_singleton]
          simp [prefix_drop_cons]
      | cons d w =>
          have firstApart : word (c :: d :: w) = .seq (.set (.singleton c)) (word (d :: w)) := rfl
          rw [firstApart, Spans, prefix_drop_cons]
          constructor
          · rintro ⟨middle, one, rest⟩
            obtain ⟨rfl, there⟩ := (spans_singleton text c p middle).mp one
            obtain ⟨rfl, later⟩ := (ih (p + 1)).mp rest
            refine ⟨?_, there, later⟩
            simp only [List.length_cons]
            omega
          · rintro ⟨rfl, there, later⟩
            refine ⟨p + 1, (spans_singleton text c p _).mpr ⟨rfl, there⟩, (ih (p + 1)).mpr ⟨?_, later⟩⟩
            simp only [List.length_cons]
            omega

end Regex

end PolicyLookup
