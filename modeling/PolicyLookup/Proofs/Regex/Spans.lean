import Mathlib.Data.Nat.Init
import PolicyLookup.Regex.Match

set_option autoImplicit false

namespace PolicyLookup.Regex

def Times (step : Nat → Nat → Prop) : Nat → Nat → Nat → Prop
  | 0, p, q => p = q
  | n + 1, p, q => ∃ m, step p m ∧ Times step n m q

-- A match from the first place ends at the second. A repetition takes any number of times that
-- its bounds allow, however long the text is.
def Spans (text : Array Char) : Regex → Nat → Nat → Prop
  | .empty, p, q => p = q
  | .set chars, p, q => p + 1 = q ∧ text[p]?.any chars.contains = true
  | .look l, p, q => p = q ∧ l.holds (before? text p) text[p]? = true
  | .seq left right, p, q => ∃ m, Spans text left p m ∧ Spans text right m q
  | .alt left right, p, q => Spans text left p q ∨ Spans text right p q
  | .rep _ r lo hi, p, q => ∃ n, lo ≤ n ∧ (∀ most ∈ hi, n ≤ max lo most) ∧ Times (Spans text r) n p q
  | .group _ r, p, q => Spans text r p q

section

variable {step : Nat → Nat → Prop} {size : Nat}

theorem times_append {i j p m q : Nat} (first : Times step i p m) (second : Times step j m q) :
    Times step (i + j) p q := by
  induction i generalizing p with
  | zero =>
      obtain rfl := first
      rwa [Nat.zero_add]
  | succ i ih =>
      obtain ⟨next, one, rest⟩ := first
      rw [Nat.succ_add]
      exact ⟨next, one, ih rest⟩

theorem times_split {i j p q : Nat} (run : Times step (i + j) p q) : ∃ m, Times step i p m ∧ Times step j m q := by
  induction i generalizing p with
  | zero =>
      rw [Nat.zero_add] at run
      exact ⟨p, rfl, run⟩
  | succ i ih =>
      rw [Nat.succ_add] at run
      obtain ⟨next, one, rest⟩ := run
      obtain ⟨m, first, last⟩ := ih rest
      exact ⟨m, ⟨next, one, first⟩, last⟩

def Advances (size : Nat) (step : Nat → Nat → Prop) : Prop := ∀ p q, step p q → p ≤ q ∧ q ≤ max p size

theorem times_advance (advances : Advances size step) (n : Nat) : Advances size (Times step n) := by
  induction n with
  | zero =>
      rintro p q rfl
      omega
  | succ n ih =>
      rintro p q ⟨m, one, rest⟩
      have first := advances p m one
      have later := ih m q rest
      omega

-- More steps than there are places left cannot all go on: one of them stays where it is.
theorem times_idle (advances : Advances size step) {n p q : Nat} (run : Times step n p q) (long : size - p < n) :
    ∃ i j m, n = i + 1 + j ∧ Times step i p m ∧ step m m ∧ Times step j m q := by
  induction n generalizing p with
  | zero => contradiction
  | succ n ih =>
      obtain ⟨next, one, rest⟩ := run
      have bound := advances p next one
      by_cases stays : next = p
      · subst stays
        exact ⟨0, n, next, by omega, rfl, one, rest⟩
      · obtain ⟨i, j, m, count, first, idle, last⟩ := ih rest (by omega)
        exact ⟨i + 1, j, m, by omega, ⟨next, one, first⟩, idle, last⟩

theorem times_more (advances : Advances size step) {n p q : Nat} (run : Times step n p q) (long : size - p < n) :
    Times step (n + 1) p q := by
  obtain ⟨i, j, m, rfl, first, idle, last⟩ := times_idle advances run long
  have twice : Times step (1 + (1 + j)) m q := times_append ⟨m, idle, rfl⟩ (times_append ⟨m, idle, rfl⟩ last)
  have whole := times_append first twice
  rwa [← Nat.add_assoc, ← Nat.add_assoc, Nat.add_right_comm] at whole

theorem times_less (advances : Advances size step) {n p q : Nat} (run : Times step (n + 1) p q)
    (long : size - p < n + 1) : Times step n p q := by
  obtain ⟨i, j, m, count, first, _, last⟩ := times_idle advances run long
  obtain rfl : n = i + j := by omega
  exact times_append first last

theorem times_any (advances : Advances size step) {n k p q : Nat} (run : Times step n p q) (long : size - p < n)
    (longToo : size - p < k) : Times step k p q := by
  rcases Nat.le_total n k with more | less
  · induction k, more using Nat.le_induction with
    | base => exact run
    | succ k more ih => exact times_more advances (ih (by omega)) (by omega)
  · induction n, less using Nat.le_induction with
    | base => exact run
    | succ n less ih => exact ih (times_less advances run long) (by omega)

-- A count of times cut off above the length of the text leads to the same places as the whole count.
theorem times_bounded (advances : Advances size step) (lo : Nat) (hi : Option Nat) (p q : Nat) :
    (∃ n, min lo (size + 1) ≤ n ∧
      n ≤ min lo (size + 1) + (match hi with
        | none => size + 1
        | some hi => min (hi - lo) (size + 1)) ∧
      Times step n p q) ↔ ∃ n, lo ≤ n ∧ (∀ most ∈ hi, n ≤ max lo most) ∧ Times step n p q := by
  constructor
  · rintro ⟨n, many, few, run⟩
    by_cases long : lo ≤ size + 1
    · refine ⟨n, by omega, ?_, run⟩
      rintro most rfl
      dsimp only at few
      omega
    · exact ⟨lo, Nat.le_refl lo, fun most _ => Nat.le_max_left lo most, times_any advances run (by omega) (by omega)⟩
  · rintro ⟨n, many, few, run⟩
    generalize cut : min lo (size + 1) + _ = bound
    by_cases within : n ≤ bound
    · exact ⟨n, by omega, within, run⟩
    · have enough : size < bound := by
        cases hi with
        | none =>
            dsimp only at cut
            omega
        | some hi =>
            have most := few hi rfl
            dsimp only at cut
            omega
      exact ⟨bound, by omega, Nat.le_refl bound, times_any advances run (by omega) (by omega)⟩

end

theorem spans_advance (text : Array Char) (r : Regex) : Advances text.size (Spans text r) := by
  induction r with
  | empty =>
      rintro p q rfl
      omega
  | set chars =>
      rintro p q ⟨rfl, there⟩
      obtain ⟨c, here, _⟩ := (Option.any_eq_true _ _).mp there
      obtain ⟨within, _⟩ := Array.getElem?_eq_some_iff.mp here
      omega
  | look l =>
      rintro p q ⟨rfl, _⟩
      omega
  | seq left right first second =>
      rintro p q ⟨m, one, rest⟩
      have start := first p m one
      have later := second m q rest
      omega
  | alt left right first second =>
      intro p q either
      rcases either with one | other
      · exact first p q one
      · exact second p q other
  | rep greedy r lo hi ih =>
      rintro p q ⟨n, _, _, run⟩
      exact times_advance ih n p q run
  | group captures r ih => exact ih

section

variable {f : Places → Places} {step : Nat → Nat → Prop}

def Linear (f : Places → Places) (step : Nat → Nat → Prop) : Prop := ∀ s q, q ∈ f s ↔ ∃ p ∈ s, step p q

theorem exists_times_succ (linear : Linear f step) (n : Nat) (s : Places) (q : Nat) :
    (∃ p ∈ s, Times step (n + 1) p q) ↔ ∃ m ∈ f s, Times step n m q := by
  constructor
  · rintro ⟨p, start, m, one, rest⟩
    exact ⟨m, (linear s m).mpr ⟨p, start, one⟩, rest⟩
  · rintro ⟨m, middle, rest⟩
    obtain ⟨p, start, one⟩ := (linear s m).mp middle
    exact ⟨p, start, m, one, rest⟩

theorem mem_iterate (linear : Linear f step) (n : Nat) (s : Places) (q : Nat) :
    q ∈ iterate f n s ↔ ∃ p ∈ s, Times step n p q := by
  induction n generalizing s with
  | zero => simp [iterate, Times]
  | succ n ih =>
      rw [iterate, exists_times_succ linear]
      by_cases settled : f s = s
      · rw [if_pos settled, settled, ← ih]
        -- Once nothing changes, no further step is taken.
        cases n with
        | zero => rfl
        | succ n => rw [iterate, if_pos settled]
      · rw [if_neg settled, ih]

theorem stays_closed {reached : Places} (closed : ∀ p ∈ reached, ∀ q, step p q → q ∈ reached) {n p q : Nat}
    (start : p ∈ reached) (run : Times step n p q) : q ∈ reached := by
  induction n generalizing p with
  | zero => exact run ▸ start
  | succ n ih =>
      obtain ⟨m, one, rest⟩ := run
      exact ih (closed p start m one) rest

theorem grow_succ (f : Places → Places) (n : Nat) (reached fresh : Places) (something : fresh ≠ []) :
    grow f (n + 1) reached fresh =
      grow f n (((f fresh).diff reached).union reached) ((f fresh).diff reached) := by
  cases fresh with
  | nil => contradiction
  | cons a rest => rfl

-- All that is reached has been gone on from, but for what is fresh.
theorem mem_grow (linear : Linear f step) {n : Nat} {reached fresh : Places} (known : ∀ p ∈ fresh, p ∈ reached)
    (done : ∀ p ∈ reached, p ∈ fresh ∨ ∀ q, step p q → q ∈ reached) (q : Nat) :
    q ∈ grow f n reached fresh ↔ ∃ p ∈ reached, ∃ k, k ≤ n ∧ Times step k p q := by
  induction n generalizing reached fresh with
  | zero =>
      rw [grow]
      constructor
      · intro member
        exact ⟨q, member, 0, Nat.le_refl 0, rfl⟩
      · rintro ⟨p, start, k, none, run⟩
        obtain rfl := Nat.le_zero.mp none
        exact run ▸ start
  | succ n ih =>
      cases fresh with
      | nil =>
          rw [grow]
          constructor
          · intro member
            exact ⟨q, member, 0, Nat.zero_le _, rfl⟩
          · rintro ⟨p, start, k, _, run⟩
            have closed : ∀ p ∈ reached, ∀ q, step p q → q ∈ reached := by
              intro p member
              exact (done p member).resolve_left List.not_mem_nil
            exact stays_closed closed start run
      | cons a rest =>
          have something : a :: rest ≠ [] := List.cons_ne_nil a rest
          generalize a :: rest = fresh at known done something
          have next : ∀ p ∈ reached, ∀ m, step p m → m ∈ ((f fresh).diff reached).union reached := by
            intro p start m one
            rw [Places.mem_union]
            rcases done p start with isFresh | settled
            · exact Places.mem_diff_or_mem ((linear fresh m).mpr ⟨p, isFresh, one⟩)
            · exact Or.inr (settled m one)
          have goesOn : ∀ p ∈ ((f fresh).diff reached).union reached,
              p ∈ (f fresh).diff reached ∨ ∀ q, step p q → q ∈ ((f fresh).diff reached).union reached :=
            fun p member => (Places.mem_union.mp member).imp_right (next p)
          rw [grow_succ f n reached fresh something, ih (fun p new => Places.mem_union.mpr (Or.inl new)) goesOn]
          constructor
          · rintro ⟨p, member, k, few, run⟩
            rcases Places.mem_union.mp member with new | old
            · obtain ⟨start, isFresh, one⟩ := (linear fresh p).mp (Places.mem_of_mem_diff new)
              exact ⟨start, known start isFresh, k + 1, Nat.succ_le_succ few, p, one, run⟩
            · exact ⟨p, old, k, Nat.le_succ_of_le few, run⟩
          · rintro ⟨p, start, k, few, run⟩
            cases k with
            | zero => exact ⟨p, Places.mem_union.mpr (Or.inr start), 0, Nat.zero_le _, run⟩
            | succ k =>
                obtain ⟨m, one, rest⟩ := run
                exact ⟨m, next p start m one, k, Nat.le_of_succ_le_succ few, rest⟩

end

theorem ends_nil (text : Array Char) (r : Regex) : ends text r [] = [] := by
  induction r with
  | empty => rfl
  | set s => rfl
  | look l => rfl
  | seq left right leftNil rightNil => simp [ends, leftNil]
  | alt left right leftNil rightNil => simp [ends, leftNil, rightNil, Places.union]
  | group captures r rNil => simpa [ends] using rNil
  | rep greedy r lo hi rNil =>
      have stays (n : Nat) : iterate (ends text r) n [] = [] := by
        cases n <;> simp [iterate, rNil]
      have grows (n : Nat) : grow (ends text r) n [] [] = [] := by
        cases n <;> rfl
      simp only [ends, stays, grows]

theorem ends_seq (text : Array Char) (left right : Regex) (s : Places) :
    ends text (.seq left right) s = ends text right (ends text left s) := by
  rw [ends]
  cases middle : ends text left s with
  | nil => rw [ends_nil]
  | cons p rest => rfl

theorem mem_ends (text : Array Char) (r : Regex) (s : Places) (q : Nat) :
    q ∈ ends text r s ↔ ∃ p ∈ s, Spans text r p q := by
  induction r generalizing s q with
  | empty => simp [ends, Spans]
  | set chars =>
      rw [ends, List.mem_map]
      constructor
      · rintro ⟨p, member, rfl⟩
        obtain ⟨start, there⟩ := List.mem_filter.mp member
        exact ⟨p, start, rfl, there⟩
      · rintro ⟨p, start, rfl, there⟩
        exact ⟨p, List.mem_filter.mpr ⟨start, there⟩, rfl⟩
  | look l =>
      rw [ends, List.mem_filter]
      constructor
      · rintro ⟨start, there⟩
        exact ⟨q, start, rfl, there⟩
      · rintro ⟨p, start, rfl, there⟩
        exact ⟨start, there⟩
  | seq left right first second =>
      rw [ends_seq, second]
      constructor
      · rintro ⟨m, middle, rest⟩
        obtain ⟨p, start, one⟩ := (first s m).mp middle
        exact ⟨p, start, m, one, rest⟩
      · rintro ⟨p, start, m, one, rest⟩
        exact ⟨m, (first s m).mpr ⟨p, start, one⟩, rest⟩
  | alt left right first second =>
      rw [ends, Places.mem_union, first, second]
      constructor
      · rintro (⟨p, start, one⟩ | ⟨p, start, other⟩)
        · exact ⟨p, start, Or.inl one⟩
        · exact ⟨p, start, Or.inr other⟩
      · rintro ⟨p, start, one | other⟩
        · exact Or.inl ⟨p, start, one⟩
        · exact Or.inr ⟨p, start, other⟩
  | rep greedy r lo hi ih =>
      have advances := spans_advance text r
      rw [ends.eq_def]
      dsimp only
      rw [mem_grow ih (fun _ start => start) (fun _ start => Or.inl start)]
      generalize few : min lo (text.size + 1) = least
      constructor
      · rintro ⟨m, first, k, more, rest⟩
        obtain ⟨p, start, run⟩ := (mem_iterate ih least s m).mp first
        refine ⟨p, start, (times_bounded advances lo hi p q).mp ⟨least + k, ?_, ?_, times_append run rest⟩⟩
        · omega
        · rw [few]
          exact Nat.add_le_add_left more least
      · rintro ⟨p, start, spans⟩
        obtain ⟨n, many, bound, run⟩ := (times_bounded advances lo hi p q).mpr spans
        obtain ⟨k, rfl⟩ := Nat.exists_eq_add_of_le (few ▸ many)
        obtain ⟨m, run, rest⟩ := times_split run
        refine ⟨m, (mem_iterate ih least s m).mpr ⟨p, start, run⟩, k, ?_, rest⟩
        rw [few] at bound
        exact Nat.le_of_add_le_add_left bound
  | group captures r ih => exact ih s q

section

variable {choices : List Regex} {text : Array Char}

theorem leads_on_iff {r : Regex} {s : Places} :
    (!(ends text r s).isEmpty) = true ↔ ∃ p ∈ s, ∃ q, Spans text r p q := by
  rw [Bool.not_eq_true', List.isEmpty_eq_false_iff_exists_mem]
  constructor
  · rintro ⟨q, member⟩
    obtain ⟨p, start, spans⟩ := (mem_ends text r s q).mp member
    exact ⟨p, start, q, spans⟩
  · rintro ⟨p, start, q, spans⟩
    exact ⟨q, (mem_ends text r s q).mpr ⟨p, start, spans⟩⟩

theorem mem_up_to (p n : Nat) : p ∈ Places.upTo n ↔ p ≤ n := by
  induction n with
  | zero => simp [Places.upTo]
  | succ n ih =>
      rw [Places.upTo, List.mem_cons, ih]
      omega

theorem is_match_any_iff :
    isMatchAny choices text = true ↔ ∃ p, p ≤ text.size ∧ ∃ r ∈ choices, ∃ q, Spans text r p q := by
  rw [isMatchAny, List.any_eq_true]
  constructor
  · rintro ⟨r, member, leads⟩
    obtain ⟨p, start, q, spans⟩ := leads_on_iff.mp leads
    exact ⟨p, (mem_up_to p text.size).mp start, r, member, q, spans⟩
  · rintro ⟨p, within, r, member, q, spans⟩
    exact ⟨r, member, leads_on_iff.mpr ⟨p, (mem_up_to p text.size).mpr within, q, spans⟩⟩

structure FirstFound (choices : List Regex) (text : Array Char) (start i : Nat) : Prop where
  within : start ≤ text.size
  spans : ∃ r stop, choices[i]? = some r ∧ Spans text r start stop
  least : ∀ p stop, p < start → ∀ r ∈ choices, ¬ Spans text r p stop
  first : ∀ j r stop, j < i → choices[j]? = some r → ¬ Spans text r start stop

theorem leads_from_iff {r : Regex} {p : Nat} : (!(ends text r [p]).isEmpty) = true ↔ ∃ q, Spans text r p q := by
  rw [leads_on_iff]
  simp

theorem no_choice_iff {p : Nat} :
    (choices.findIdx? fun r => !(ends text r [p]).isEmpty) = none ↔ ∀ r ∈ choices, ∀ q, ¬ Spans text r p q := by
  rw [List.findIdx?_eq_none_iff]
  constructor
  · intro none r member q spans
    have leads := leads_from_iff.mpr ⟨q, spans⟩
    rw [none r member] at leads
    contradiction
  · intro none r member
    rw [← Bool.not_eq_true, leads_from_iff]
    rintro ⟨q, spans⟩
    exact none r member q spans

theorem find_first_none_iff :
    findFirst? choices text = none ↔ ∀ p, p ≤ text.size → ∀ r ∈ choices, ∀ q, ¬ Spans text r p q := by
  simp only [findFirst?, List.findSome?_eq_none_iff, List.mem_range, Nat.lt_succ_iff, Option.map_eq_none_iff,
    no_choice_iff]

theorem find_first_some {start i : Nat} (found : findFirst? choices text = some (start, i)) :
    FirstFound choices text start i := by
  obtain ⟨before, place, after, split, here, missed⟩ := List.findSome?_eq_some_iff.mp found
  obtain ⟨j, index, same⟩ := Option.map_eq_some_iff.mp here
  obtain ⟨rfl, rfl⟩ := Prod.mk.inj same
  have mem : ∀ p, p ∈ before ++ place :: after ↔ p < text.size + 1 := by
    intro p
    rw [← split, List.mem_range]
  have within : place < text.size + 1 := (mem place).mp (List.mem_append_right _ List.mem_cons_self)
  have rising := split ▸ List.pairwise_lt_range
  obtain ⟨_, later, _⟩ := List.pairwise_append.mp rising
  obtain ⟨inside, leads, earlier⟩ := List.findIdx?_eq_some_iff_getElem.mp index
  refine ⟨Nat.le_of_lt_succ within, ?_, ?_, ?_⟩
  · obtain ⟨stop, spans⟩ := leads_from_iff.mp leads
    exact ⟨choices[j], stop, List.getElem?_eq_getElem inside, spans⟩
  · intro p stop sooner r member spans
    have isBefore : p ∈ before := by
      rcases List.mem_append.mp ((mem p).mpr (Nat.lt_trans sooner within)) with first | last
      · exact first
      · rcases List.mem_cons.mp last with rfl | last
        · exact absurd sooner (Nat.lt_irrefl p)
        · exact absurd ((List.pairwise_cons.mp later).1 p last) (Nat.lt_asymm sooner)
    have nothing := missed p isBefore
    rw [Option.map_eq_none_iff, no_choice_iff] at nothing
    exact nothing r member stop spans
  · intro k r stop sooner there spans
    obtain ⟨_, rfl⟩ := List.getElem?_eq_some_iff.mp there
    exact earlier k sooner (leads_from_iff.mpr ⟨stop, spans⟩)

theorem first_found_unique {start i place j : Nat} (first : FirstFound choices text start i)
    (other : FirstFound choices text place j) : start = place ∧ i = j := by
  obtain ⟨r, stop, there, spans⟩ := first.spans
  obtain ⟨r', stop', there', spans'⟩ := other.spans
  rcases Nat.lt_trichotomy start place with sooner | rfl | later
  · exact absurd spans (other.least start stop sooner r (List.mem_of_getElem? there))
  · rcases Nat.lt_trichotomy i j with less | rfl | more
    · exact absurd spans (other.first i r stop less there)
    · exact ⟨rfl, rfl⟩
    · exact absurd spans' (first.first j r' stop' more there')
  · exact absurd spans' (first.least place stop' later r' (List.mem_of_getElem? there'))

theorem find_first_iff {start i : Nat} :
    findFirst? choices text = some (start, i) ↔ FirstFound choices text start i := by
  constructor
  · exact find_first_some
  · intro first
    obtain ⟨r, stop, there, spans⟩ := first.spans
    cases found : findFirst? choices text with
    | none => exact absurd spans (find_first_none_iff.mp found start first.within r (List.mem_of_getElem? there) stop)
    | some pair =>
        obtain ⟨rfl, rfl⟩ := first_found_unique (find_first_some found) first
        rfl

theorem find_first_none_iff_no_match : findFirst? choices text = none ↔ isMatchAny choices text = false := by
  rw [find_first_none_iff, ← Bool.not_eq_true, is_match_any_iff]
  simp only [not_exists, not_and]

end

end PolicyLookup.Regex
