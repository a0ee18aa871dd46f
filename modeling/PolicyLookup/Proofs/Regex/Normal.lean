import Mathlib.Data.List.SplitBy
import PolicyLookup.Proofs.Regex.Classes
import PolicyLookup.Proofs.Regex.Row

set_option autoImplicit false

namespace PolicyLookup.Regex

-- Nothing of the expression is to be made flat with what stands around it.
def IsPart (r : Regex) : Prop := r.choices = [[r]]

theorem Choices.close_single (parts : Parts) : Choices.close [parts] = [parts] := by
  have collapsed : Choices.collapse [parts] = [parts] := if_pos Nat.one_lt_two
  have short : [parts].length < 2 := Nat.one_lt_two
  rw [Choices.close, collapsed, Choices.factor, if_pos (Or.inl short)]

theorem Choices.of_parts_cons (r s : Regex) (rest : Parts) : Choices.ofParts (r :: s :: rest) = [r :: s :: rest] := by
  unfold Choices.ofParts
  split
  · rename_i impossible
    exact absurd (List.cons.inj impossible).2 (List.cons_ne_nil s rest)
  · rfl

theorem row_choices {rs : List Regex} (parts : ∀ r ∈ rs, IsPart r) : (row rs).choices = [rs] := by
  induction rs with
  | nil => rfl
  | cons r rs ih =>
      rw [List.forall_mem_cons] at parts
      cases rs with
      | nil => exact parts.1
      | cons next rs =>
          rw [IsPart] at parts
          rw [row, choices, parts.1, ih parts.2, Choices.close_single, Choices.close_single]
          · exact Choices.of_parts_cons r next rs
          · exact List.cons_ne_nil next rs

theorem row_normal {rs : List Regex} (parts : ∀ r ∈ rs, IsPart r) : (row rs).normal = row rs := by
  rw [normal, row_choices parts, Choices.close_single]
  rfl

theorem set_is_part (s : CharSet) : IsPart (.set s) := rfl

theorem singles_are_parts (w : Text) : ∀ r ∈ singles w, IsPart r := by
  intro r member
  obtain ⟨c, _, rfl⟩ := List.mem_map.mp member
  exact set_is_part (.singleton c)

theorem pieces_singles {w : Text} (something : w ≠ []) : Choices.pieces (singles w) = [singles w] := by
  have chars : ∀ r ∈ singles w, r.charSet?.isSome = true := by
    intro r member
    obtain ⟨c, _, rfl⟩ := List.mem_map.mp member
    simp [charSet?, CharSet.only?, CharSet.singleton]
  apply List.splitBy_of_isChain
  · simpa [singles] using something
  · apply List.Pairwise.isChain
    refine List.Pairwise.imp_of_mem ?_ (List.pairwise_of_forall fun _ _ => trivial)
    intro r s inRow inRowToo _
    rw [chars r inRow, chars s inRowToo]
    rfl

-- A row that begins with something else than a set has nothing to share with a word.
theorem Choices.close_apart {r : Regex} {rest : Parts} (notSet : ∀ s, r ≠ .set s) {w : Text} (something : w ≠ []) :
    Choices.close [r :: rest, singles w] = [r :: rest, singles w] := by
  have unset : charSet? r = none ∧ classSet? r = none := by
    cases r <;> first | exact ⟨rfl, rfl⟩ | exact absurd rfl (notSet _)
  have collapsed : Choices.collapse [r :: rest, singles w] = [r :: rest, singles w] := by
    cases rest <;> simp [collapse, asSet?, unset]
  have short : ([r :: rest, singles w].map pieces).any (·.length < 2) = true := by
    simp [pieces_singles something]
  rw [close, collapsed, factor, if_pos (Or.inr (Or.inr short))]

theorem times_idle_iff {step : Nat → Nat → Prop} (idle : ∀ p q, step p q → p = q) (n p q : Nat) :
    Times step n p q ↔ p = q ∧ (n = 0 ∨ step p p) := by
  induction n generalizing p with
  | zero => simp [Times]
  | succ n ih =>
      constructor
      · rintro ⟨m, one, rest⟩
        obtain rfl := idle p m one
        exact ⟨((ih p).mp rest).1, Or.inr one⟩
      · rintro ⟨rfl, none | one⟩
        · contradiction
        · exact ⟨p, one, (ih p).mpr ⟨rfl, Or.inr one⟩⟩

theorem spans_idle {text : Array Char} {r : Regex} (idle : r.isEmptyOnly = true) {p q : Nat}
    (span : Spans text r p q) : p = q := by
  induction r generalizing p q with
  | empty => exact span
  | set s => contradiction
  | look l => exact span.1
  | seq left right first second =>
      obtain ⟨leftIdle, rightIdle⟩ := Bool.and_eq_true_iff.mp idle
      obtain ⟨m, one, rest⟩ := span
      exact (first leftIdle one).trans (second rightIdle rest)
  | alt left right first second =>
      obtain ⟨leftIdle, rightIdle⟩ := Bool.and_eq_true_iff.mp idle
      exact span.elim (first leftIdle) (second rightIdle)
  | rep greedy r lo hi ih =>
      obtain ⟨n, _, few, run⟩ := span
      rw [isEmptyOnly, Bool.or_eq_true] at idle
      rcases idle with within | never
      · exact (times_idle_iff (fun p q => ih within) n p q).mp run |>.1
      · simp only [Bool.and_eq_true, beq_iff_eq] at never
        obtain ⟨rfl, rfl⟩ := never
        obtain rfl : n = 0 := by
          have bound := few 0 rfl
          omega
        exact run
  | group captures r ih => exact ih idle span

theorem spans_rep_idle {text : Array Char} {r : Regex} (idle : r.isEmptyOnly = true) (greedy : Bool) (lo : Nat)
    (hi : Option Nat) (p q : Nat) :
    Spans text (.rep greedy r lo hi) p q ↔ p = q ∧ (lo = 0 ∨ Spans text r p p) := by
  simp only [Spans, times_idle_iff fun p q => spans_idle idle]
  constructor
  · rintro ⟨n, many, _, rfl, none | one⟩
    · exact ⟨rfl, Or.inl (by omega)⟩
    · exact ⟨rfl, Or.inr one⟩
  · rintro ⟨rfl, rfl | one⟩
    · exact ⟨0, Nat.le_refl 0, fun most _ => Nat.zero_le _, rfl, Or.inl rfl⟩
    · exact ⟨lo, Nat.le_refl lo, fun most _ => Nat.le_max_left lo most, rfl, Or.inr one⟩

theorem times_congr {step other : Nat → Nat → Prop} (same : ∀ p q, step p q ↔ other p q) (n p q : Nat) :
    Times step n p q ↔ Times other n p q := by
  obtain rfl : step = other := funext fun p => funext fun q => propext (same p q)
  rfl

theorem spans_rep_congr {text : Array Char} {r s : Regex} (same : ∀ p q, Spans text r p q ↔ Spans text s p q)
    (greedy : Bool) (lo : Nat) (hi : Option Nat) (p q : Nat) :
    Spans text (.rep greedy r lo hi) p q ↔ Spans text (.rep greedy s lo hi) p q := by
  simp only [Spans, times_congr same]

def SpansAny (text : Array Char) (choices : Choices) (p q : Nat) : Prop :=
  ∃ parts ∈ choices, Spans text (row parts) p q

namespace Choices

variable {text : Array Char}

theorem spans_any_of (rs : List Regex) (p q : Nat) :
    Spans text (anyOf rs) p q ↔ ∃ r ∈ rs, Spans text r p q := by
  have never : CharSet.empty.contains = fun _ => false := rfl
  induction rs with
  | nil => simp [anyOf, Spans, never]
  | cons r rs ih =>
      simp only [List.exists_mem_cons_iff, ← ih]
      cases rs with
      | nil => simp [anyOf, Spans, never]
      | cons next rs => rfl

theorem spans_to_regex (choices : Choices) (p q : Nat) :
    Spans text choices.toRegex p q ↔ SpansAny text choices p q := by
  simp only [toRegex, spans_any_of, List.mem_map, exists_exists_and_eq_and, SpansAny]

theorem spans_single (parts : Parts) (p q : Nat) : SpansAny text [parts] p q ↔ Spans text (row parts) p q := by
  simp [SpansAny]

theorem spans_append (left right : Choices) (p q : Nat) :
    SpansAny text (left ++ right) p q ↔ SpansAny text left p q ∨ SpansAny text right p q := by
  simp only [SpansAny, List.mem_append, or_and_right, exists_or]

theorem spans_items (r : Regex) (p q : Nat) : Spans text (row r.items) p q ↔ Spans text r p q := by
  induction r generalizing p with
  | seq left right _ ih => simp only [items, spans_row_cons, ih, Spans]
  | _ => rfl

theorem spans_alternatives (r : Regex) (p q : Nat) :
    (∃ s ∈ r.alternatives, Spans text s p q) ↔ Spans text r p q := by
  induction r with
  | alt left right _ ih => simp only [alternatives, List.exists_mem_cons_iff, ih, Spans]
  | _ => simp [alternatives]

theorem spans_of_parts (parts : Parts) (p q : Nat) :
    SpansAny text (ofParts parts) p q ↔ Spans text (row parts) p q := by
  unfold ofParts
  split
  · next r =>
      have inner : SpansAny text (r.alternatives.map items) p q ↔ Spans text r p q := by
        simp only [SpansAny, List.mem_map, exists_exists_and_eq_and, spans_items, spans_alternatives]
      exact inner
  · exact spans_single parts p q

theorem spans_to_parts (choices : Choices) (p q : Nat) :
    Spans text (row choices.toParts) p q ↔ SpansAny text choices p q := by
  unfold toParts
  split
  · next parts => exact (spans_single parts p q).symm
  · exact spans_to_regex choices p q

theorem contains_foldl (sets : List CharSet) (s : CharSet) (c : Char) :
    (sets.foldl CharSet.union s).contains c = true ↔ s.contains c = true ∨ ∃ t ∈ sets, t.contains c = true := by
  induction sets generalizing s with
  | nil => simp
  | cons t sets ih => rw [List.foldl_cons, ih, CharSet.contains_union, List.exists_mem_cons_iff, or_assoc]

theorem char_set_eq {r : Regex} {s : CharSet} (isSet : r.charSet? = some s) : r = .set s := by
  cases r <;> simp_all [charSet?]

theorem class_set_eq {r : Regex} {s : CharSet} (isSet : r.classSet? = some s) : r = .set s := by
  cases r <;> simp_all [classSet?]

theorem sets_of_map {set? : Regex → Option CharSet} (isSet : ∀ r s, set? r = some s → r = .set s) {choices : Choices}
    {sets : List CharSet} (read : choices.mapM (fun | [r] => set? r | _ => none) = some sets) :
    choices = sets.map fun s => [.set s] := by
  induction choices generalizing sets with
  | nil =>
      obtain rfl : [] = sets := Option.some.inj read
      rfl
  | cons parts choices ih =>
      rw [List.mapM_cons] at read
      obtain ⟨s, first, later⟩ := Option.bind_eq_some_iff.mp read
      obtain ⟨rest, others, last⟩ := Option.bind_eq_some_iff.mp later
      obtain rfl : s :: rest = sets := Option.some.inj last
      rw [List.map_cons, ← ih others]
      split at first
      · next r => rw [isSet r s first]
      · contradiction

theorem sets_of_as_set {choices : Choices} {s : CharSet} (asSet : choices.asSet? = some s) :
    ∃ sets : List CharSet, choices = sets.map (fun t => [.set t]) ∧ sets.foldl CharSet.union .empty = s := by
  obtain ⟨sets, read, whole⟩ := Option.map_eq_some_iff.mp asSet
  refine ⟨sets, ?_, whole⟩
  rcases Option.or_eq_some_iff.mp read with chars | ⟨_, classes⟩
  · exact sets_of_map (fun r s => char_set_eq) chars
  · exact sets_of_map (fun r s => class_set_eq) classes

theorem spans_as_set {choices : Choices} {s : CharSet} (asSet : choices.asSet? = some s) (p q : Nat) :
    Spans text (.set s) p q ↔ SpansAny text choices p q := by
  obtain ⟨sets, rfl, rfl⟩ := sets_of_as_set asSet
  have never : CharSet.empty.contains = fun _ => false := rfl
  simp only [SpansAny, List.mem_map, exists_exists_and_eq_and, row, Spans, Option.any_eq_true, contains_foldl,
    never, Bool.false_eq_true, false_or]
  constructor
  · rintro ⟨next, c, here, t, member, inSet⟩
    exact ⟨t, member, next, c, here, inSet⟩
  · rintro ⟨t, member, next, c, here, inSet⟩
    exact ⟨next, c, here, t, member, inSet⟩

theorem spans_collapse (choices : Choices) (p q : Nat) :
    SpansAny text choices.collapse p q ↔ SpansAny text choices p q := by
  unfold collapse
  split
  · rfl
  · split
    · next s asSet => rw [spans_single, row, spans_as_set asSet]
    · rfl

theorem common_start (left right : List Parts) : common left right <+: left ∧ common left right <+: right := by
  fun_induction common left right with
  | case1 p ps q qs shared ih =>
      obtain ⟨rfl, _⟩ := shared
      exact ⟨(List.prefix_cons_inj p).mpr ih.1, (List.prefix_cons_inj p).mpr ih.2⟩
  | case2 => exact ⟨List.nil_prefix, List.nil_prefix⟩
  | case3 => exact ⟨List.nil_prefix, List.nil_prefix⟩

theorem common_start_prefix {rows : List (List Parts)} {parts : List Parts} (member : parts ∈ rows) :
    commonStart rows <+: parts := by
  cases rows with
  | nil => contradiction
  | cons first rest =>
      have shared : rest.foldl common first <+: first ∧ ∀ other ∈ rest, rest.foldl common first <+: other := by
        clear member
        induction rest generalizing first with
        | nil => simp
        | cons next rest ih =>
            obtain ⟨inCommon, inRest⟩ := ih (common first next)
            obtain ⟨inFirst, inNext⟩ := common_start first next
            exact ⟨inCommon.trans inFirst, List.forall_mem_cons.mpr ⟨inCommon.trans inNext, inRest⟩⟩
      rcases List.mem_cons.mp member with rfl | later
      · exact shared.1
      · exact shared.2 parts later

theorem spans_factor (choices : Choices) (p q : Nat) :
    SpansAny text choices.factor p q ↔ SpansAny text choices p q := by
  unfold factor
  extract_lets rows start ends
  split
  · rfl
  have cut : ∀ parts ∈ choices, start.flatten ++ ((pieces parts).drop start.length).flatten = parts := by
    intro parts member
    obtain ⟨rest, whole⟩ : start <+: pieces parts := common_start_prefix (List.mem_map_of_mem member)
    rw [← whole, List.drop_left, ← List.flatten_append, whole]
    exact List.flatten_splitBy _ parts
  have after (m : Nat) : SpansAny text ends m q ↔
      ∃ parts ∈ choices, Spans text (row ((pieces parts).drop start.length).flatten) m q := by
    simp only [SpansAny, ends, rows, List.mem_flatMap, List.mem_map, exists_exists_and_eq_and]
    constructor
    · rintro ⟨last, ⟨parts, member, inEnd⟩, span⟩
      exact ⟨parts, member, (spans_of_parts _ m q).mp ⟨last, inEnd, span⟩⟩
    · rintro ⟨parts, member, span⟩
      obtain ⟨last, inEnd, span⟩ := (spans_of_parts _ m q).mpr span
      exact ⟨last, ⟨parts, member, inEnd⟩, span⟩
  simp only [spans_single, spans_row_append, spans_to_parts, spans_collapse, after]
  constructor
  · rintro ⟨m, one, parts, member, rest⟩
    refine ⟨parts, member, ?_⟩
    rw [← cut parts member, spans_row_append]
    exact ⟨m, one, rest⟩
  · rintro ⟨parts, member, span⟩
    rw [← cut parts member, spans_row_append] at span
    obtain ⟨m, one, rest⟩ := span
    exact ⟨m, one, parts, member, rest⟩

theorem spans_close (choices : Choices) (p q : Nat) : SpansAny text choices.close p q ↔ SpansAny text choices p q := by
  rw [close, spans_factor, spans_collapse]

theorem spans_repeated (greedy : Bool) (choices : Choices) (lo : Nat) (hi : Option Nat) (p q : Nat) :
    SpansAny text (repeated greedy choices lo hi) p q ↔ Spans text (.rep greedy choices.toRegex lo hi) p q := by
  unfold repeated
  split
  · simp [SpansAny, row, Spans, Times]
  · have once (n : Nat) : (1 ≤ n ∧ ∀ most ∈ some 1, n ≤ max 1 most) ↔ n = 1 := by
      simp only [Option.mem_some_iff, forall_eq', Nat.max_self]
      omega
    simp only [Spans, ← and_assoc, once, exists_eq_left, Times, exists_eq_right, spans_to_regex]
  · exact spans_single _ p q

end Choices

theorem spans_choices (text : Array Char) (r : Regex) (p q : Nat) :
    SpansAny text r.choices p q ↔ Spans text r p q := by
  induction r generalizing p q with
  | empty => exact Choices.spans_single [] p q
  | set s => exact Choices.spans_single [.set s] p q
  | look l => exact Choices.spans_single [.look l] p q
  | seq left right first second =>
      simp only [choices, Choices.spans_of_parts, spans_row_append, Choices.spans_to_parts, Choices.spans_close,
        first, second, Spans]
  | alt left right first second => simp only [choices, Choices.spans_append, first, second, Spans]
  | rep greedy r lo hi ih =>
      have inner (p q : Nat) : Spans text r.choices.close.toRegex p q ↔ Spans text r p q := by
        rw [Choices.spans_to_regex, Choices.spans_close, ih]
      rw [choices]
      split
      · next idle =>
          rw [Choices.spans_repeated, spans_rep_congr inner, spans_rep_idle idle, spans_rep_idle idle]
          simp
      · rw [Choices.spans_repeated, spans_rep_congr inner]
  | group captures r ih =>
      cases captures
      · rw [choices, Choices.spans_close, ih, Spans]
      · rw [choices, Choices.spans_single, row, Spans, Choices.spans_to_regex, Choices.spans_close, ih, Spans]

theorem spans_normal (text : Array Char) (r : Regex) (p q : Nat) : Spans text r.normal p q ↔ Spans text r p q := by
  rw [normal, Choices.spans_to_regex, Choices.spans_close, spans_choices]

end PolicyLookup.Regex
