import PolicyLookup.Regex.Meaning

set_option autoImplicit false

namespace PolicyLookup

namespace CharSet

def Covers (ranges : List (Nat × Nat)) (n : Nat) : Prop := ∃ r ∈ ranges, r.1 ≤ n ∧ n ≤ r.2

def Ordered (ranges : List (Nat × Nat)) : Prop := ranges.Pairwise fun r s => r.1 ≤ s.1

theorem covers_cons (r : Nat × Nat) (ranges : List (Nat × Nat)) (n : Nat) :
    Covers (r :: ranges) n ↔ (r.1 ≤ n ∧ n ≤ r.2) ∨ Covers ranges n := by
  simp [Covers]

theorem covers_append (left right : List (Nat × Nat)) (n : Nat) :
    Covers (left ++ right) n ↔ Covers left n ∨ Covers right n := by
  simp only [Covers, List.mem_append, or_and_right, exists_or]

theorem contains_iff (s : CharSet) (c : Char) : s.contains c = true ↔ Covers s.ranges c.toNat := by
  simp [contains, containsNat, Covers]

theorem char_le_top (c : Char) : c.toNat ≤ top := by
  have valid : c.toNat < 0xD800 ∨ 0xDFFF < c.toNat ∧ c.toNat < 0x110000 := c.valid
  rw [top]
  omega

theorem covers_join {current : Nat × Nat} {ranges : List (Nat × Nat)} (ordered : Ordered (current :: ranges)) (n : Nat) :
    Covers (joinRanges current ranges) n ↔ Covers (current :: ranges) n := by
  induction ranges generalizing current with
  | nil => rfl
  | cons r ranges ih =>
      obtain ⟨first, later⟩ := List.pairwise_cons.mp ordered
      have start := first r List.mem_cons_self
      rw [joinRanges]
      split
      · next meets =>
          have joined : Ordered ((current.1, max current.2 r.2) :: ranges) :=
            List.pairwise_cons.mpr ⟨fun s member => first s (List.mem_cons_of_mem r member),
              (List.pairwise_cons.mp later).2⟩
          simp only [ih joined, covers_cons, ← or_assoc]
          refine or_congr_left ?_
          omega
      · rw [covers_cons, ih later, covers_cons current]

theorem ordered_join {current : Nat × Nat} {ranges : List (Nat × Nat)} (ordered : Ordered (current :: ranges)) :
    (∀ r ∈ joinRanges current ranges, current.1 ≤ r.1) ∧ Ordered (joinRanges current ranges) := by
  induction ranges generalizing current with
  | nil => simp [joinRanges, Ordered]
  | cons r ranges ih =>
      obtain ⟨first, later⟩ := List.pairwise_cons.mp ordered
      rw [joinRanges]
      split
      · exact ih (List.pairwise_cons.mpr ⟨fun s member => first s (List.mem_cons_of_mem r member),
          (List.pairwise_cons.mp later).2⟩)
      · obtain ⟨behind, inOrder⟩ := ih later
        have start := first r List.mem_cons_self
        have after : ∀ s ∈ joinRanges r ranges, current.1 ≤ s.1 := fun s member => Nat.le_trans start (behind s member)
        exact ⟨List.forall_mem_cons.mpr ⟨Nat.le_refl _, after⟩, List.pairwise_cons.mpr ⟨after, inOrder⟩⟩

theorem ordered_sort (ranges : List (Nat × Nat)) : Ordered (ranges.mergeSort fun a b => a.1 ≤ b.1) := by
  have inOrder : (ranges.mergeSort fun a b => a.1 ≤ b.1).Pairwise fun a b => decide (a.1 ≤ b.1) = true := by
    apply List.pairwise_mergeSort
    · intro a b c first second
      exact decide_eq_true (Nat.le_trans (of_decide_eq_true first) (of_decide_eq_true second))
    · intro a b
      simpa using Nat.le_total a.1 b.1
  exact inOrder.imp of_decide_eq_true

theorem covers_of_ranges (ranges : List (Nat × Nat)) (n : Nat) :
    Covers (ofRanges ranges).ranges n ↔ Covers ranges n := by
  have ordered := ordered_sort ranges
  have same : Covers (ranges.mergeSort fun a b => a.1 ≤ b.1) n ↔ Covers ranges n := by
    simp only [Covers, List.mem_mergeSort]
  rw [← same, ofRanges]
  cases joined : ranges.mergeSort fun a b => a.1 ≤ b.1 with
  | nil => rfl
  | cons first rest => exact covers_join (joined ▸ ordered) n

theorem ordered_of_ranges (ranges : List (Nat × Nat)) : Ordered (ofRanges ranges).ranges := by
  have ordered := ordered_sort ranges
  rw [ofRanges]
  cases joined : ranges.mergeSort fun a b => a.1 ≤ b.1 with
  | nil => exact List.Pairwise.nil
  | cons first rest => exact (ordered_join (joined ▸ ordered)).2

theorem contains_union (s t : CharSet) (c : Char) :
    (s.union t).contains c = true ↔ s.contains c = true ∨ t.contains c = true := by
  simp only [contains_iff, union]
  split
  · next nothing => simp [Covers, List.isEmpty_iff.mp nothing]
  · split
    · next nothing => simp [Covers, List.isEmpty_iff.mp nothing]
    · rw [covers_of_ranges, covers_append]

theorem ordered_union {s t : CharSet} (left : Ordered s.ranges) (right : Ordered t.ranges) : Ordered (s.union t).ranges := by
  rw [union]
  split
  · exact right
  · split
    · exact left
    · exact ordered_of_ranges _

theorem ordered_gaps (next : Nat) (ranges : List (Nat × Nat)) :
    (∀ r ∈ gaps next ranges, next ≤ r.1) ∧ Ordered (gaps next ranges) := by
  induction ranges generalizing next with
  | nil =>
      rw [gaps]
      split <;> simp [Ordered]
  | cons r ranges ih =>
      obtain ⟨behind, inOrder⟩ := ih (max next (r.2 + 1))
      have after : ∀ s ∈ gaps (max next (r.2 + 1)) ranges, next ≤ s.1 :=
        fun s member => Nat.le_trans (Nat.le_max_left next (r.2 + 1)) (behind s member)
      rw [gaps]
      split
      · exact ⟨List.forall_mem_cons.mpr ⟨Nat.le_refl next, after⟩, List.pairwise_cons.mpr ⟨after, inOrder⟩⟩
      · exact ⟨after, inOrder⟩

theorem covers_gaps {ranges : List (Nat × Nat)} (ordered : Ordered ranges) (next : Nat) {n : Nat} (within : n ≤ top) :
    Covers (gaps next ranges) n ↔ next ≤ n ∧ ¬ Covers ranges n := by
  induction ranges generalizing next with
  | nil =>
      rw [gaps]
      split
      · simp [Covers, within]
      · simp [Covers]
        omega
  | cons r ranges ih =>
      obtain ⟨first, later⟩ := List.pairwise_cons.mp ordered
      -- Nothing in front of the first range is in one of those behind it.
      have ahead (before : n < r.1) : ¬ Covers ranges n := by
        rintro ⟨s, member, start, _⟩
        have behind := first s member
        omega
      rw [covers_cons r]
      by_cases covered : Covers ranges n
      · have notBefore : ¬ n < r.1 := fun before => ahead before covered
        rw [gaps]
        split
        · rw [covers_cons, ih later]
          simp only [covered, not_true_eq_false, and_false, or_false, or_true, iff_false]
          omega
        · rw [ih later]
          simp only [covered, not_true_eq_false, and_false, or_true]
      · rw [gaps]
        split
        · rw [covers_cons, ih later]
          simp only [covered, not_false_eq_true, and_true, or_false]
          omega
        · rw [ih later]
          simp only [covered, not_false_eq_true, and_true, or_false]
          omega

theorem contains_complement {s : CharSet} (ordered : Ordered s.ranges) (c : Char) :
    s.complement.contains c = true ↔ ¬ s.contains c = true := by
  rw [contains_iff, contains_iff, complement, covers_gaps ordered 0 (char_le_top c)]
  simp

theorem ordered_complement (s : CharSet) : Ordered s.complement.ranges := (ordered_gaps 0 s.ranges).2

section

variable {s t : CharSet} (left : Ordered s.ranges) (right : Ordered t.ranges)

include left right

theorem contains_inter (c : Char) : (s.inter t).contains c = true ↔ s.contains c = true ∧ t.contains c = true := by
  have either := ordered_union (ordered_complement s) (ordered_complement t)
  rw [inter, contains_complement either, contains_union, contains_complement left, contains_complement right,
    not_or, Classical.not_not, Classical.not_not]

theorem contains_diff (c : Char) : (s.diff t).contains c = true ↔ s.contains c = true ∧ ¬ t.contains c = true := by
  rw [diff, contains_inter left (ordered_complement t), contains_complement right]

theorem contains_symm_diff (c : Char) :
    (s.symmDiff t).contains c = true ↔ ¬ (s.contains c = true ↔ t.contains c = true) := by
  rw [symmDiff, contains_union, contains_diff left right, contains_diff right left]
  by_cases inLeft : s.contains c = true <;> simp [inLeft]

end

end CharSet

namespace Regex.SetOp

def Holds : SetOp → Prop → Prop → Prop
  | .intersection, inLeft, inRight => inLeft ∧ inRight
  | .difference, inLeft, inRight => inLeft ∧ ¬ inRight
  | .symmetricDifference, inLeft, inRight => ¬ (inLeft ↔ inRight)

-- The operators of classes are those of sets, and what they make can be combined again.
theorem contains_apply (op : SetOp) {s t : CharSet} (left : CharSet.Ordered s.ranges)
    (right : CharSet.Ordered t.ranges) :
    CharSet.Ordered (op.apply s t).ranges ∧
      ∀ c, (op.apply s t).contains c = true ↔ op.Holds (s.contains c = true) (t.contains c = true) := by
  cases op with
  | intersection => exact ⟨CharSet.ordered_complement _, CharSet.contains_inter left right⟩
  | difference => exact ⟨CharSet.ordered_complement _, CharSet.contains_diff left right⟩
  | symmetricDifference =>
      exact ⟨CharSet.ordered_union (CharSet.ordered_complement _) (CharSet.ordered_complement _),
        CharSet.contains_symm_diff left right⟩

end Regex.SetOp

end PolicyLookup
