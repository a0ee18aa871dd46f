import PolicyLookup.Proofs.Regex.Normal

set_option autoImplicit false

namespace PolicyLookup

inductive Text.Gapped : Text → List Text → Text → Prop
  | last (word : Text) : Gapped word [] word
  | next (word gap : Text) {other rest : Text} {more : List Text} (single : '\n' ∉ gap)
      (later : Gapped other more rest) : Gapped word (other :: more) (word ++ gap ++ rest)

def Text.gappedQuery (first : Text) (more : List Text) : Text := first ++ more.flatMap fun w => '.' :: '*' :: w

example : Text.gappedQuery "net_".toList ["".toList, "_unix".toList] = "net_.*.*_unix".toList := by decide

theorem Text.gapped_query_cons (first next : Text) (more : List Text) :
    gappedQuery first (next :: more) = first ++ '.' :: '*' :: gappedQuery next more := by
  simp [gappedQuery]

namespace Regex

def notNewline : CharSet := CharSet.complement ⟨[(0xA, 0xA)]⟩

def gap : Regex := .rep true (.set notNewline) 0 none

def gapped (first : Text) (more : List Text) : List Regex :=
  singles first ++ more.flatMap fun w => gap :: singles w

def Expr.gap : Expr := .repeated true .dot 0 none

def Expr.gapped (first : Text) (more : List Text) : List Expr :=
  Expr.singles first ++ more.flatMap fun w => Expr.gap :: Expr.singles w

theorem gapped_cons (first next : Text) (more : List Text) :
    gapped first (next :: more) = singles first ++ gap :: gapped next more := by
  simp [gapped]

theorem Expr.gapped_cons (first next : Text) (more : List Text) :
    Expr.gapped first (next :: more) = Expr.singles first ++ Expr.gap :: Expr.gapped next more := by
  simp [Expr.gapped]

namespace Reading

theorem run_gap (n : Nat) {r : Reading} (terse : r.verbose = false) {rest : Text} (greedy : rest.head? ≠ some '?') :
    run (n + 2) r ('.' :: '*' :: rest) = run n (r.pushAll [Expr.gap]) rest := by
  have kept : readGreed rest = (true, rest) := by
    cases rest with
    | nil => rfl
    | cons c rest =>
        have other : c ≠ '?' := by simpa using greedy
        unfold readGreed
        split
        · rename_i same
          exact absurd (List.cons.inj same).1 other
        · rfl
  have dot (m : Nat) (t : Text) : run (m + 1) r ('.' :: t) = run m (r.push .dot) t := by
    simp only [run, skip, terse, Bool.false_eq_true, if_false]
    rfl
  have terseToo : (r.push .dot).verbose = false := terse
  rw [dot, run]
  simp only [skip, terseToo, Bool.false_eq_true, if_false]
  change run n { r with level := { r.level with items := .repeated (readGreed rest).1 .dot 0 none :: r.level.items } }
    (readGreed rest).2 = _
  rw [kept]
  rfl

-- A query never starts with what would make the wildcard before it lazy.
theorem gapped_query_head {first : Text} (word : first.IsWord) (more : List Text) {rest : Text}
    (greedy : rest.head? ≠ some '?') : (Text.gappedQuery first more ++ rest).head? ≠ some '?' := by
  cases first with
  | nil =>
      cases more with
      | nil => exact greedy
      | cons next more => simp [Text.gappedQuery]
  | cons c first =>
      have other : c ≠ '?' := by
        rintro rfl
        exact Text.word_free word (by decide) (by decide) List.mem_cons_self
      simpa [Text.gappedQuery] using other

theorem run_gapped {first : Text} {more : List Text} (words : ∀ w ∈ first :: more, Text.IsWord w) (n : Nat)
    {r : Reading} (terse : r.verbose = false) {rest : Text} (greedy : rest.head? ≠ some '?') :
    run ((Text.gappedQuery first more).length + n) r (Text.gappedQuery first more ++ rest) =
      run n (r.pushAll (Expr.gapped first more)) rest := by
  induction more generalizing first r with
  | nil =>
      have word := words first List.mem_cons_self
      simpa [Text.gappedQuery, Expr.gapped] using run_word word n terse rest
  | cons next more ih =>
      obtain ⟨word, later⟩ := List.forall_mem_cons.mp words
      have nextWord := later next List.mem_cons_self
      have fuel : (Text.gappedQuery first (next :: more)).length + n =
          first.length + ((Text.gappedQuery next more).length + n + 2) := by
        rw [Text.gapped_query_cons]
        simp only [List.length_append, List.length_cons]
        omega
      have split : Text.gappedQuery first (next :: more) ++ rest =
          first ++ '.' :: '*' :: (Text.gappedQuery next more ++ rest) := by
        rw [Text.gapped_query_cons, List.append_assoc]
        rfl
      have pushed : r.pushAll (Expr.gapped first (next :: more)) =
          ((r.pushAll (Expr.singles first)).pushAll [Expr.gap]).pushAll (Expr.gapped next more) := by
        rw [Expr.gapped_cons, push_all_append, ← push_all_append _ [Expr.gap]]
        rfl
      have terseWord : (r.pushAll (Expr.singles first)).verbose = false := terse
      have terseGap : ((r.pushAll (Expr.singles first)).pushAll [Expr.gap]).verbose = false := terse
      rw [fuel, split, pushed, run_word word _ terse, run_gap _ terseWord (gapped_query_head nextWord more greedy),
        ih later terseGap]

end Reading

theorem gapped_mean (first : Text) (more : List Text) :
    List.Forall₂ (Means Flags.start) (Expr.gapped first more) (gapped first more) := by
  induction more generalizing first with
  | nil => simpa [Expr.gapped, gapped] using singles_mean first
  | cons next more ih =>
      rw [Expr.gapped_cons, gapped_cons]
      exact List.rel_append (singles_mean first) (.cons rfl (ih next))

theorem gapped_depth (first : Text) (more : List Text) : ∀ e ∈ Expr.gapped first more, ∀ chain, e.depth chain ≤ 1 := by
  intro e member chain
  rw [Expr.gapped, List.mem_append, List.mem_flatMap] at member
  rcases member with inFirst | ⟨w, _, later⟩
  · exact singles_depth 1 first e inFirst chain
  · rcases List.mem_cons.mp later with rfl | inWord
    · exact Nat.le_refl 1
    · exact singles_depth 1 w e inWord chain

theorem not_newline_contains (c : Char) : notNewline.contains c = true ↔ c ≠ '\n' := by
  have ranges : notNewline.ranges = [(0, 9), (11, CharSet.top)] := rfl
  have same : c = '\n' ↔ c.toNat = 10 := ⟨fun eq => eq ▸ rfl, fun eq => Char.toNat_inj.mp eq⟩
  have bound : c.toNat ≤ CharSet.top := by
    have valid := c.valid
    rw [UInt32.isValidChar, Nat.isValidChar] at valid
    change c.val.toNat ≤ 0x10FFFF
    omega
  rw [CharSet.contains, CharSet.containsNat, ranges, Ne, same]
  simp only [List.any_cons, List.any_nil, Bool.or_false, Bool.or_eq_true, Bool.and_eq_true, decide_eq_true_eq]
  omega

theorem times_set (s : CharSet) (t : Text) (n p q : Nat) :
    Times (Spans t.toArray (.set s)) n p q ↔
      ∃ run : Text, run.length = n ∧ (∀ c ∈ run, s.contains c = true) ∧ q = p + n ∧ run <+: t.drop p := by
  induction n generalizing p with
  | zero =>
      rw [Times]
      constructor
      · rintro rfl
        exact ⟨[], rfl, by simp, rfl, List.nil_prefix⟩
      · rintro ⟨run, _, _, rfl, _⟩
        rfl
  | succ n ih =>
      simp only [Times, ih, spans_set]
      constructor
      · rintro ⟨m, ⟨rfl, c, here, inside⟩, run, rfl, all, rfl, there⟩
        refine ⟨c :: run, rfl, List.forall_mem_cons.mpr ⟨inside, all⟩, by omega, ?_⟩
        exact (prefix_drop_cons c run t p).mpr ⟨here, there⟩
      · rintro ⟨run, count, all, rfl, there⟩
        cases run with
        | nil => contradiction
        | cons c run =>
            obtain ⟨inside, rest⟩ := List.forall_mem_cons.mp all
            obtain ⟨here, later⟩ := (prefix_drop_cons c run t p).mp there
            exact ⟨p + 1, ⟨rfl, c, here, inside⟩, run, Nat.succ.inj count, rest, by omega, later⟩

theorem spans_gap (t : Text) (p q : Nat) :
    Spans t.toArray gap p q ↔ ∃ run : Text, '\n' ∉ run ∧ q = p + run.length ∧ run <+: t.drop p := by
  have within (run : Text) : (∀ c ∈ run, notNewline.contains c = true) ↔ '\n' ∉ run := by
    simp only [not_newline_contains]
    constructor
    · intro others newline
      exact others '\n' newline rfl
    · rintro free c member rfl
      exact free member
  rw [gap, Spans]
  simp only [times_set]
  constructor
  · rintro ⟨n, _, _, run, rfl, all, stop, there⟩
    exact ⟨run, (within run).mp all, stop, there⟩
  · rintro ⟨run, free, stop, there⟩
    exact ⟨run.length, Nat.zero_le _, by simp, run, rfl, (within run).mpr free, stop, there⟩

theorem spans_gapped (t first : Text) (more : List Text) (p q : Nat) :
    Spans t.toArray (row (gapped first more)) p q ↔
      ∃ name : Text, Text.Gapped first more name ∧ q = p + name.length ∧ name <+: t.drop p := by
  induction more generalizing first p with
  | nil =>
      have alone : gapped first [] = singles first := by simp [gapped]
      rw [alone, spans_singles]
      constructor
      · rintro ⟨stop, there⟩
        exact ⟨first, .last first, stop, there⟩
      · rintro ⟨name, fills, stop, there⟩
        cases fills
        exact ⟨stop, there⟩
  | cons next more ih =>
      simp only [gapped_cons, spans_row_append, spans_row_cons, spans_singles, spans_gap, ih]
      constructor
      · rintro ⟨_, ⟨rfl, start⟩, _, ⟨run, single, rfl, middle⟩, name, fills, rfl, later⟩
        refine ⟨first ++ run ++ name, .next first run single fills, ?_, ?_⟩
        · simp only [List.length_append]
          omega
        · rw [prefix_drop_append, prefix_drop_append, List.length_append, ← Nat.add_assoc]
          exact ⟨⟨start, middle⟩, later⟩
      · rintro ⟨_, fills, rfl, there⟩
        cases fills with
        | next _ run single fills =>
            rename_i name
            rw [prefix_drop_append, prefix_drop_append, List.length_append, ← Nat.add_assoc] at there
            obtain ⟨⟨start, middle⟩, later⟩ := there
            refine ⟨_, ⟨rfl, start⟩, _, ⟨run, single, rfl, middle⟩, name, fills, ?_, later⟩
            simp only [List.length_append]
            omega

theorem gapped_parts (first : Text) (more : List Text) : ∀ r ∈ gapped first more, IsPart r := by
  intro r member
  rw [gapped, List.mem_append, List.mem_flatMap] at member
  rcases member with inFirst | ⟨w, _, later⟩
  · exact singles_are_parts first r inFirst
  · rcases List.mem_cons.mp later with rfl | inWord
    · rfl
    · exact singles_are_parts w r inWord

theorem gap_size (direction : Direction) (inChoice : Bool) : gap.size direction inChoice ≤ 1100 := by
  cases direction <;> cases inChoice <;> decide +kernel

theorem gapped_size (direction : Direction) (first : Text) (more : List Text) :
    ∀ r ∈ gapped first more, ∀ inChoice, r.size direction inChoice ≤ 1100 := by
  intro r member inChoice
  have single {w : Text} (inWord : r ∈ singles w) : r.size direction inChoice ≤ 1100 :=
    Nat.le_trans (singles_size direction w r inWord inChoice) (by decide)
  rw [gapped, List.mem_append, List.mem_flatMap] at member
  rcases member with inFirst | ⟨w, _, later⟩
  · exact single inFirst
  · rcases List.mem_cons.mp later with rfl | inWord
    · exact gap_size direction inChoice
    · exact single inWord

theorem length_gapped (first : Text) (more : List Text) :
    (gapped first more).length ≤ (Text.gappedQuery first more).length := by
  induction more generalizing first with
  | nil => simp [gapped, Text.gappedQuery, singles]
  | cons next more ih =>
      have later := ih next
      rw [gapped_cons, Text.gapped_query_cons]
      simp only [List.length_append, List.length_cons, singles, List.length_map]
      omega

end Regex

end PolicyLookup
