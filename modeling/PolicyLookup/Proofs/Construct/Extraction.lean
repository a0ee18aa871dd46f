import PolicyLookup.Construct
import PolicyLookup.Proofs.Text.Trim

set_option autoImplicit false

namespace PolicyLookup

def LeavesOpen (header : Text) : Prop :=
  ∃ before blanks, header = before ++ '\x60' :: blanks ∧ Text.Blank blanks

def Closes (line : Text) : Prop :=
  line = ['\'', ')'] ∨ line = ['\'', ')', '\n'] ∨ line = ['\'', ')', '\r', '\n']

def FirstClosing (lines : List Text) (start last : Nat) : Prop :=
  start ≤ last ∧ (∃ line, lines[last]? = some line ∧ Closes line) ∧
    ∀ i line, start ≤ i → i < last → lines[i]? = some line → ¬ Closes line

inductive Extracted (place : Location) (lines : List Text) : Except Failure Construct → Prop
  | pastEnd (short : lines.length ≤ place.line) :
      Extracted place lines (.error (.pastEnd place.path place.line))
  | singleLine (header : Text) (there : lines[place.line]? = some header)
      (shut : ¬ LeavesOpen header) :
      Extracted place lines (.ok ⟨place, .singleLine, header⟩)
  | block (header : Text) (last : Nat) (there : lines[place.line]? = some header)
      (left : LeavesOpen header) (closing : FirstClosing lines place.line last) :
      Extracted place lines (.ok ⟨place, .block, ((lines.take (last + 1)).drop place.line).flatten⟩)
  | neverClosed (header : Text) (there : lines[place.line]? = some header)
      (left : LeavesOpen header)
      (unclosed : ∀ i line, place.line ≤ i → lines[i]? = some line → ¬ Closes line) :
      Extracted place lines (.error (.neverClosed place.path place.line))

namespace Construct

theorem is_terminator_iff (line : Text) : isTerminator line = true ↔ Closes line := by
  simp only [isTerminator, Closes, Bool.or_eq_true, beq_iff_eq]
  exact or_comm

theorem opens_block_iff (header : Text) : opensBlock header = true ↔ LeavesOpen header := by
  rw [opensBlock, beq_iff_eq, Text.trim_last]
  constructor
  · intro ends
    obtain ⟨more, rest⟩ := List.head?_eq_some_iff.mp ends
    refine ⟨more.reverse, (header.reverse.takeWhile Text.isBlank).reverse, ?_, ?_⟩
    · have whole := List.takeWhile_append_dropWhile (p := Text.isBlank) (l := header.reverse)
      rw [rest] at whole
      simpa using (congrArg List.reverse whole).symm
    · intro c member
      exact Text.blank_take_while header.reverse c (List.mem_reverse.mp member)
  · rintro ⟨before, blanks, rfl, blank⟩
    have quote : Text.isBlank '\x60' = false := by decide
    have gone : ∀ c ∈ blanks.reverse, Text.isBlank c = true := fun c member =>
      blank c (List.mem_reverse.mp member)
    simp [List.dropWhile_append_of_pos gone, quote]

theorem block_length_some {lines : List Text} {length : Nat} (found : blockLength? lines = some length) :
    ∃ last, length = last + 1 ∧ FirstClosing lines 0 last := by
  simp only [blockLength?, Option.map_eq_some_iff] at found
  obtain ⟨last, index, rfl⟩ := found
  obtain ⟨within, closing, before⟩ := List.findIdx?_eq_some_iff_getElem.mp index
  refine ⟨last, rfl, Nat.zero_le _, ⟨lines[last], by simp [within], (is_terminator_iff _).mp closing⟩, ?_⟩
  intro i line _ earlier there closes
  obtain ⟨_, rfl⟩ := List.getElem?_eq_some_iff.mp there
  exact before i earlier ((is_terminator_iff _).mpr closes)

theorem block_length_none {lines : List Text} (missing : blockLength? lines = none) :
    ∀ line ∈ lines, ¬ Closes line := by
  intro line member closes
  simp only [blockLength?, Option.map_eq_none_iff, List.findIdx?_eq_none_iff] at missing
  have unclosed := missing line member
  simp [(is_terminator_iff line).mpr closes] at unclosed

theorem first_closing_drop {lines : List Text} {start last : Nat}
    (closing : FirstClosing (lines.drop start) 0 last) : FirstClosing lines start (start + last) := by
  obtain ⟨_, ⟨line, there, closes⟩, before⟩ := closing
  refine ⟨by omega, ⟨line, by simpa using there, closes⟩, ?_⟩
  intro i other below earlier present
  refine before (i - start) other (Nat.zero_le _) (by omega) ?_
  simpa [List.getElem?_drop, Nat.add_sub_cancel' below] using present

theorem extracted_of_lines (place : Location) (lines : List Text) :
    Extracted place lines (ofLines place lines) := by
  unfold ofLines
  cases rest : lines.drop place.line with
  | nil => exact .pastEnd (List.drop_eq_nil_iff.mp rest)
  | cons header more =>
      have there : lines[place.line]? = some header := by
        rw [← Nat.add_zero place.line, ← List.getElem?_drop, rest]
        rfl
      by_cases opens : opensBlock header = true
      · have left := (opens_block_iff header).mp opens
        simp only [opens, Bool.not_true, Bool.false_eq_true, if_false]
        rw [← rest]
        cases found : blockLength? (lines.drop place.line) with
        | none =>
            refine .neverClosed header there left ?_
            intro i line below present
            apply block_length_none found
            refine List.mem_of_getElem? (i := i - place.line) ?_
            simpa [List.getElem?_drop, Nat.add_sub_cancel' below] using present
        | some length =>
            obtain ⟨last, rfl, closing⟩ := block_length_some found
            have taken := Extracted.block header _ there left (first_closing_drop closing)
            rwa [List.drop_take, show place.line + last + 1 - place.line = last + 1 by omega] at taken
      · have shut : ¬ LeavesOpen header := fun left => opens ((opens_block_iff header).mpr left)
        simp only [opens, Bool.not_false, if_true]
        exact .singleLine header there shut

end Construct

theorem first_closing_unique {lines : List Text} {start one other : Nat} (first : FirstClosing lines start one)
    (second : FirstClosing lines start other) : one = other := by
  obtain ⟨fromOne, ⟨line, there, closes⟩, before⟩ := first
  obtain ⟨fromOther, ⟨otherLine, otherThere, otherCloses⟩, otherBefore⟩ := second
  rcases Nat.lt_trichotomy one other with less | same | less
  · exact absurd closes (otherBefore one line fromOne less there)
  · exact same
  · exact absurd otherCloses (before other otherLine fromOther less otherThere)

theorem extracted_unique {place : Location} {lines : List Text} {one other : Except Failure Construct}
    (first : Extracted place lines one) (second : Extracted place lines other) : one = other := by
  have past {line : Text} (short : lines.length ≤ place.line) (there : lines[place.line]? = some line) : False := by
    rw [List.getElem?_eq_none short] at there
    contradiction
  have sameHeader {header other : Text} (there : lines[place.line]? = some header)
      (also : lines[place.line]? = some other) : header = other :=
    Option.some.inj (there.symm.trans also)
  cases first with
  | pastEnd short =>
      cases second with
      | pastEnd _ => rfl
      | singleLine _ there _ | block _ _ there _ _ | neverClosed _ there _ _ => exact (past short there).elim
  | singleLine header there shut =>
      cases second with
      | pastEnd short => exact (past short there).elim
      | singleLine other also _ =>
          obtain rfl := sameHeader there also
          rfl
      | block other _ also left _ | neverClosed other also left _ =>
          obtain rfl := sameHeader there also
          exact absurd left shut
  | block header last there left closing =>
      cases second with
      | pastEnd short => exact (past short there).elim
      | singleLine other also shut =>
          obtain rfl := sameHeader there also
          exact absurd left shut
      | block other otherLast also _ otherClosing => rw [first_closing_unique closing otherClosing]
      | neverClosed other also _ unclosed =>
          obtain ⟨below, ⟨line, present, closes⟩, _⟩ := closing
          exact absurd closes (unclosed last line below present)
  | neverClosed header there left unclosed =>
      cases second with
      | pastEnd short => exact (past short there).elim
      | singleLine other also shut =>
          obtain rfl := sameHeader there also
          exact absurd left shut
      | block other last _ _ closing =>
          obtain ⟨below, ⟨line, present, closes⟩, _⟩ := closing
          exact absurd closes (unclosed last line below present)
      | neverClosed _ _ _ _ => rfl

end PolicyLookup
