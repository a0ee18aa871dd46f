import PolicyLookup.Proofs.Declaration.Call
import PolicyLookup.Proofs.Declaration.Literal

set_option autoImplicit false

namespace PolicyLookup

namespace Text

theorem starts_with_iff (piece t : Text) : startsWith piece t = true ↔ piece <+: t := List.isPrefixOf_iff_prefix

theorem index_of_none_iff (piece t : Text) : indexOf? piece t = none ↔ ¬ piece <:+: t := by
  induction t with
  | nil =>
      rw [indexOf?, List.infix_nil, ← List.isEmpty_iff]
      cases piece.isEmpty <;> simp
  | cons c rest ih =>
      rw [indexOf?, List.infix_cons_iff, ← starts_with_iff]
      cases startsWith piece (c :: rest) with
      | true => simp
      | false => simpa using ih

theorem index_of_there {piece t : Text} {n : Nat} (found : indexOf? piece t = some n) :
    ∃ before : Text, before.length = n ∧ before ++ piece <+: t := by
  induction t generalizing n with
  | nil =>
      rw [indexOf?] at found
      split at found
      · rename_i empty
        obtain rfl := Option.some.inj found
        exact ⟨[], rfl, by simp [List.isEmpty_iff.mp empty]⟩
      · contradiction
  | cons c rest ih =>
      rw [indexOf?] at found
      split at found
      · rename_i starts
        obtain rfl := Option.some.inj found
        exact ⟨[], rfl, (starts_with_iff piece _).mp starts⟩
      · obtain ⟨m, later, rfl⟩ := Option.map_eq_some_iff.mp found
        obtain ⟨before, rfl, there⟩ := ih later
        exact ⟨c :: before, rfl, List.cons_prefix_cons.mpr ⟨rfl, there⟩⟩

theorem index_of_le {piece t before : Text} (there : before ++ piece <+: t) :
    ∃ n, indexOf? piece t = some n ∧ n ≤ before.length := by
  induction t generalizing before with
  | nil =>
      obtain ⟨_, rfl⟩ := List.append_eq_nil_iff.mp (List.prefix_nil.mp there)
      exact ⟨0, rfl, Nat.zero_le _⟩
  | cons c rest ih =>
      cases starts : startsWith piece (c :: rest) with
      | true => exact ⟨0, by rw [indexOf?, if_pos starts], Nat.zero_le _⟩
      | false =>
          cases before with
          | nil =>
              rw [(starts_with_iff piece _).mpr there] at starts
              contradiction
          | cons d before =>
              obtain ⟨n, later, sooner⟩ := ih (List.cons_prefix_cons.mp there).2
              refine ⟨n + 1, ?_, Nat.succ_le_succ sooner⟩
              rw [indexOf?, if_neg (Bool.eq_false_iff.mp starts), later]
              rfl

end Text

inductive Headline (t : Text) : Option Keyword → Prop
  | first {k : Keyword} {before : Text} (there : before ++ k.header <+: t)
      (least : ∀ (other : Keyword) (earlier : Text), earlier ++ other.header <+: t →
        before.length ≤ earlier.length) : Headline t (some k)
  | none (free : HeaderFree t) : Headline t none

namespace Matcher

theorem keyword_at_header {k : Keyword} {t : Text} (starts : k.header <+: t) : keywordAt? t = some k := by
  obtain ⟨after, rfl⟩ := (List.prefix_append k.text _).trans starts
  exact keyword_at_start k after

theorem headline_first {t : Text} {k : Keyword} {n : Nat} (found : Text.indexOf? k.header t = some n)
    (least : ∀ (other : Keyword) (m : Nat), Text.indexOf? other.header t = some m → n ≤ m) :
    Headline t (some k) := by
  obtain ⟨before, rfl, there⟩ := Text.index_of_there found
  refine .first there ?_
  intro other earlier opens
  obtain ⟨m, foundToo, sooner⟩ := Text.index_of_le opens
  exact Nat.le_trans (least other m foundToo) sooner

theorem headline_of_first (t : Text) : Headline t (firstKeyword? t) := by
  unfold firstKeyword?
  split
  · rename_i d i atDefine atInterface
    by_cases sooner : d < i
    · rw [if_pos sooner]
      refine headline_first atDefine ?_
      intro other m found
      cases other <;> grind
    · rw [if_neg sooner]
      refine headline_first atInterface ?_
      intro other m found
      cases other <;> grind
  · rename_i atDefine atInterface
    refine headline_first atDefine ?_
    intro other m found
    cases other <;> grind
  · rename_i atDefine atInterface
    refine headline_first atInterface ?_
    intro other m found
    cases other <;> grind
  · rename_i atDefine atInterface
    refine .none ?_
    intro k
    cases k with
    | define => exact (Text.index_of_none_iff _ t).mp atDefine
    | interface => exact (Text.index_of_none_iff _ t).mp atInterface

theorem headline_unique {t : Text} {k? other? : Option Keyword} (headline : Headline t k?)
    (other : Headline t other?) : k? = other? := by
  cases headline with
  | first there least =>
      rename_i k before
      cases other with
      | first thereToo leastToo =>
          rename_i k' before'
          have same := Nat.le_antisymm (least _ _ thereToo) (leastToo _ _ there)
          have told := keyword_at_header (prefix_drop_of there)
          rw [same, keyword_at_header (prefix_drop_of thereToo)] at told
          exact told.symm
      | none free => exact absurd (Text.infix_iff_before.mpr ⟨before, there⟩) (free k)
  | none free =>
      cases other with
      | first there least => exact absurd (Text.infix_iff_before.mpr ⟨_, there⟩) (free _)
      | none _ => rfl

theorem headline_iff (t : Text) (k? : Option Keyword) : Headline t k? ↔ firstKeyword? t = k? := by
  constructor
  · exact headline_unique (headline_of_first t)
  · rintro rfl
    exact headline_of_first t

end Matcher

end PolicyLookup
