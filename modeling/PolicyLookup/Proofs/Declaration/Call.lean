import Mathlib.Data.List.Basic
import PolicyLookup.Proofs.Declaration.Opening
import PolicyLookup.Proofs.Text.Lines

set_option autoImplicit false

namespace PolicyLookup

def HeaderFree (t : Text) : Prop := ∀ k : Keyword, ¬ k.header <:+: t

def call (callee name rest : Text) : Text := callee ++ ['(', '\x60'] ++ name ++ '\'' :: rest

namespace Keyword

theorem header_length (k : Keyword) : 8 ≤ k.header.length := by
  cases k <;> decide

theorem header_free_of (k : Keyword) {c : Char} (other : c ∉ "define(`interface(`".toList) :
    c ∉ k.header := by
  intro member
  apply other
  cases k with
  | define => exact List.mem_append_left "interface(`".toList member
  | interface => exact List.mem_append_right "define(`".toList member

theorem not_infix_of_short (k : Keyword) {t : Text} (short : t.length < 8) : ¬ k.header <:+: t := by
  intro there
  have bound := there.length_le
  have long := k.header_length
  omega

theorem text_suffix {k other : Keyword} {before : Text} (same : before ++ other.text = k.text) :
    before = [] ∧ other = k := by
  have ends : other.text <:+ k.text := ⟨before, same⟩
  have length := congrArg List.length same
  cases k <;> cases other
  · exact ⟨by simpa using same, rfl⟩
  · exact absurd ends (by decide)
  · exact absurd ends (by decide)
  · exact ⟨by simpa using same, rfl⟩

theorem text_end {k other : Keyword} {before beforeToo : Text} (same : before ++ k.text = beforeToo ++ other.text) :
    before = beforeToo ∧ k = other := by
  rcases List.append_eq_append_iff.mp same with ⟨inner, rfl, rest⟩ | ⟨inner, rfl, rest⟩
  · obtain ⟨rfl, rfl⟩ := text_suffix rest.symm
    exact ⟨by simp, rfl⟩
  · obtain ⟨rfl, rfl⟩ := text_suffix rest.symm
    exact ⟨by simp, rfl⟩

theorem header_of_opening (k : Keyword) (name : Text) : k.header <:+: k.opening name :=
  ⟨[], name ++ ['\''], by simp [opening]⟩

theorem opening_call (k : Keyword) (before name rest : Text) :
    before ++ k.opening name <+: call (before ++ k.text) name rest :=
  ⟨rest, by simp [call, opening, header]⟩

-- A header that ends before the name is over ends with the quote in front of it.
theorem header_in_call {k : Keyword} {before callee name : Text} (calleeOpen : '\x60' ∉ callee)
    (nameOpen : '\x60' ∉ name) (there : before ++ k.header <+: callee ++ ['(', '\x60'] ++ name) :
    callee = before ++ k.text := by
  obtain ⟨after, whole⟩ := there
  have left : '\x60' ∉ callee ++ ['('] := by simpa using calleeOpen
  have split : (callee ++ ['(']) ++ '\x60' :: name = (before ++ k.text ++ ['(']) ++ '\x60' :: after := by
    simpa [header] using whole.symm
  exact (List.append_left_inj _).mp ((List.append_cons_inj_of_notMem left nameOpen).mp split).1

theorem opening_in_call {k : Keyword} {before name callee other rest : Text} (calleeOpen : '\x60' ∉ callee)
    (otherOpen : '\x60' ∉ other) (otherClosed : '\'' ∉ other) (closed : '\'' ∉ name) (free : HeaderFree rest)
    (there : before ++ k.opening name <+: call callee other rest) : callee = before ++ k.text ∧ name = other := by
  obtain ⟨after, whole⟩ := there
  have quote : '\'' ∉ k.header := k.header_free_of (by decide)
  have parted : before ++ k.header ++ (name ++ '\'' :: after) =
      (callee ++ ['(', '\x60'] ++ other) ++ '\'' :: rest := by
    simpa [call, opening] using whole
  rcases Text.beside_separator parted quote with inside | ⟨inner, _, beyond⟩
  · obtain rfl := header_in_call calleeOpen otherOpen inside
    have named : name ++ '\'' :: after = other ++ '\'' :: rest := by
      simpa [header] using parted
    exact ⟨rfl, Text.before_separator named closed otherClosed⟩
  · exact absurd (Text.infix_iff_before.mpr ⟨inner, beyond⟩) (free k)

end Keyword

end PolicyLookup
