import Mathlib.Order.Minimal
import PolicyLookup.Declaration
import PolicyLookup.Proofs.Text.Trim

set_option autoImplicit false

namespace PolicyLookup

theorem Text.infix_iff_before {piece t : Text} :
    piece <:+: t ↔ ∃ before : Text, before ++ piece <+: t := by
  constructor
  · rintro ⟨before, after, whole⟩
    exact ⟨before, after, whole⟩
  · rintro ⟨before, after, whole⟩
    exact ⟨before, after, whole⟩

namespace Keyword

def opening (k : Keyword) (name : Text) : Text := k.header ++ name ++ ['\'']

theorem opening_ne_nil (k : Keyword) (name : Text) : k.opening name ≠ [] := by
  simp [opening]

theorem opening_solid (k : Keyword) (name : Text) : Text.Solid (k.opening name) := by
  refine ⟨?_, k.header ++ name, '\'', rfl, by decide⟩
  cases k with
  | define => exact ⟨'d', _, rfl, by decide⟩
  | interface => exact ⟨'i', _, rfl, by decide⟩

end Keyword

structure FirstOpening (name t : Text) (k : Keyword) (before : Text) : Prop where
  there : before ++ k.opening name <+: t
  least : ∀ (other : Keyword) (earlier : Text), earlier ++ other.opening name <+: t →
    before.length ≤ earlier.length

theorem Text.shortest_exists {P : Text → Prop} (inhabited : ∃ t, P t) :
    ∃ t, P t ∧ ∀ u : Text, P u → t.length ≤ u.length := by
  obtain ⟨t, holds, least⟩ := exists_minimalFor_of_wellFoundedLT P List.length inhabited
  exact ⟨t, holds, fun u other => (Nat.le_total t.length u.length).elim id (least other)⟩

structure FirstNamed (names : Text → Prop) (t : Text) (k : Keyword) (before : Text) : Prop where
  there : ∃ name, names name ∧ before ++ k.opening name <+: t
  least : ∀ (other : Keyword) (earlier name : Text), names name → earlier ++ other.opening name <+: t →
    before.length ≤ earlier.length

theorem first_named_exists {names : Text → Prop} {t : Text}
    (opens : ∃ (k : Keyword) (name : Text), names name ∧ k.opening name <:+: t) :
    ∃ k before, FirstNamed names t k before := by
  have somewhere : ∃ (before : Text) (k : Keyword) (name : Text), names name ∧ before ++ k.opening name <+: t := by
    obtain ⟨k, name, named, inside⟩ := opens
    obtain ⟨before, there⟩ := Text.infix_iff_before.mp inside
    exact ⟨before, k, name, named, there⟩
  obtain ⟨before, ⟨k, name, named, there⟩, least⟩ := Text.shortest_exists somewhere
  exact ⟨k, before, ⟨name, named, there⟩, fun other earlier name named sooner =>
    least earlier ⟨other, name, named, sooner⟩⟩

theorem first_named_iff (name t : Text) (k : Keyword) (before : Text) :
    FirstNamed (· = name) t k before ↔ FirstOpening name t k before := by
  constructor
  · rintro ⟨⟨_, rfl, there⟩, least⟩
    exact ⟨there, fun other earlier sooner => least other earlier _ rfl sooner⟩
  · rintro ⟨there, least⟩
    refine ⟨⟨name, rfl, there⟩, ?_⟩
    rintro other earlier _ rfl sooner
    exact least other earlier sooner

theorem first_opening_exists {name t : Text} {k : Keyword} (there : k.opening name <:+: t) :
    ∃ first before, FirstOpening name t first before := by
  have named : ∃ (k : Keyword) (other : Text), other = name ∧ k.opening other <:+: t := ⟨k, name, rfl, there⟩
  obtain ⟨first, before, opens⟩ := first_named_exists named
  exact ⟨first, before, (first_named_iff name t first before).mp opens⟩

theorem opening_in_trim {name t : Text} {k : Keyword} (there : k.opening name <:+: t) :
    k.opening name <:+: Text.trim t := by
  obtain ⟨left, right, _, inside⟩ := Text.trim_occurrence t
  obtain ⟨before, after, whole⟩ := there
  obtain ⟨inner, outer, _, _, core⟩ := inside before _ after (k.opening_solid name) whole.symm
  exact ⟨inner, outer, core.symm⟩

theorem trim_inside (t : Text) : Text.trim t <:+: t := by
  obtain ⟨left, right, whole, _⟩ := Text.trim_split t
  exact ⟨left, right, whole.symm⟩

theorem first_opening_trim {name t : Text} {k : Keyword} {before : Text}
    (first : FirstOpening name t k before) : ∃ inner, FirstOpening name (Text.trim t) k inner := by
  obtain ⟨left, right, whole, inside⟩ := Text.trim_occurrence t
  obtain ⟨after, there⟩ := first.there
  obtain ⟨inner, outer, start, _, core⟩ := inside before _ after (k.opening_solid name) there.symm
  refine ⟨inner, ⟨outer, core.symm⟩, ?_⟩
  intro other earlier sooner
  have shifted : (left ++ earlier) ++ other.opening name <+: t := by
    rw [whole, List.append_assoc, List.append_assoc, List.prefix_append_right_inj]
    exact sooner.trans (List.prefix_append _ _)
  have bound := first.least other _ shifted
  simp only [start, List.length_append] at bound
  omega

end PolicyLookup
