import PolicyLookup.Proofs.Lookup.Run
import PolicyLookup.Regex.Reader

set_option autoImplicit false

namespace PolicyLookup.Regex

inductive Level.Goes (level : Level) : Level → Prop
  | stays : level.Goes level
  | pushed (e : Expr) : level.Goes (level.push e)
  | nextChoice : level.Goes level.nextChoice
  | repeated (greedy : Bool) {last : Expr} {before : List Expr} (items : level.items = last :: before) (lo : Nat)
      (hi : Option Nat) : level.Goes { level with items := .repeated greedy last lo hi :: before }

def outermost : List OpenGroup → Level → Level
  | [], level => level
  | g :: rest, _ => outermost rest g.outside

theorem Level.Goes.outermost {level next : Level} (goes : level.Goes next) (groups : List OpenGroup) :
    (outermost groups level).Goes (outermost groups next) := by
  cases groups with
  | nil => exact goes
  | cons g rest => exact .stays

namespace Reading

def outermost (r : Reading) : Level := Regex.outermost r.groups r.level

theorem push_goes (r : Reading) (e : Expr) : r.outermost.Goes (r.push e).outermost :=
  (Level.Goes.pushed e).outermost r.groups

theorem repeat_last_goes {r after : Reading} {lo : Nat} {hi : Option Nat} {t rest : Text}
    (done : r.repeatLast lo hi t = .ok (after, rest)) : r.outermost.Goes after.outermost := by
  rw [repeatLast] at done
  split at done
  · contradiction
  · contradiction
  · rename_i last before _ items
    obtain ⟨rfl, _⟩ := Prod.mk.inj (Except.ok.inj done)
    exact (Level.Goes.repeated _ items lo hi).outermost r.groups

-- The level that was innermost stands outside the new group, so that no level outside changes.
theorem open_group_goes {r after : Reading} {opening : Opening} (done : r.openGroup opening = .ok after) :
    r.outermost.Goes after.outermost := by
  cases opening with
  | directive change =>
      obtain rfl := Except.ok.inj done
      exact push_goes r (.flags change)
  | group kind name =>
      simp only [openGroup] at done
      split at done
      · contradiction
      · obtain rfl := Except.ok.inj done
        exact .stays

theorem close_group_goes {r after : Reading} (done : r.closeGroup = .ok after) : r.outermost.Goes after.outermost := by
  rw [closeGroup] at done
  split at done
  · contradiction
  · rename_i g rest groups
    obtain rfl := Except.ok.inj done
    have outer : r.outermost = Regex.outermost rest g.outside := by
      rw [outermost, groups]
      rfl
    rw [outer]
    exact (Level.Goes.pushed _).outermost rest

theorem step_goes {r after : Reading} {c : Char} {rest last : Text} (done : r.step c rest = .ok (after, last)) :
    r.outermost.Goes after.outermost := by
  unfold step at done
  split at done
  case h_1 =>
    obtain ⟨⟨opening, more⟩, _, opened⟩ := Lookup.bind_ok_iff.mp done
    obtain ⟨next, group, same⟩ := Lookup.bind_ok_iff.mp opened
    obtain ⟨rfl, _⟩ := Prod.mk.inj (Except.ok.inj same)
    exact open_group_goes group
  case h_2 =>
    obtain ⟨next, closed, same⟩ := Lookup.map_ok_iff.mp done
    obtain ⟨rfl, _⟩ := Prod.mk.inj same
    exact close_group_goes closed
  case h_3 =>
    obtain ⟨rfl, _⟩ := Prod.mk.inj (Except.ok.inj done)
    exact Level.Goes.nextChoice.outermost r.groups
  case h_8 =>
    obtain ⟨⟨⟨lo, hi⟩, more⟩, _, repeated⟩ := Lookup.bind_ok_iff.mp done
    exact repeat_last_goes repeated
  case h_4 | h_9 =>
    obtain ⟨⟨e, more⟩, _, same⟩ := Lookup.map_ok_iff.mp done
    obtain ⟨rfl, _⟩ := Prod.mk.inj same
    exact push_goes r e
  case h_5 | h_6 | h_7 => exact repeat_last_goes done
  all_goals
    obtain ⟨rfl, _⟩ := Prod.mk.inj (Except.ok.inj done)
    exact push_goes r _

theorem finish_outermost {r : Reading} {e : Expr} (done : r.finish = .ok e) : e = r.outermost.close := by
  rw [finish] at done
  split at done
  · rename_i noGroup
    have outer : r.outermost = r.level := by
      rw [outermost, List.isEmpty_iff.mp noGroup]
      rfl
    rw [outer]
    exact (Except.ok.inj done).symm
  · contradiction

theorem run_keeps {Kept : Level → Prop} (keeps : ∀ {level next : Level}, level.Goes next → Kept level → Kept next)
    {n : Nat} {r : Reading} {t : Text} {e : Expr} (done : run n r t = .ok e) (kept : Kept r.outermost) :
    ∃ level, Kept level ∧ e = level.close := by
  induction n generalizing r t with
  | zero => exact ⟨r.outermost, kept, finish_outermost done⟩
  | succ n ih =>
      rw [run] at done
      cases rest : skip r.verbose t with
      | nil =>
          rw [rest] at done
          exact ⟨r.outermost, kept, finish_outermost done⟩
      | cons c rest =>
          simp only [rest] at done
          obtain ⟨⟨next, more⟩, stepped, later⟩ := Lookup.bind_ok_iff.mp done
          exact ih later (keeps (step_goes stepped) kept)

end Reading

end PolicyLookup.Regex
