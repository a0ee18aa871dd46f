import PolicyLookup.Proofs.Disk.Leads
import PolicyLookup.Proofs.Lookup.Run
import PolicyLookup.Proofs.Path.Same

set_option autoImplicit false

namespace PolicyLookup.Disk

-- Parts, and the same without some of those that lead nowhere.
inductive Barer : List Bytes → List Bytes → Prop
  | nil : Barer [] []
  | stay (part : Bytes) (fewer more : List Bytes) (idle : Path.isSolid part = false) (rest : Barer fewer more) :
      Barer fewer (part :: more)
  | go (part : Bytes) (fewer more : List Bytes) (rest : Barer fewer more) : Barer (part :: fewer) (part :: more)

namespace Barer

theorem behind (parts : List Bytes) {fewer more : List Bytes} (barer : Barer fewer more) :
    Barer (parts ++ fewer) (parts ++ more) := by
  induction parts with
  | nil => exact barer
  | cons part parts ih => exact .go part _ _ ih

theorem solid (parts : List Bytes) : Barer (parts.filter Path.isSolid) parts := by
  induction parts with
  | nil => exact .nil
  | cons part parts ih =>
      cases solid : Path.isSolid part with
      | true =>
          rw [List.filter_cons_of_pos solid]
          exact .go part _ _ ih
      | false =>
          rw [List.filter_cons_of_neg (by simp [solid])]
          exact .stay part _ _ solid ih

end Barer

section

variable {root : Entries} {fewer more : List Bytes} {place reached : Place}

theorem descend_barer {onLink onBarer : Place → List Bytes → Except ReadFault Place}
    (links : ∀ place fewer more reached, Barer fewer more → onLink place more = .ok reached →
      onBarer place fewer = .ok reached)
    (barer : Barer fewer more) (arrives : descend root false onLink place more = .ok reached) :
    descend root false onBarer place fewer = .ok reached := by
  induction barer generalizing place with
  | nil => exact arrives
  | stay part fewer more idle _ ih =>
      obtain ⟨inner, here⟩ := descend_folder arrives
      rw [descend.eq_def] at arrives
      simp only [here, if_pos ((Path.idle_iff part).mp idle)] at arrives
      exact ih arrives
  | go part fewer more rest ih =>
      obtain ⟨inner, here⟩ := descend_folder arrives
      rw [descend.eq_def] at arrives ⊢
      simp only [here] at arrives ⊢
      by_cases stays : part = [] ∨ part = Name.here
      · rw [if_pos stays] at arrives ⊢
        exact ih arrives
      · rw [if_neg stays] at arrives ⊢
        by_cases up : part = Name.up
        · rw [if_pos up] at arrives ⊢
          exact ih arrives
        · rw [if_neg up] at arrives ⊢
          by_cases long : longestName < part.length
          · rw [if_pos long] at arrives
            contradiction
          · rw [if_neg long] at arrives ⊢
            cases found : inner.find? part with
            | none =>
                rw [found] at arrives
                contradiction
            | some node =>
                rw [found] at arrives
                cases node with
                | file content => exact ih arrives
                | folder entries => exact ih arrives
                | link target => exact links _ _ _ _ (.behind target.parts rest) arrives

theorem follow_barer (allowance : Nat) (barer : Barer fewer more)
    (arrives : follow root false allowance place more = .ok reached) :
    follow root false allowance place fewer = .ok reached := by
  induction allowance generalizing place fewer more reached with
  | zero =>
      refine descend_barer ?_ barer arrives
      intro _ _ _ _ _ impossible
      contradiction
  | succ allowance ih => exact descend_barer (fun _ _ _ _ barer arrives => ih barer arrives) barer arrives

end

section

variable {disk : Disk} {p q : Path}

theorem follow_way {place : Place} (located : disk.locate false p = .ok place) :
    follow disk.root false linkAllowance (disk.start p.isAbsolute) p.way = .ok place :=
  follow_barer linkAllowance (.solid p.parts) (locate_ok located).2.2

theorem locate_same (same : p.same q = true) {place other : Place} (first : disk.locate false p = .ok place)
    (second : disk.locate false q = .ok other) : place = other := by
  have along := follow_way first
  rw [((Path.same_iff p q).mp same).2, Path.absolute_of_same same, follow_way second] at along
  exact (Except.ok.inj along).symm

theorem read_text_same (same : p.same q = true) {text other : Text} (first : disk.readText p = .ok text)
    (second : disk.readText q = .ok other) : text = other := by
  obtain ⟨place, located, read⟩ := Lookup.bind_ok_iff.mp first
  obtain ⟨otherPlace, locatedToo, readToo⟩ := Lookup.bind_ok_iff.mp second
  rw [locate_same same located locatedToo, readToo] at read
  exact (Except.ok.inj read).symm

end

end PolicyLookup.Disk
