import PolicyLookup.Proofs.Construct.Carving
import PolicyLookup.Proofs.Declaration.Call

set_option autoImplicit false

namespace PolicyLookup

inductive Body where
  | block (rows : List Text)
  | inline (rest : Text)

structure Written where
  keyword : Keyword
  name : Text
  body : Body

namespace Body

def shape : Body → Shape
  | .block _ => .block
  | .inline _ => .singleLine

def afterName : Body → Text
  | .block _ => ",`".toList
  | .inline rest => ", ".toList ++ rest ++ ")".toList

def below : Body → List Text
  | .block rows => rows ++ ["')".toList]
  | .inline _ => []

end Body

namespace Written

def header (d : Written) : Text := d.keyword.opening d.name ++ d.body.afterName

def rows (d : Written) : List Text := d.header :: d.body.below

def render (d : Written) : Text := Text.layRows d.rows

example : render ⟨.interface, "a.b".toList, .block ["x".toList]⟩ = "interface(`a.b',`\nx\n')\n".toList := by
  decide

example : render ⟨.define, "a".toList, .inline "1".toList⟩ = "define(`a', 1)\n".toList := by
  decide

end Written

def Body.Sound : Body → Prop
  | .block rows => ∀ row ∈ rows,
      '\n' ∉ row ∧ row ≠ "')".toList ∧ row ≠ "')\r".toList ∧ HeaderFree row
  | .inline rest => '\n' ∉ rest ∧ HeaderFree rest

structure Written.Sound (d : Written) : Prop where
  nameSome : d.name ≠ []
  nameSingle : '\n' ∉ d.name
  nameOpen : '\x60' ∉ d.name
  nameClose : '\'' ∉ d.name
  body : d.body.Sound

namespace Body

theorem below_sound {body : Body} (sound : body.Sound) :
    ∀ row ∈ body.below, '\n' ∉ row ∧ HeaderFree row := by
  intro row member
  cases body with
  | inline rest => contradiction
  | block rows =>
      rcases List.mem_append.mp member with inside | closing
      · obtain ⟨single, _, _, free⟩ := sound row inside
        exact ⟨single, free⟩
      · obtain rfl := List.mem_singleton.mp closing
        exact ⟨by decide, fun k => k.not_infix_of_short (by decide)⟩

theorem after_name_sound {body : Body} (sound : body.Sound) :
    '\n' ∉ body.afterName ∧ HeaderFree body.afterName := by
  cases body with
  | block rows => exact ⟨by simp [afterName], fun k => k.not_infix_of_short (by simp [afterName])⟩
  | inline rest =>
      obtain ⟨single, free⟩ := sound
      refine ⟨by simpa [afterName] using single, ?_⟩
      intro k there
      have blank : ' ' ∉ k.header := k.header_free_of (by decide)
      have closing : ')' ∉ k.header := k.header_free_of (by decide)
      have split : k.header <:+: [','] ++ ' ' :: (rest ++ ')' :: []) := by
        simpa [afterName] using there
      rcases Text.infix_beside split blank with comma | later
      · exact k.not_infix_of_short (by decide) comma
      · rcases Text.infix_beside later closing with inside | nothing
        · exact free k inside
        · exact k.not_infix_of_short (by decide) nothing

end Body

namespace Written

theorem rows_single {d : Written} (sound : d.Sound) : ∀ row ∈ d.rows, '\n' ∉ row := by
  intro row member
  rcases List.mem_cons.mp member with rfl | inside
  · have afterName := (Body.after_name_sound sound.body).1
    have opening : '\n' ∉ d.keyword.header := d.keyword.header_free_of (by decide)
    simp [header, Keyword.opening, opening, sound.nameSingle, afterName]
  · exact (Body.below_sound sound.body row inside).1

theorem header_call (d : Written) : d.header = call d.keyword.text d.name d.body.afterName := by
  simp [header, Keyword.opening, Keyword.header, call]

theorem opening_in_header {d : Written} (sound : d.Sound) {name : Text} (closed : '\'' ∉ name)
    {k : Keyword} (there : k.opening name <:+: d.header) : name = d.name := by
  rw [header_call] at there
  obtain ⟨before, opens⟩ := Text.infix_iff_before.mp there
  have unquoted : '\x60' ∉ d.keyword.text := by cases d.keyword <;> decide
  exact (Keyword.opening_in_call unquoted sound.nameOpen sound.nameClose closed
    (Body.after_name_sound sound.body).2 opens).2

theorem opening_in_rows {d : Written} (sound : d.Sound) {name : Text} (closed : '\'' ∉ name)
    {k : Keyword} {row : Text} (member : row ∈ d.rows) (there : k.opening name <:+: row) :
    name = d.name := by
  rcases List.mem_cons.mp member with rfl | inside
  · exact opening_in_header sound closed there
  · have free := (Body.below_sound sound.body row inside).2 k
    exact absurd ((k.header_of_opening name).trans there) free

theorem closes_row (row : Text) : Closes (row ++ ['\n']) ↔ row = "')".toList ∨ row = "')\r".toList := by
  constructor
  · rintro (short | line | returned)
    · have ends := congrArg List.getLast? short
      simp at ends
    · have split : row ++ ['\n'] = "')".toList ++ ['\n'] := line
      exact Or.inl ((List.append_left_inj _).mp split)
    · have split : row ++ ['\n'] = "')\r".toList ++ ['\n'] := returned
      exact Or.inr ((List.append_left_inj _).mp split)
  · rintro (rfl | rfl)
    · exact Or.inr (Or.inl rfl)
    · exact Or.inr (Or.inr rfl)

theorem header_not_closing (d : Written) : ¬ Closes (d.header ++ ['\n']) := by
  have long : 8 ≤ d.header.length := by
    have bound := d.keyword.header_length
    simp only [header, Keyword.opening, List.length_append]
    omega
  rw [closes_row]
  rintro (same | same)
  · rw [same] at long
    exact absurd long (by decide)
  · rw [same] at long
    exact absurd long (by decide)

theorem inner_not_closing {d : Written} (sound : d.Sound) {inner : List Text} (isBlock : d.body = .block inner) :
    ∀ line ∈ (d.header ++ ['\n']) :: inner.map (· ++ ['\n']), ¬ Closes line := by
  have bodySound := sound.body
  rw [isBlock] at bodySound
  refine List.forall_mem_cons.mpr ⟨d.header_not_closing, ?_⟩
  rw [List.forall_mem_map]
  intro row member
  obtain ⟨_, plain, returned, _⟩ := bodySound row member
  rw [closes_row, not_or]
  exact ⟨plain, returned⟩

theorem inline_shut {d : Written} {rest : Text} (isInline : d.body = .inline rest) :
    ¬ LeavesOpen (d.header ++ ['\n']) := by
  have ends : d.header = (d.keyword.opening d.name ++ (", ".toList ++ rest)) ++ [')'] := by
    simp [header, isInline, Body.afterName]
  have newline : Text.isBlank '\n' = true := rfl
  have solid : Text.isBlank ')' = false := rfl
  rw [← Construct.opens_block_iff, Construct.opensBlock, Text.trim_last, ends]
  simp [newline, solid]

theorem carved {d : Written} (sound : d.Sound) : Carved d.body.shape (d.rows.map (· ++ ['\n'])) := by
  have shapes : (∃ inner, d.body = .block inner) ∨ ∃ rest, d.body = .inline rest := by
    cases d.body with
    | block inner => exact Or.inl ⟨inner, rfl⟩
    | inline rest => exact Or.inr ⟨rest, rfl⟩
  rcases shapes with ⟨inner, isBlock⟩ | ⟨rest, isInline⟩
  · have left : LeavesOpen (d.header ++ ['\n']) :=
      ⟨d.keyword.opening d.name ++ [','], ['\n'], by simp [header, isBlock, Body.afterName],
        List.forall_mem_singleton.mpr rfl⟩
    have lines : d.rows.map (· ++ ['\n']) =
        (d.header ++ ['\n']) :: inner.map (· ++ ['\n']) ++ ["')".toList ++ ['\n']] := by
      simp [rows, isBlock, Body.below]
    rw [lines, isBlock]
    exact .block _ _ _ left (inner_not_closing sound isBlock) (Or.inr (Or.inl rfl))
  · have lines : d.rows.map (· ++ ['\n']) = [d.header ++ ['\n']] := by simp [rows, isInline, Body.below]
    rw [lines, isInline]
    exact .singleLine _ (inline_shut isInline)

theorem of_lines_rows {d : Written} (sound : d.Sound) (place : Location) (above below : List Text)
    (here : place.line = above.length) :
    Construct.ofLines place (above ++ (d.rows.map (· ++ ['\n']) ++ below)) =
      .ok ⟨place, d.body.shape, d.render⟩ := by
  rw [← List.append_assoc, Construct.of_lines_carved (carved sound) here.symm below, render, Text.layRows,
    List.flatMap_def]

end Written

end PolicyLookup
