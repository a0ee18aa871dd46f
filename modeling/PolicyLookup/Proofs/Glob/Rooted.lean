import PolicyLookup.Proofs.Glob.Escaped
import PolicyLookup.Proofs.Text.Slashes
import PolicyLookup.Source.Folder

set_option autoImplicit false

namespace PolicyLookup

-- Names with single slashes between them, one in front when the path is
-- absolute, and any number of slashes at the end.
structure Root where
  absolute : Bool
  names : List Text
  slashes : Nat

namespace Root

def bare (r : Root) : Text := joined '/' r.absolute r.names

def text (r : Root) : Text := r.bare ++ List.replicate r.slashes '/'

def path (r : Root) : Path := Path.ofText r.text

example : text ⟨true, ["a".toList, "b*".toList], 1⟩ = "/a/b*/".toList := by decide

example : text ⟨false, ["a".toList, "b*".toList], 0⟩ = "a/b*".toList := by decide

structure PlainText (name : Text) : Prop where
  something : name ≠ []
  notHere : name ≠ ".".toList
  notUp : name ≠ "..".toList
  noSlash : '/' ∉ name

structure Sound (r : Root) : Prop where
  plain : ∀ name ∈ r.names, PlainText name
  begins : r.absolute = true ∨ r.names ≠ []

-- The text begins and ends with its names: any names between slashes, dots and empty ones
-- included, as long as no slash counts as part of the front or of the end.
structure Spelled (r : Root) : Prop where
  noSlash : ∀ name ∈ r.names, '/' ∉ name
  begins : r.absolute = true ∨ r.names ≠ []
  first : r.absolute = true ∨ ∀ name ∈ r.names.head?, name ≠ []
  last : ∀ name ∈ r.names.getLast?, name ≠ []

theorem Sound.spelled {r : Root} (sound : r.Sound) : r.Spelled where
  noSlash name member := (sound.plain name member).noSlash
  begins := sound.begins
  first := Or.inr fun name first => (sound.plain name (List.mem_of_head? first)).something
  last name last := (sound.plain name (List.mem_of_getLast? last)).something

theorem bare_ends (r : Root) (spelled : r.Spelled) : ∀ c ∈ r.bare.getLast?, c ≠ '/' := by
  intro c last
  by_cases none : r.names = []
  · rw [bare, none] at last
    cases absolute : r.absolute <;> rw [absolute] at last <;> contradiction
  · obtain ⟨before, b, ends, other⟩ := joined_ends r.absolute none fun name last =>
      ⟨spelled.last name last, spelled.noSlash name (List.mem_of_getLast? last)⟩
    rw [bare, ends] at last
    have same : b = c := by simpa using last
    exact same ▸ other

theorem trim_slashes (r : Root) (spelled : r.Spelled) :
    (r.text.reverse.dropWhile (· == '/')).reverse = r.bare := by
  have drop : ∀ slashes t, (∀ c ∈ List.getLast? t, c ≠ '/') →
      ((t ++ List.replicate slashes '/').reverse.dropWhile (· == '/')).reverse = t := by
    intro slashes t ends
    rw [List.reverse_append, List.reverse_replicate]
    induction slashes with
    | zero =>
        rcases List.eq_nil_or_concat t with rfl | ⟨start, c, rfl⟩
        · rfl
        · have other : c ≠ '/' := ends c (by simp)
          simp [other]
    | succ slashes ih =>
        rw [List.replicate_succ, List.cons_append, List.dropWhile_cons_of_pos (by rfl)]
        exact ih
  exact drop r.slashes r.bare (bare_ends r spelled)

def partTexts (r : Root) (extension : Text) : List Text :=
  r.names.map Glob.escape ++ ["**".toList, '*' :: '.' :: extension]

def parts (r : Root) (extension : Text) : List (List Glob.Token) :=
  r.names.map Glob.tokensOf ++ [[.folders], .run :: Glob.tokensOf ('.' :: extension)]

section

variable {r : Root} {extension : Text}

theorem pattern_text (spelled : r.Spelled) (extension : Text) :
    Folder.patternFor r.text extension = joined '/' r.absolute (r.partTexts extension) := by
  have escaped : Glob.escape r.bare = joined '/' r.absolute (r.names.map Glob.escape) :=
    @joined_flat_map _ '/' _ '/' (fun c => if c = '?' ∨ c = '*' ∨ c = '[' ∨ c = ']' then ['[', c, ']'] else [c])
      rfl r.absolute r.names
  have begins : r.absolute = true ∨ r.names.map Glob.escape ≠ [] := by simpa using spelled.begins
  rw [Folder.patternFor, trim_slashes r spelled, escaped, partTexts, joined_append begins, List.append_assoc]
  simp [slashed]

theorem part_texts_free (spelled : r.Spelled) (free : ∀ c ∈ extension, Config.isReserved c = false) :
    ∀ part ∈ r.partTexts extension, '/' ∉ part := by
  intro part member
  rcases List.mem_append.mp member with inRoot | last
  · obtain ⟨name, inside, rfl⟩ := List.mem_map.mp inRoot
    exact fun slash => spelled.noSlash name inside (Glob.slash_in_escape slash)
  · have noSlash : '/' ∉ extension := by
      intro slash
      exact absurd (free '/' slash) (by decide)
    have which : part = "**".toList ∨ part = '*' :: '.' :: extension := by simpa using last
    rcases which with rfl | rfl
    · decide
    · simpa using noSlash

theorem part_texts_first (spelled : r.Spelled) (extension : Text) :
    r.absolute = true ∨ ∀ part ∈ (r.partTexts extension).head?, part ≠ [] := by
  rcases spelled.first with absolute | something
  · exact Or.inl absolute
  · refine Or.inr fun part first => ?_
    cases names : r.names with
    | nil =>
        rw [partTexts, names] at first
        obtain rfl : "**".toList = part := by simpa using first
        decide
    | cons name more =>
        rw [partTexts, names] at first
        obtain rfl : Glob.escape name = part := by simpa using first
        exact Glob.escape_ne_nil (something name (by rw [names]; rfl))

theorem part_texts_last (r : Root) (extension : Text) :
    (r.partTexts extension).getLast? = some ('*' :: '.' :: extension) := by
  simp [partTexts]

theorem unreserved_plain {c : Char} (free : Config.isReserved c = false) : ¬ Glob.IsSpecial c := by
  rintro (rfl | rfl | rfl | rfl) <;> exact absurd free (by decide)

theorem escape_extension (free : ∀ c ∈ extension, Config.isReserved c = false) :
    Glob.escape ('.' :: extension) = '.' :: extension := by
  apply Glob.escape_free
  intro c member
  rcases List.mem_cons.mp member with rfl | inside
  · decide
  · exact unreserved_plain (free c inside)

theorem read_last (free : ∀ c ∈ extension, Config.isReserved c = false) :
    Glob.read ('*' :: '.' :: extension) = .ok (.run :: Glob.tokensOf ('.' :: extension)) := by
  obtain ⟨next, last, reads⟩ := Glob.read_escape ('.' :: extension) 1 (some '*')
  have whole := reads []
  rw [List.append_nil, escape_extension free] at whole
  rw [Glob.read, Glob.read_run, whole, Glob.readFrom]
  change Except.ok (.run :: (Glob.tokensOf ('.' :: extension) ++ [])) = _
  rw [List.append_nil]

theorem read_whole (spelled : r.Spelled) (free : ∀ c ∈ extension, Config.isReserved c = false) :
    ∃ tokens, Glob.read (Folder.patternFor r.text extension) = .ok tokens := by
  have text : Folder.patternFor r.text extension =
      Glob.escape r.bare ++ '/' :: '*' :: '*' :: '/' :: '*' :: '.' :: extension := by
    rw [Folder.patternFor, trim_slashes r spelled, List.append_assoc]
    rfl
  obtain ⟨next, before, reads⟩ := Glob.read_escape r.bare 0 none
  obtain ⟨final, last, readsLast⟩ := Glob.read_escape ('.' :: extension) (next + 4 + 1) (some '*')
  have tail := readsLast []
  rw [List.append_nil, escape_extension free] at tail
  rw [text, Glob.read, reads, Glob.read_folders, Glob.read_run, tail, Glob.readFrom]
  exact ⟨_, rfl⟩

theorem read_parts (r : Root) (free : ∀ c ∈ extension, Config.isReserved c = false) :
    (r.partTexts extension).mapM Glob.read = .ok (r.parts extension) := by
  have inRoot : ∀ (names : List Text) more parts, List.mapM Glob.read more = .ok parts →
      (names.map Glob.escape ++ more).mapM Glob.read = .ok (names.map Glob.tokensOf ++ parts) := by
    intro names more parts rest
    induction names with
    | nil => exact rest
    | cons name names ih =>
        rw [List.map_cons, List.cons_append, List.mapM_cons, Glob.read_name, ih]
        rfl
  apply inRoot
  have folders : Glob.read "**".toList = .ok [.folders] := rfl
  rw [List.mapM_cons, folders, List.mapM_cons, read_last free]
  rfl

end

end Root

namespace Glob

theorem parts_of_pieces {t : Text} {pieces : List Text} (split : t.splitOn '/' = pieces)
    (solid : ∀ p ∈ pieces.getLast?, p ≠ []) : partsOf t = pieces := by
  rw [partsOf, split]
  split
  · next before backwards =>
      have last : [] ∈ pieces.getLast? := by rw [← List.head?_reverse, backwards]; rfl
      exact absurd rfl (solid [] last)
  · rfl

theorem pattern_of_root {r : Root} {extension : Text} (spelled : r.Spelled)
    (free : ∀ c ∈ extension, Config.isReserved c = false) :
    Pattern.ofText (Folder.patternFor r.text extension) = .ok ⟨r.absolute, r.parts extension, false⟩ := by
  obtain ⟨tokens, whole⟩ := Root.read_whole spelled free
  have noSlashes := Root.part_texts_free spelled free
  have something : r.partTexts extension ≠ [] := by simp [Root.partTexts]
  have first : r.absolute = true ∨ ∀ part ∈ (r.partTexts extension).head?, part ≠ [] ∧ '/' ∉ part :=
    (Root.part_texts_first spelled extension).imp_right fun inside part head =>
      ⟨inside part head, noSlashes part (List.mem_of_head? head)⟩
  have final : ∀ part ∈ (r.partTexts extension).getLast?, part ≠ [] := by
    intro part last
    rw [Root.part_texts_last] at last
    obtain rfl := Option.some.inj last
    exact List.cons_ne_nil _ _
  have text := Root.pattern_text spelled extension
  obtain ⟨before, last, ends, other⟩ := joined_ends r.absolute something fun part last =>
    ⟨final part last, noSlashes part (List.mem_of_getLast? last)⟩
  have notRoot : Folder.patternFor r.text extension ≠ ['/'] := by
    intro alone
    rw [text, ends] at alone
    have same := congrArg List.getLast? alone
    exact other (by simpa using same)
  have noSlash : ((Folder.patternFor r.text extension).getLast? == some '/') = false := by
    rw [text, ends]
    simpa using other
  have split : (joined '/' false (r.partTexts extension)).splitOn '/' = r.partTexts extension :=
    split_joined false something noSlashes
  have cut := parts_of_pieces split final
  have absolute : ((Folder.patternFor r.text extension).head? == some '/') = r.absolute := by
    rw [text]
    exact joined_head r.absolute something first
  have inner : (if r.absolute then (Folder.patternFor r.text extension).drop 1
      else Folder.patternFor r.text extension) = joined '/' false (r.partTexts extension) := by
    rw [text]
    exact joined_drop r.absolute something
  have read := Root.read_parts r free
  simp only [Pattern.ofText, whole, bind, Except.bind, absolute, inner, cut, read, if_neg notRoot, noSlash]

end Glob

end PolicyLookup
