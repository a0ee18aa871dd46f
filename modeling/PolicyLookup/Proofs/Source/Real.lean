import PolicyLookup.Proofs.Glob.Reach
import PolicyLookup.Proofs.Source.Spelling

set_option autoImplicit false

namespace PolicyLookup

structure Disk.RealFile (disk : Disk) (place : Place) (extension : Text) (path : Path) : Prop where
  file : ∃ start last name content, path = Path.ofNames (place ++ start ++ [last]) ∧
    disk.root.at? (place ++ start ++ [last]) = some (.file content) ∧
    Utf8.decode? last = some name ∧ '.' :: extension <:+ name
  fits : path.Fits

namespace Root

theorem of_place {place : Place} (plain : ∀ n ∈ place, n.Plain) {text : Text}
    (spells : (Path.ofNames place).text? = some text) :
    (ofText text).Spelled ∧ (ofText text).absolute = true ∧ (ofText text).place = place := by
  have bytes : (Path.ofNames place).bytes = Utf8.encode text := (Utf8.decode_iff _ _).mp spells
  have something : text ≠ [] := by
    rintro rfl
    exact Path.of_names_some place bytes
  have spelled := of_text_spelled something
  have path : (ofText text).path = Path.ofNames place := by
    rw [path_of_text, Path.ofText, ← bytes]
  have something : (ofText text).path.bytes ≠ [] := by
    rw [path]
    exact Path.of_names_some place
  have absolute : (ofText text).absolute = true := by
    rw [← path_absolute spelled something, path]
    cases place <;> rfl
  refine ⟨spelled, absolute, ?_⟩
  by_cases top : place = []
  · subst top
    obtain rfl : text = ['/'] := Utf8.encode_inj bytes.symm
    rfl
  · have parts := path_parts spelled something
    rw [path, Path.of_names_parts plain top, absolute] at parts
    have cut : place = (ofText text).place ++ List.replicate (ofText text).slashes [] := (List.cons.inj parts).2
    cases slashes : (ofText text).slashes with
    | zero =>
        rw [slashes] at cut
        simpa using cut.symm
    | succ n =>
        have empty : [] ∈ place := by
          rw [cut, slashes]
          simp
        exact absurd rfl (plain [] empty).something

end Root

namespace Folder

variable {disk : Disk} {place : Place} {entries : Entries} {extension : Text}

theorem matches_extension {last : Name} {name : Text} (decoded : Utf8.decode? last = some name)
    (ends : '.' :: extension <:+ name) {entry : Glob.Entry} (named : entry.name = last) :
    Glob.matchesEntry (.run :: Glob.tokensOf ('.' :: extension)) entry = true := by
  rw [Glob.matches_entry_run, named]
  exact ⟨name, decoded, ends⟩

theorem real_file_searched (named : disk.root.Named) (there : disk.root.at? place = some (.folder entries))
    {r : Root} (absolute : r.absolute = true) (same : r.place = place) {path : Path}
    (real : disk.RealFile place extension path) :
    path ∈ (Glob.found ((Glob.Pattern.mk r.absolute (r.parts extension) false).search disk)).filter disk.isFile := by
  subst same
  obtain ⟨start, last, name, content, rfl, file, decoded, ends⟩ := real.file
  have plain := Disk.place_plain named file
  have fitsAbove := Path.of_names_fits plain real.fits
  have fitsPlace : (Path.ofNames r.place).Fits :=
    Path.of_names_fits (fun n member => plain n (List.mem_append_left _ member)) fitsAbove
  have short : start.length < Disk.longestPath := by
    have bound := Nat.le_trans (Path.length_of_names plain) real.fits
    simp only [List.length_append, List.length_singleton] at bound
    omega
  have isFile : disk.isFile (Path.ofNames (r.place ++ start ++ [last])) = true :=
    (Disk.leads_real named file fun _ => Node.noConfusion).is_file.mpr ⟨real.fits, content, rfl⟩
  have below : Except.ok (Path.ofNames (r.place ++ start ++ [last])) ∈
      Glob.walk disk false [[.folders], .run :: Glob.tokensOf ('.' :: extension)] ⟨Path.ofNames r.place, true⟩ := by
    obtain ⟨entry, listed, isLast, isPath⟩ := Glob.mem_listed_real named file fitsAbove short
    have inWalk : Path.ofNames (r.place ++ start ++ [last]) ∈ Glob.found
        (Glob.walk disk false [[.folders], .run :: Glob.tokensOf ('.' :: extension)] ⟨Path.ofNames r.place, true⟩) := by
      rw [Glob.walk_below]
      exact List.mem_map.mpr ⟨entry, List.mem_filter.mpr ⟨listed, matches_extension decoded ends isLast⟩, isPath⟩
    exact Glob.mem_found.mp inWalk
  have onward : Except.ok (Path.ofNames (r.place ++ start ++ [last])) ∈
      Glob.walk disk false (r.parts extension) ⟨Path.ofNames [], true⟩ :=
    Glob.mem_walk_names named false there fitsPlace (List.cons_ne_nil _ _) below
  have top : disk.root.at? [] = some (.folder disk.root) := rfl
  have begins : Glob.stopAt disk (Path.ofNames []) = ⟨Path.ofNames [], true⟩ :=
    Glob.stop_at_folder (Disk.leads_real named top fun _ => Node.noConfusion) (Path.top_fits true)
  refine List.mem_filter.mpr ⟨Glob.mem_found.mpr ?_, isFile⟩
  rw [Glob.Pattern.search, absolute]
  exact begins ▸ onward

theorem files_in_real (named : disk.root.Named) (there : disk.root.at? place = some (.folder entries)) {text : Text}
    (spells : (Path.ofNames place).text? = some text) (free : ∀ c ∈ extension, Config.isReserved c = false) :
    ∃ files, filesIn disk (Path.ofNames place) extension = .ok files ∧
      ∀ path, disk.RealFile place extension path → path ∈ files := by
  obtain ⟨spelled, absolute, same⟩ := Root.of_place (Disk.place_plain named there) spells
  have pattern := Glob.pattern_of_root spelled free
  rw [Root.text_of_text] at pattern
  refine ⟨_, ?_, fun path real => real_file_searched named there absolute same real⟩
  rw [filesIn]
  simp only [spells, pattern, Glob.found]

end Folder

end PolicyLookup
