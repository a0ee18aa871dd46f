import PolicyLookup.Glob.Walk
import PolicyLookup.Proofs.Text.Slashes

set_option autoImplicit false

namespace PolicyLookup

structure Name.Plain (name : Name) : Prop where
  something : name ≠ []
  notHere : name ≠ Name.here
  notUp : name ≠ Name.up
  noSlash : Path.slash ∉ name

structure Name.Proper (name : Name) : Prop extends Name.Plain name where
  noZero : 0 ∉ name
  short : name.length ≤ Disk.longestName

namespace Path

theorem eq_of_parts {p q : Path} (same : p.parts = q.parts) : p = q := by
  have bytes : p.bytes = q.bytes := by
    rw [← joined_split slash p.bytes, ← joined_split slash q.bytes]
    exact congrArg (joined slash false) same
  cases p
  cases q
  exact congrArg Path.mk bytes

def top (absolute : Bool) : Path := if absolute then ⟨[slash]⟩ else ⟨Name.here⟩

theorem top_some (absolute : Bool) : (top absolute).bytes ≠ [] := by
  cases absolute <;> exact List.cons_ne_nil _ _

theorem length_top (absolute : Bool) : (top absolute).bytes.length = 1 := by
  cases absolute <;> rfl

def along (path : Path) (parts : List Bytes) : Path := parts.foldl Glob.entryPath path

-- The parts that stay in front of an entry. The dot of the folder that a walk begins in goes, and so
-- does the empty part behind a slash at the end.
def front (path : Path) : List Bytes :=
  if path = Glob.here then []
  else if path.endsInSlash then path.parts.dropLast
  else path.parts

theorem along_cons (path : Path) (part : Bytes) (rest : List Bytes) :
    path.along (part :: rest) = (Glob.entryPath path part).along rest := rfl

theorem along_append (path : Path) (parts more : List Bytes) :
    path.along (parts ++ more) = (path.along parts).along more := List.foldl_append

section

variable {path : Path} {part : Bytes}

theorem head_of_free (free : slash ∉ part) : (part.head? == some slash) = false := by
  cases part with
  | nil => rfl
  | cons b rest =>
      rw [List.mem_cons, not_or] at free
      simpa using Ne.symm free.1

-- What one part does to a path. All that is said of entries below is read off these three cases.
theorem entry_cases (something : path.bytes ≠ []) (free : slash ∉ part) :
    (path = Glob.here ∧ (Glob.entryPath path part).bytes = part) ∨
    (path ≠ Glob.here ∧ ∃ before, path.bytes = before ++ [slash] ∧
      (Glob.entryPath path part).bytes = before ++ slash :: part) ∨
    (path ≠ Glob.here ∧ path.endsInSlash = false ∧
      (Glob.entryPath path part).bytes = path.bytes ++ slash :: part) := by
  by_cases here : path = Glob.here
  · refine Or.inl ⟨here, ?_⟩
    rw [Glob.entryPath, if_pos here]
  · have isEmpty : path.bytes.isEmpty = false := by simpa using something
    rw [Glob.entryPath, if_neg here, join, head_of_free free, isEmpty]
    cases ends : path.endsInSlash with
    | true =>
        have last : path.bytes.getLast? = some slash := by simpa [endsInSlash] using ends
        obtain ⟨before, split⟩ := List.getLast?_eq_some_iff.mp last
        refine Or.inr (Or.inl ⟨here, before, split, ?_⟩)
        simp [split]
    | false => exact Or.inr (Or.inr ⟨here, rfl, rfl⟩)

theorem entry_some (something : path.bytes ≠ []) (free : slash ∉ part) (moves : path ≠ Glob.here ∨ part ≠ []) :
    (Glob.entryPath path part).bytes ≠ [] := by
  rcases entry_cases something free with ⟨here, bytes⟩ | ⟨_, before, _, bytes⟩ | ⟨_, _, bytes⟩
  · rw [bytes]
    exact moves.resolve_left (not_not_intro here)
  · simp [bytes]
  · simp [bytes]

theorem entry_front (something : path.bytes ≠ []) (free : slash ∉ part) :
    (Glob.entryPath path part).parts = path.front ++ [part] := by
  have single := List.splitOn_eq_singleton free
  rcases entry_cases something free with ⟨here, bytes⟩ | ⟨notHere, before, split, bytes⟩ | ⟨notHere, ends, bytes⟩
  · rw [parts, bytes, single, front, if_pos here, List.nil_append]
  · have ends : path.endsInSlash = true := by
      rw [endsInSlash, split]
      simp
    have above : path.parts = before.splitOn slash ++ [[]] := by
      rw [parts, split, List.splitOn_append_cons_self, List.splitOn_nil]
    rw [parts, bytes, List.splitOn_append_cons_self, single, front, if_neg notHere, if_pos ends, above,
      List.dropLast_concat]
  · rw [parts, bytes, List.splitOn_append_cons_self, single, front, if_neg notHere, ends]
    rfl

theorem entry_absolute (something : path.bytes ≠ []) (free : slash ∉ part) :
    (Glob.entryPath path part).isAbsolute = path.isAbsolute := by
  rcases entry_cases something free with ⟨rfl, bytes⟩ | ⟨_, before, split, bytes⟩ | ⟨_, _, bytes⟩
  · rw [isAbsolute, bytes, head_of_free free]
    rfl
  · rw [isAbsolute, isAbsolute, bytes, split]
    cases before <;> rfl
  · obtain ⟨b, rest, split⟩ := List.exists_cons_of_ne_nil something
    rw [isAbsolute, isAbsolute, bytes, split]
    rfl

theorem entry_ne_here (something : path.bytes ≠ []) (free : slash ∉ part) (notHere : path ≠ Glob.here) :
    Glob.entryPath path part ≠ Glob.here := by
  intro same
  have inside : slash ∈ (Glob.entryPath path part).bytes := by
    rcases entry_cases something free with ⟨here, _⟩ | ⟨_, _, _, bytes⟩ | ⟨_, _, bytes⟩
    · exact absurd here notHere
    · simp [bytes]
    · simp [bytes]
  rw [same] at inside
  exact absurd inside (by decide)

theorem mem_entry (something : path.bytes ≠ []) (free : slash ∉ part) {b : UInt8}
    (member : b ∈ (Glob.entryPath path part).bytes) : b ∈ path.bytes ∨ b = slash ∨ b ∈ part := by
  rcases entry_cases something free with ⟨_, bytes⟩ | ⟨_, before, split, bytes⟩ | ⟨_, _, bytes⟩
  · rw [bytes] at member
    exact Or.inr (Or.inr member)
  · rw [bytes, List.mem_append, List.mem_cons] at member
    rw [split]
    exact member.imp_left (List.mem_append_left _)
  · rw [bytes, List.mem_append, List.mem_cons] at member
    exact member

theorem length_entry_le (something : path.bytes ≠ []) (free : slash ∉ part) :
    (Glob.entryPath path part).bytes.length ≤ path.bytes.length + (part.length + 1) := by
  rcases entry_cases something free with ⟨_, bytes⟩ | ⟨_, before, split, bytes⟩ | ⟨_, _, bytes⟩
  · rw [bytes]
    omega
  · rw [bytes, split, List.length_append, List.length_append, List.length_singleton, List.length_cons]
    omega
  · have whole := congrArg List.length bytes
    rw [List.length_append, List.length_cons] at whole
    exact Nat.le_of_eq whole

theorem length_entry_beside (something : path.bytes ≠ []) (free : slash ∉ part) (notHere : path ≠ Glob.here) :
    path.bytes.length + part.length ≤ (Glob.entryPath path part).bytes.length := by
  rcases entry_cases something free with ⟨here, _⟩ | ⟨_, before, split, bytes⟩ | ⟨_, _, bytes⟩
  · contradiction
  · rw [bytes, split, List.length_append, List.length_append, List.length_singleton, List.length_cons]
    omega
  · rw [bytes, List.length_append, List.length_cons]
    omega

theorem length_entry (something : path.bytes ≠ []) (free : slash ∉ part) (moves : path ≠ Glob.here ∨ part ≠ []) :
    path.bytes.length ≤ (Glob.entryPath path part).bytes.length := by
  by_cases here : path = Glob.here
  · rw [here]
    exact List.length_pos_iff.mpr (entry_some (here ▸ something) free (here ▸ moves))
  · exact Nat.le_trans (Nat.le_add_right _ _) (length_entry_beside something free here)

end

-- No empty part comes at the dot that a walk begins at: there the path would become empty.
def Moves : Path → List Bytes → Prop
  | _, [] => True
  | path, part :: rest => (path ≠ Glob.here ∨ part ≠ []) ∧ Moves (Glob.entryPath path part) rest

section

variable {path : Path} {parts : List Bytes}

theorem moves_beside (something : path.bytes ≠ []) (notHere : path ≠ Glob.here)
    (free : ∀ part ∈ parts, slash ∉ part) : path.Moves parts := by
  induction parts generalizing path with
  | nil => trivial
  | cons part parts ih =>
      rw [List.forall_mem_cons] at free
      refine ⟨Or.inl notHere, ih ?_ (entry_ne_here something free.1 notHere) free.2⟩
      exact entry_some something free.1 (Or.inl notHere)

theorem moves_append {more : List Bytes} (moves : path.Moves parts) (later : (path.along parts).Moves more) :
    path.Moves (parts ++ more) := by
  induction parts generalizing path with
  | nil => exact later
  | cons part parts ih => exact ⟨moves.1, ih moves.2 later⟩

theorem along_some (something : path.bytes ≠ []) (free : ∀ part ∈ parts, slash ∉ part) (moves : path.Moves parts) :
    (path.along parts).bytes ≠ [] := by
  induction parts generalizing path with
  | nil => exact something
  | cons part parts ih =>
      rw [List.forall_mem_cons] at free
      exact ih (entry_some something free.1 moves.1) free.2 moves.2

theorem length_along (something : path.bytes ≠ []) (free : ∀ part ∈ parts, slash ∉ part) (moves : path.Moves parts) :
    path.bytes.length ≤ (path.along parts).bytes.length := by
  induction parts generalizing path with
  | nil => exact Nat.le_refl _
  | cons part parts ih =>
      rw [List.forall_mem_cons] at free
      exact Nat.le_trans (length_entry something free.1 moves.1)
        (ih (entry_some something free.1 moves.1) free.2 moves.2)

theorem length_along_le (something : path.bytes ≠ []) (free : ∀ part ∈ parts, slash ∉ part)
    (moves : path.Moves parts) :
    (path.along parts).bytes.length ≤ path.bytes.length + (slashed slash parts).length := by
  induction parts generalizing path with
  | nil => exact Nat.le_refl _
  | cons part parts ih =>
      rw [List.forall_mem_cons] at free
      have first := length_entry_le something free.1
      have later := ih (entry_some something free.1 moves.1) free.2 moves.2
      rw [along_cons, slashed_cons, List.length_cons, List.length_append]
      omega

theorem entry_of_top (absolute : Bool) {part : Bytes} (free : slash ∉ part) :
    (Glob.entryPath (top absolute) part).bytes = (if absolute then [slash] else []) ++ part := by
  cases absolute with
  | false => rfl
  | true =>
      have apart : top true ≠ Glob.here := by decide
      rw [Glob.entryPath, if_neg apart, join, head_of_free free]
      rfl

theorem length_top_along (absolute : Bool) (partsGiven : parts ≠ []) (free : ∀ part ∈ parts, slash ∉ part)
    (moves : (top absolute).Moves parts) :
    ((top absolute).along parts).bytes.length ≤ (joined slash absolute parts).length := by
  cases parts with
  | nil => contradiction
  | cons part parts =>
      rw [List.forall_mem_cons] at free
      have first := entry_of_top absolute free.1
      have later := length_along_le (entry_some (top_some absolute) free.1 moves.1) free.2 moves.2
      rw [first, List.length_append] at later
      rw [along_cons, joined_cons, List.length_append, List.length_append]
      omega

end

section

variable {path : Path} {names : List Name}

theorem names_free (plain : ∀ n ∈ names, n.Plain) : ∀ n ∈ names, slash ∉ n :=
  fun n member => (plain n member).noSlash

theorem moves_names (something : path.bytes ≠ []) (plain : ∀ n ∈ names, n.Plain) : path.Moves names := by
  induction names generalizing path with
  | nil => trivial
  | cons name names ih =>
      rw [List.forall_mem_cons] at plain
      have moves : path ≠ Glob.here ∨ name ≠ [] := Or.inr plain.1.something
      exact ⟨moves, ih (entry_some something plain.1.noSlash moves) plain.2⟩

theorem names_some (something : path.bytes ≠ []) (plain : ∀ n ∈ names, n.Plain) : (path.along names).bytes ≠ [] :=
  along_some something (names_free plain) (moves_names something plain)

theorem length_names (something : path.bytes ≠ []) (plain : ∀ n ∈ names, n.Plain) :
    path.bytes.length ≤ (path.along names).bytes.length :=
  length_along something (names_free plain) (moves_names something plain)

theorem front_of_name (something : path.bytes ≠ []) {name : Name} (plain : name.Plain) :
    (Glob.entryPath path name).front = path.front ++ [name] := by
  have parts := entry_front something plain.noSlash
  have notHere : Glob.entryPath path name ≠ Glob.here := by
    intro same
    rw [same] at parts
    have last := congrArg List.getLast? parts
    rw [List.getLast?_concat] at last
    exact plain.notHere (Option.some.inj last).symm
  have noSlash : (Glob.entryPath path name).endsInSlash = false := by
    rw [← Bool.not_eq_true]
    intro ends
    have last : (Glob.entryPath path name).bytes.getLast? = some slash := by simpa [endsInSlash] using ends
    obtain ⟨before, split⟩ := List.getLast?_eq_some_iff.mp last
    rw [Path.parts, split, List.splitOn_append_cons_self, List.splitOn_nil] at parts
    exact plain.something (List.append_inj_right' parts rfl |> List.singleton_inj.mp).symm
  rw [front, if_neg notHere, noSlash, ← parts]
  rfl

theorem along_front (something : path.bytes ≠ []) (plain : ∀ n ∈ names, n.Plain) :
    (path.along names).front = path.front ++ names := by
  induction names generalizing path with
  | nil => exact (List.append_nil _).symm
  | cons name names ih =>
      rw [List.forall_mem_cons] at plain
      have next := entry_some something plain.1.noSlash (Or.inr plain.1.something)
      rw [along_cons, ih next plain.2, front_of_name something plain.1, List.append_assoc, List.singleton_append]

theorem along_parts (something : path.bytes ≠ []) (plain : ∀ n ∈ names, n.Plain) (more : names ≠ []) :
    (path.along names).parts = path.front ++ names := by
  rcases List.eq_nil_or_concat names with rfl | ⟨start, last, rfl⟩
  · contradiction
  · rw [List.concat_eq_append] at plain ⊢
    have inStart : ∀ n ∈ start, n.Plain := fun n member => plain n (List.mem_append_left _ member)
    have inLast : last.Plain := plain last (by simp)
    rw [along_append, along_cons]
    change (Glob.entryPath (path.along start) last).parts = _
    rw [entry_front (names_some something inStart) inLast.noSlash, along_front something inStart, List.append_assoc]

theorem top_along (absolute : Bool) (plain : ∀ n ∈ names, n.Plain) (more : names ≠ []) :
    (top absolute).along names = ⟨joined slash absolute names⟩ := by
  apply eq_of_parts
  rw [along_parts (top_some absolute) plain more, parts,
    split_joined absolute more (names_free plain)]
  cases absolute <;> rfl

theorem of_names_along (plain : ∀ n ∈ names, n.Plain) : ofNames names = (top true).along names := by
  cases names with
  | nil => rfl
  | cons name names =>
      rw [top_along true plain (List.cons_ne_nil name names)]
      rfl

theorem of_names_append {more : List Name} (plain : ∀ n ∈ names ++ more, n.Plain) :
    ofNames (names ++ more) = (ofNames names).along more := by
  have above : ∀ n ∈ names, n.Plain := fun n member => plain n (List.mem_append_left _ member)
  rw [of_names_along plain, of_names_along above, along_append]

theorem of_names_entry {name : Name} (plain : ∀ n ∈ names ++ [name], n.Plain) :
    Glob.entryPath (ofNames names) name = ofNames (names ++ [name]) := (of_names_append plain).symm

theorem of_names_some (names : List Name) : (ofNames names).bytes ≠ [] := by
  cases names <;> exact List.cons_ne_nil _ _

theorem of_names_parts (plain : ∀ n ∈ names, n.Plain) (more : names ≠ []) : (ofNames names).parts = [] :: names := by
  rw [of_names_along plain, along_parts (top_some true) plain more]
  rfl

theorem length_along_beside (something : path.bytes ≠ []) (notHere : path ≠ Glob.here)
    (plain : ∀ n ∈ names, n.Plain) : path.bytes.length + names.length ≤ (path.along names).bytes.length := by
  induction names generalizing path with
  | nil => exact Nat.le_refl _
  | cons name names ih =>
      rw [List.forall_mem_cons] at plain
      have next := entry_some something plain.1.noSlash (Or.inl notHere)
      have longer := length_entry_beside something plain.1.noSlash notHere
      have positive := List.length_pos_iff.mpr plain.1.something
      have later := ih next (entry_ne_here something plain.1.noSlash notHere) plain.2
      rw [along_cons, List.length_cons]
      omega

-- A path is at least as long as the way it goes: from the dot on, the first name takes the dot's place.
theorem length_way (something : path.bytes ≠ []) (plain : ∀ n ∈ names, n.Plain) :
    names.length ≤ (path.along names).bytes.length := by
  by_cases here : path = Glob.here
  · subst here
    cases names with
    | nil => exact Nat.zero_le _
    | cons name names =>
        rw [List.forall_mem_cons] at plain
        have next := entry_some something plain.1.noSlash (Or.inr plain.1.something)
        have positive := List.length_pos_iff.mpr next
        have notHere : Glob.entryPath Glob.here name ≠ Glob.here := by
          intro same
          exact plain.1.notHere (congrArg Path.bytes same)
        have later := length_along_beside next notHere plain.2
        rw [along_cons, List.length_cons]
        omega
  · exact Nat.le_trans (Nat.le_add_left _ _) (length_along_beside something here plain)

theorem length_of_names (plain : ∀ n ∈ names, n.Plain) : names.length ≤ (ofNames names).bytes.length := by
  rw [of_names_along plain]
  exact length_way (top_some true) plain

end

end Path

end PolicyLookup
