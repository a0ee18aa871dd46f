import PolicyLookup.Proofs.Source.Folder

set_option autoImplicit false

namespace PolicyLookup

namespace Root

def trimmed (t : Text) : Text := (t.reverse.dropWhile (· == '/')).reverse

def ofText (t : Text) : Root where
  absolute := t.head? == some '/'
  names :=
    if trimmed t = [] then []
    else (if t.head? == some '/' then (trimmed t).drop 1 else trimmed t).splitOn '/'
  slashes := t.length - (trimmed t).length

example : ofText ".//p*/../p*//".toList =
    ⟨false, [".".toList, [], "p*".toList, "..".toList, "p*".toList], 2⟩ := rfl

theorem trimmed_split (t : Text) : t = trimmed t ++ List.replicate (t.length - (trimmed t).length) '/' := by
  have whole : t = trimmed t ++ (t.reverse.takeWhile (· == '/')).reverse := by
    rw [trimmed, ← List.reverse_append, List.takeWhile_append_dropWhile, List.reverse_reverse]
  have slashes : ∀ c ∈ (t.reverse.takeWhile (· == '/')).reverse, c = '/' := by
    intro c member
    simpa using List.mem_takeWhile_imp (List.mem_reverse.mp member)
  have count := congrArg List.length whole
  rw [List.length_append] at count
  have same : t.length - (trimmed t).length = (t.reverse.takeWhile (· == '/')).reverse.length := by omega
  rw [same, ← List.eq_replicate_of_mem slashes]
  exact whole

theorem trimmed_ends (t : Text) : ∀ c ∈ (trimmed t).getLast?, c ≠ '/' := by
  intro c last
  rw [trimmed, List.getLast?_reverse] at last
  have kept := List.head?_dropWhile_not (· == '/') t.reverse
  rw [last] at kept
  simpa using kept

theorem trimmed_head {t : Text} (something : trimmed t ≠ []) : (trimmed t).head? = t.head? := by
  obtain ⟨c, rest, split⟩ := List.exists_cons_of_ne_nil something
  have head := congrArg List.head? (trimmed_split t)
  rw [split] at head ⊢
  exact head.symm

theorem slashes_only {t : Text} (something : t ≠ []) (none : trimmed t = []) : (t.head? == some '/') = true := by
  have whole := trimmed_split t
  rw [none, List.nil_append, List.length_nil, Nat.sub_zero] at whole
  obtain ⟨c, rest, split⟩ := List.exists_cons_of_ne_nil something
  rw [whole, split]
  rfl

theorem inner_of_text {t : Text} (something : trimmed t ≠ []) :
    ∃ inner, (ofText t).names = inner.splitOn '/' ∧ inner ≠ [] ∧
      trimmed t = (if t.head? == some '/' then ['/'] else []) ++ inner := by
  rw [ofText]
  simp only [something, if_false]
  cases absolute : t.head? == some '/' with
  | false => exact ⟨trimmed t, rfl, something, rfl⟩
  | true =>
      obtain ⟨c, inner, split⟩ := List.exists_cons_of_ne_nil something
      have head := trimmed_head something
      rw [split] at head
      rw [← head] at absolute
      obtain rfl : c = '/' := by simpa using absolute
      refine ⟨inner, by rw [split]; rfl, ?_, split⟩
      rintro rfl
      exact trimmed_ends t '/' (by rw [split]; rfl) rfl

theorem bare_of_text (t : Text) : (ofText t).bare = trimmed t := by
  rw [bare]
  by_cases none : trimmed t = []
  · simp only [ofText, none, if_true]
    cases t.head? == some '/' <;> rfl
  · obtain ⟨inner, names, _, whole⟩ := inner_of_text none
    rw [names, joined_lead _ (List.splitOn_ne_nil '/' inner), joined_split]
    exact whole.symm

theorem text_of_text (t : Text) : (ofText t).text = t := by
  rw [text, bare_of_text]
  exact (trimmed_split t).symm

theorem path_of_text (t : Text) : (ofText t).path = Path.ofText t := by
  rw [path, text_of_text]

theorem of_text_spelled {t : Text} (something : t ≠ []) : (ofText t).Spelled := by
  by_cases none : trimmed t = []
  · have names : (ofText t).names = [] := by simp only [ofText, none, if_true]
    have absolute : (ofText t).absolute = true := slashes_only something none
    refine ⟨?_, Or.inl absolute, Or.inl absolute, ?_⟩
    · rw [names]
      simp
    · rw [names]
      simp
  · obtain ⟨inner, names, something, whole⟩ := inner_of_text none
    have final : ∀ c ∈ inner.getLast?, c ≠ '/' := by
      intro c last
      apply trimmed_ends t c
      rw [whole, List.getLast?_append, last]
      rfl
    refine ⟨?_, Or.inr ?_, ?_, ?_⟩
    · rw [names]
      exact split_free inner
    · rw [names]
      exact List.splitOn_ne_nil '/' inner
    · cases absolute : (ofText t).absolute with
      | true => exact Or.inl rfl
      | false =>
          have relative : (t.head? == some '/') = false := absolute
          rw [relative] at whole
          have same : inner = trimmed t := whole.symm
          refine Or.inr ?_
          rw [names]
          apply split_first something
          intro c head
          rw [same, trimmed_head none] at head
          rintro rfl
          rw [head] at relative
          contradiction
    · rw [names]
      exact split_last something final

def emptyBehindDots : List Text → Bool
  | [] => false
  | name :: more => name == [] || (name == ['.'] && emptyBehindDots more)

-- The root is relative and begins like `.//` or `././/`, before another name.
def Stalls (r : Root) : Prop := r.absolute = false ∧ emptyBehindDots r.names = true

theorem moves_of_names {names : List Text} (free : ∀ name ∈ names, '/' ∉ name)
    (filled : emptyBehindDots names = false) : Glob.here.Moves (names.map Utf8.encode) := by
  induction names with
  | nil => trivial
  | cons name names ih =>
      rw [List.forall_mem_cons] at free
      rw [emptyBehindDots, Bool.or_eq_false_iff, beq_eq_false_iff_ne] at filled
      have something : Utf8.encode name ≠ [] := fun nothing => filled.1 (Utf8.encode_inj (u := []) nothing)
      have noSlash : Path.slash ∉ Utf8.encode name := fun slash => free.1 (Utf8.slash_in_encode slash)
      refine ⟨Or.inr something, ?_⟩
      by_cases dot : name = ['.']
      · subst dot
        exact ih free.2 (by simpa using filled.2)
      · have notHere : Glob.entryPath Glob.here (Utf8.encode name) ≠ Glob.here := fun same =>
          dot (Utf8.encode_inj (u := ['.']) (congrArg Path.bytes same))
        exact Path.moves_beside something notHere (Glob.parts_free free.2)

theorem moves_of_open {r : Root} (spelled : r.Spelled) (goes : ¬ r.Stalls) : (Path.top r.absolute).Moves r.place := by
  cases absolute : r.absolute with
  | true => exact Path.moves_beside (Path.top_some true) (by decide) (place_free spelled)
  | false =>
      refine moves_of_names spelled.noSlash ?_
      rw [← Bool.not_eq_true]
      exact fun empty => goes ⟨absolute, empty⟩

-- The dots leave the walk where it began, and the empty name behind them makes the empty path, at
-- which nothing is.
theorem walk_stalls (disk : Disk) (foldersOnly : Bool) {names : List Text} (stalls : emptyBehindDots names = true)
    (part : List Glob.Token) (more : List (List Glob.Token)) :
    Glob.walk disk foldersOnly (names.map Glob.tokensOf ++ part :: more) (Glob.stopAt disk Glob.here) = [] := by
  induction names with
  | nil => contradiction
  | cons name names ih =>
      rw [emptyBehindDots, Bool.or_eq_true, beq_iff_eq, Bool.and_eq_true, beq_iff_eq] at stalls
      rw [List.map_cons, List.cons_append]
      rcases stalls with rfl | ⟨rfl, later⟩
      · have nowhere (stop : Glob.Stop) :
            Glob.leadsTo disk stop (Glob.entryPath Glob.here (Utf8.encode [])) [] = false := rfl
        have empty : Glob.plain? (Glob.tokensOf []) = some [] := rfl
        rw [Glob.walk.eq_def]
        simp only [empty, Glob.stopAt, nowhere]
        rfl
      · have dot : Glob.plain? (Glob.tokensOf ['.']) = some ['.'] := rfl
        have stays : Glob.entryPath Glob.here (Utf8.encode ['.']) = Glob.here := rfl
        rw [Glob.walk.eq_def]
        simp only [dot, Glob.stopAt, stays]
        rw [← Glob.stopAt, Glob.arrive_walk disk foldersOnly (by simp), ih later]
        exact ite_self _

def LeadsBelow (disk : Disk) (r : Root) (path : Path) (place : Place) : Prop :=
  ∃ reached, disk.locate false r.path = .ok reached ∧ disk.locate false path = .ok (reached ++ place)

-- The paths lead to all files below the root with the extension and to nothing else. No file counts
-- whose path, spelled as the root is, the system refuses for its length.
structure Reaches (disk : Disk) (r : Root) (extension : Text) (paths : List Path) : Prop where
  all : ∀ place, r.Holds disk extension place → (r.below place).Fits → ∃ path ∈ paths, r.LeadsBelow disk path place
  only : ∀ path ∈ paths, ∃ place, r.Holds disk extension place ∧ r.LeadsBelow disk path place

end Root

namespace Folder

section

variable {disk : Disk} {r : Root} {extension : Text} {folder : Folder} {entries : Entries}

theorem files_below_reach (linkless : disk.root.Linkless) (spelled : r.Spelled)
    (moves : (Path.top r.absolute).Moves r.place) (opened : disk.entries? r.path = some entries) :
    r.Reaches disk extension (filesBelow disk r extension) := by
  obtain ⟨⟨reached, located, leads⟩, _⟩ := Root.walk_root spelled linkless moves opened
  have leadsBelow {place : Place} (holds : r.Holds disk extension place) (fits : (r.walked.along place).Fits) :
      r.LeadsBelow disk (r.walked.along place) place := by
    obtain ⟨content, found⟩ := holds.content opened
    exact ⟨reached, located, (leads.along linkless found).located fits⟩
  constructor
  · intro place holds fits
    obtain ⟨plain, something⟩ := holds_plain linkless leads opened holds
    have fitsWalked := Root.walked_along_fits spelled moves (Path.names_free plain)
      (Path.moves_names leads.something plain) something fits
    exact ⟨_, holds_walked linkless leads opened holds fitsWalked, leadsBelow holds fitsWalked⟩
  · intro path member
    obtain ⟨fits, place, holds, rfl⟩ := walked_holds linkless leads opened member
    exact ⟨place, holds, leadsBelow holds fits⟩

theorem files_in_stalls (disk : Disk) (spelled : r.Spelled) (stalls : r.Stalls)
    (free : ∀ c ∈ extension, Config.isReserved c = false) : filesIn disk r.path extension = .ok [] := by
  have nothing : (Glob.Pattern.mk r.absolute (r.parts extension) false).search disk = [] := by
    rw [Glob.Pattern.search, stalls.1]
    exact Root.walk_stalls disk false stalls.2 _ _
  rw [files_in_pattern disk spelled free, nothing]
  rfl

theorem candidates_reached (linkless : disk.root.Linkless) {t : Text} {raw config : Config}
    (valid : raw.validated = .ok config) (opened : ofConfig disk (Path.ofText t) config = .ok folder)
    (log : List Event) :
    ∃ interfaces supports : List Path,
      (folder.source.candidates.run ⟨disk, log⟩).1 =
        (if interfaces = [] ∧ supports = [] then
          .error (.noCandidates (Path.ofText t) config.interfaceExtension config.supportExtension)
        else .ok (interfaces ++ supports)) ∧
      (¬ (Root.ofText t).Stalls →
        (Root.ofText t).Reaches disk config.interfaceExtension interfaces ∧
        (Root.ofText t).Reaches disk config.supportExtension supports) ∧
      ((Root.ofText t).Stalls → interfaces = [] ∧ supports = []) := by
  obtain ⟨freeInterface, freeSupport⟩ := Config.validated_extensions valid
  obtain ⟨⟨entries, there⟩, rfl⟩ := of_config_ok opened
  have something : t ≠ [] := by
    rintro rfl
    contradiction
  have spelled := Root.of_text_spelled something
  rw [← Root.path_of_text t] at there ⊢
  obtain ⟨_, ran⟩ := candidates_run disk
    ⟨(Root.ofText t).path, config.interfaceExtension, config.supportExtension⟩ log
  rw [ran]
  by_cases stalls : (Root.ofText t).Stalls
  · have first := files_in_stalls disk spelled stalls freeInterface
    have second := files_in_stalls disk spelled stalls freeSupport
    exact ⟨[], [], candidates_in_ok first second, absurd stalls, fun _ => ⟨rfl, rfl⟩⟩
  · have moves := Root.moves_of_open spelled stalls
    have first := files_in_below linkless spelled moves there freeInterface
    have second := files_in_below linkless spelled moves there freeSupport
    exact ⟨_, _, candidates_in_ok first second,
      fun _ => ⟨files_below_reach linkless spelled moves there, files_below_reach linkless spelled moves there⟩,
      fun impossible => absurd impossible stalls⟩

end

theorem candidates_reached_over_dots :
    ∃ interfaces supports : List Path,
      ((Folder.mk (Path.ofText "./p*/..//p*/".toList) "if".toList "spt".toList).source.candidates.run
          ⟨sampleDisk, []⟩).1 =
        (if interfaces = [] ∧ supports = [] then
          .error (.noCandidates (Path.ofText "./p*/..//p*/".toList) "if".toList "spt".toList)
        else .ok (interfaces ++ supports)) ∧
      (¬ (Root.ofText "./p*/..//p*/".toList).Stalls →
        (Root.ofText "./p*/..//p*/".toList).Reaches sampleDisk "if".toList interfaces ∧
        (Root.ofText "./p*/..//p*/".toList).Reaches sampleDisk "spt".toList supports) ∧
      ((Root.ofText "./p*/..//p*/".toList).Stalls → interfaces = [] ∧ supports = []) := by
  have valid : Config.default.validated = .ok Config.default := rfl
  have opened : ofConfig sampleDisk (Path.ofText "./p*/..//p*/".toList) Config.default =
      .ok ⟨Path.ofText "./p*/..//p*/".toList, "if".toList, "spt".toList⟩ := if_pos (by decide +kernel)
  exact candidates_reached sample_linkless valid opened []

theorem file_lost_behind_dot :
    ofConfig sampleDisk (Path.ofText ".//p*".toList) Config.default =
      .ok ⟨Path.ofText ".//p*".toList, "if".toList, "spt".toList⟩ ∧
    (Root.ofText ".//p*".toList).Holds sampleDisk "if".toList [Utf8.encode "b.if".toList] ∧
    ((Root.ofText ".//p*".toList).below [Utf8.encode "b.if".toList]).Fits ∧
    ((Folder.mk (Path.ofText ".//p*".toList) "if".toList "spt".toList).source.candidates.run ⟨sampleDisk, []⟩).1 =
      .error (.noCandidates (Path.ofText ".//p*".toList) "if".toList "spt".toList) := by
  refine ⟨if_pos (by decide +kernel), ⟨⟨_, [], rfl, rfl⟩, [], _, "b.if".toList, rfl, by decide +kernel, by decide⟩,
    by rw [Path.Fits]; decide +kernel, ?_⟩
  have spelled : (Root.ofText ".//p*".toList).Spelled := Root.of_text_spelled (List.cons_ne_nil _ _)
  have stalls : (Root.ofText ".//p*".toList).Stalls := ⟨rfl, rfl⟩
  have valid : Config.default.validated = .ok Config.default := rfl
  obtain ⟨freeInterface, freeSupport⟩ := Config.validated_extensions valid
  have first := files_in_stalls sampleDisk spelled stalls freeInterface
  have second := files_in_stalls sampleDisk spelled stalls freeSupport
  rw [Root.path_of_text] at first second
  obtain ⟨_, ran⟩ := candidates_run sampleDisk ⟨Path.ofText ".//p*".toList, "if".toList, "spt".toList⟩ []
  have none := @candidates_in_ok sampleDisk ⟨Path.ofText ".//p*".toList, "if".toList, "spt".toList⟩ [] [] first second
  rw [ran, none, if_pos ⟨rfl, rfl⟩]

end Folder

end PolicyLookup
