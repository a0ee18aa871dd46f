import PolicyLookup.CommandLine.Arguments
import PolicyLookup.Proofs.Lookup.Run

set_option autoImplicit false

namespace PolicyLookup.CommandLine

def Arguments.quiet (a : Arguments) : Arguments := { a with verbosity := 0 }

@[simp] theorem Arguments.quiet_folder (a : Arguments) : a.quiet.folder = a.folder := rfl

@[simp] theorem Arguments.quiet_query (a : Arguments) : a.quiet.query = a.query := rfl

@[simp] theorem Arguments.quiet_config (a : Arguments) : a.quiet.config = a.config := rfl

@[simp] theorem Arguments.quiet_regex (a : Arguments) : a.quiet.isRegex = a.isRegex := rfl

def Request.quiet : Request → Request
  | .lookup a => .lookup a.quiet
  | other => other

abbrev moreLetter : UInt8 := 0x76

abbrev configName : Bytes := Utf8.encode "config".toList

def configWord : Bytes := dash :: dash :: configName

def endWord : Bytes := [dash, dash]

inductive AsksMore : Bytes → Prop
  | long : AsksMore (Utf8.encode "--verbose".toList)
  | short (count : Nat) : AsksMore (dash :: List.replicate (count + 1) moreLetter)

structure Ordinary (word : Bytes) : Prop where
  notEnd : Word.ofBytes word ≠ .endOfOptions
  notConfig : Word.ofBytes word ≠ .long configName none

def Valueless (words : List Bytes) : Prop := ∀ word ∈ words.head?, Arguments.isOption word = true

-- Two command lines with the same words, but for those that ask for more log where an option may stand.
inductive SameButMore : List Bytes → List Bytes → Prop
  | nil : SameButMore [] []
  | left (word : Bytes) (words others : List Bytes) (more : AsksMore word) (rest : SameButMore words others) :
      SameButMore (word :: words) others
  | right (word : Bytes) (words others : List Bytes) (more : AsksMore word) (rest : SameButMore words others) :
      SameButMore words (word :: others)
  | cluster (word other letters letters' : Bytes) (words others : List Bytes)
      (short : Word.ofBytes word = .short letters) (short' : Word.ofBytes other = .short letters')
      (same : letters.filter (· ≠ moreLetter) = letters'.filter (· ≠ moreLetter)) (rest : SameButMore words others) :
      SameButMore (word :: words) (other :: others)
  | word (word : Bytes) (words others : List Bytes) (ordinary : Ordinary word) (rest : SameButMore words others) :
      SameButMore (word :: words) (word :: others)
  | config (value : Bytes) (words others : List Bytes) (plain : Arguments.isOption value = false)
      (rest : SameButMore words others) :
      SameButMore (configWord :: value :: words) (configWord :: value :: others)
  | valueless (words others : List Bytes) (none : Valueless words) (none' : Valueless others)
      (rest : SameButMore words others) : SameButMore (configWord :: words) (configWord :: others)
  | endOfOptions (words : List Bytes) : SameButMore (endWord :: words) (endWord :: words)

theorem end_word {word : Bytes} (kind : Word.ofBytes word = .endOfOptions) : word = endWord := by
  rw [Word.ofBytes.eq_def] at kind
  split at kind
  · rfl
  · split at kind <;> contradiction
  · contradiction
  · contradiction

theorem config_word {word : Bytes} (kind : Word.ofBytes word = .long configName none) : word = configWord := by
  rw [Word.ofBytes.eq_def] at kind
  split at kind
  · contradiction
  · split at kind
    · obtain ⟨rfl, _⟩ := Word.long.inj kind
      rfl
    · obtain ⟨_, impossible⟩ := Word.long.inj kind
      contradiction
  · contradiction
  · contradiction

theorem same_but_more_refl (words : List Bytes) : SameButMore words words := by
  match words with
  | [] => exact .nil
  | word :: rest =>
      by_cases isEnd : Word.ofBytes word = .endOfOptions
      · obtain rfl := end_word isEnd
        exact .endOfOptions rest
      · by_cases isConfig : Word.ofBytes word = .long configName none
        · obtain rfl := config_word isConfig
          match rest with
          | [] => exact .valueless [] [] (by simp [Valueless]) (by simp [Valueless]) .nil
          | value :: more =>
              cases option : Arguments.isOption value with
              | false => exact .config value more more option (same_but_more_refl more)
              | true =>
                  have valueless : Valueless (value :: more) := by simpa [Valueless] using option
                  exact .valueless _ _ valueless valueless (same_but_more_refl (value :: more))
        · exact .word word rest rest ⟨isEnd, isConfig⟩ (same_but_more_refl rest)

namespace Arguments

theorem place_quiet (a : Arguments) (word : Bytes) : (a.place word).map quiet = a.quiet.place word := by
  rw [place, place, quiet_folder, quiet_query]
  cases a.folder with
  | none => cases pathOf word <;> rfl
  | some folder =>
      cases a.query with
      | none =>
          dsimp only
          cases Utf8.decode? word <;> rfl
      | some query => rfl

theorem set_config_quiet (a : Arguments) (value : Bytes) :
    (a.setConfig value).map quiet = a.quiet.setConfig value := by
  rw [setConfig, setConfig, quiet_config]
  cases pathOf value with
  | error fault => rfl
  | ok path =>
      rw [Lookup.ok_bind, Lookup.ok_bind]
      split <;> rfl

theorem switch_quiet (a : Arguments) (name : Bytes) :
    (a.switch name).map Request.quiet = (a.quiet.switch name).map Request.quiet := by
  rw [switch, switch, quiet_regex]
  split
  · split <;> rfl
  · split
    · rfl
    · split
      · rfl
      · split <;> rfl

theorem flags_quiet (a : Arguments) (letters : Bytes) :
    (a.flags letters).map Request.quiet = a.quiet.flags (letters.filter (· ≠ moreLetter)) := by
  induction letters generalizing a with
  | nil => rfl
  | cons letter rest ih =>
      by_cases more : letter = 0x76
      · rw [flags, if_pos more, ih, List.filter_cons_of_neg (by simp [moreLetter, more])]
        rfl
      · rw [List.filter_cons_of_pos (by simp [moreLetter, more]), flags, flags, if_neg more, if_neg more]
        split
        · rfl
        · split <;> rfl

theorem map_lookup_quiet (result : Except UsageFault Arguments) :
    (result.map Request.lookup).map Request.quiet = (result.map quiet).map Request.lookup := by
  cases result <;> rfl

def take (a : Arguments) (word : Bytes) : Except UsageFault Request :=
  match Word.ofBytes word with
  | .endOfOptions => .ok (.lookup a)
  | .plain => (a.place word).map .lookup
  | .short letters => a.flags letters
  | .long name .none => a.switch name
  | .long name (some value) =>
      if name = configName then (a.setConfig value).map .lookup
      else match a.switch name with
        | .error (.unknown word) => .error (.unknown word)
        | _ => .error (.needlessValue word)

def onward (words : List Bytes) : Request → Except UsageFault Request
  | .lookup a => read false a words
  | settled => .ok settled

theorem read_ordinary {word : Bytes} (ordinary : Ordinary word) (a : Arguments) (words : List Bytes) :
    read false a (word :: words) = a.take word >>= onward words := by
  obtain ⟨notEnd, notConfig⟩ := ordinary
  rw [read, take]
  cases kind : Word.ofBytes word with
  | endOfOptions => contradiction
  | plain =>
      dsimp only
      cases a.place word <;> rfl
  | short letters =>
      dsimp only
      rcases a.flags letters with fault | (louder | _ | _) <;> rfl
  | long name value =>
      cases value with
      | none =>
          have other : name ≠ configName := by
            rintro rfl
            exact notConfig kind
          dsimp only
          rw [if_neg Bool.false_ne_true, if_neg other]
          rcases a.switch name with fault | (later | _ | _) <;> rfl
      | some value =>
          dsimp only
          rw [if_neg Bool.false_ne_true]
          by_cases config : name = configName
          · rw [if_pos config, if_pos config]
            cases a.setConfig value <;> rfl
          · rw [if_neg config, if_neg config]
            rcases a.switch name with fault | settled
            · cases fault <;> rfl
            · rfl

theorem read_config {value : Bytes} (plain : isOption value = false) (a : Arguments) (words : List Bytes) :
    read false a (configWord :: value :: words) = (a.setConfig value).map .lookup >>= onward words := by
  have kind : Word.ofBytes configWord = .long configName .none := by decide
  rw [read, kind]
  dsimp only
  rw [if_neg Bool.false_ne_true, if_pos rfl, plain]
  cases a.setConfig value <;> rfl

theorem read_valueless {words : List Bytes} (valueless : Valueless words) (a : Arguments) :
    read false a (configWord :: words) = .error .missingValue := by
  have kind : Word.ofBytes configWord = .long configName .none := by decide
  rw [read, kind]
  dsimp only
  rw [if_neg Bool.false_ne_true, if_pos rfl]
  cases words with
  | nil => rfl
  | cons word rest =>
      dsimp only
      rw [if_pos (valueless word rfl)]

theorem read_end (a : Arguments) (words : List Bytes) : read false a (endWord :: words) = read true a words := rfl

theorem short_more (count : Nat) :
    Word.ofBytes (dash :: List.replicate (count + 1) moreLetter) = .short (List.replicate (count + 1) moreLetter) := rfl

theorem short_ordinary {word letters : Bytes} (short : Word.ofBytes word = .short letters) : Ordinary word := by
  constructor
  · rw [short]
    exact Word.noConfusion
  · rw [short]
    exact Word.noConfusion

theorem take_short {word letters : Bytes} (short : Word.ofBytes word = .short letters) (a : Arguments) :
    a.take word = a.flags letters := by
  rw [take, short]

theorem asks_more_ordinary {word : Bytes} (more : AsksMore word) : Ordinary word := by
  cases more with
  | long => exact ⟨by decide, by decide⟩
  | short count => exact short_ordinary (short_more count)

theorem take_more {word : Bytes} (more : AsksMore word) (a : Arguments) :
    (a.take word).map Request.quiet = .ok (.lookup a.quiet) := by
  cases more with
  | long => rfl
  | short count =>
      have nothing : (List.replicate (count + 1) moreLetter).filter (· ≠ moreLetter) = [] := by simp
      rw [take_short (short_more count), flags_quiet, nothing]
      rfl

section

variable {a b : Arguments}

theorem take_quiet (alike : a.quiet = b.quiet) (word : Bytes) :
    (a.take word).map Request.quiet = (b.take word).map Request.quiet := by
  rw [take, take]
  cases Word.ofBytes word with
  | endOfOptions => exact congrArg (fun quiet => Except.ok (Request.lookup quiet)) alike
  | plain =>
      dsimp only
      rw [map_lookup_quiet, map_lookup_quiet, place_quiet, place_quiet, alike]
  | short letters =>
      dsimp only
      rw [flags_quiet, flags_quiet, alike]
  | long name value =>
      have switched : (a.switch name).map Request.quiet = (b.switch name).map Request.quiet := by
        rw [switch_quiet, switch_quiet b, alike]
      cases value with
      | none => exact switched
      | some value =>
          dsimp only
          split
          · rw [map_lookup_quiet, map_lookup_quiet, set_config_quiet, set_config_quiet, alike]
          -- Whether the option is known does not depend on the arguments, only that is asked.
          · rcases Lookup.map_eq_cases switched with ⟨fault, first, second⟩ | ⟨_, _, first, second, _⟩
            · rw [first, second]
            · rw [first, second]

theorem onward_alike {words others : List Bytes}
    (next : ∀ a b : Arguments, a.quiet = b.quiet →
      (read false a words).map Request.quiet = (read false b others).map Request.quiet)
    {request other : Except UsageFault Request} (alike : request.map Request.quiet = other.map Request.quiet) :
    (request >>= onward words).map Request.quiet = (other >>= onward others).map Request.quiet := by
  rcases Lookup.map_eq_cases alike with ⟨fault, rfl, rfl⟩ | ⟨first, second, rfl, rfl, same⟩
  · rfl
  · cases first with
    | lookup a =>
        cases second with
        | lookup b => exact next a b (Request.lookup.inj same)
        | version | help => contradiction
    | version | help =>
        cases second with
        | lookup b => contradiction
        | version | help => first | contradiction | rfl

theorem read_places_alike (words : List Bytes) (alike : a.quiet = b.quiet) :
    (read true a words).map Request.quiet = (read true b words).map Request.quiet := by
  induction words generalizing a b with
  | nil => exact congrArg (fun quiet => Except.ok (Request.lookup quiet)) alike
  | cons word rest ih =>
      have placed : (a.place word).map quiet = (b.place word).map quiet := by
        rw [place_quiet, place_quiet, alike]
      rw [read, read, if_pos rfl, if_pos rfl]
      rcases Lookup.map_eq_cases placed with ⟨fault, first, second⟩ | ⟨c, d, first, second, both⟩
      · rw [first, second]
      · rw [first, second]
        exact ih both

theorem read_alike {words others : List Bytes} (same : SameButMore words others) (alike : a.quiet = b.quiet) :
    (read false a words).map Request.quiet = (read false b others).map Request.quiet := by
  induction same generalizing a b with
  | nil => exact congrArg (fun quiet => Except.ok (Request.lookup quiet)) alike
  | left word words others more rest ih =>
      rw [read_ordinary (asks_more_ordinary more)]
      have unchanged : (a.take word).map Request.quiet = (Except.ok (Request.lookup b)).map Request.quiet := by
        rw [take_more more, alike]
        rfl
      exact onward_alike (fun _ _ => ih) unchanged
  | right word words others more rest ih =>
      rw [read_ordinary (asks_more_ordinary more)]
      have unchanged : (Except.ok (Request.lookup a)).map Request.quiet = (b.take word).map Request.quiet := by
        rw [take_more more, ← alike]
        rfl
      exact onward_alike (fun _ _ => ih) unchanged
  | cluster word other letters letters' words others short short' same rest ih =>
      rw [read_ordinary (short_ordinary short), read_ordinary (short_ordinary short')]
      refine onward_alike (fun _ _ => ih) ?_
      rw [take_short short, take_short short', flags_quiet, flags_quiet, same, alike]
  | word word words others ordinary rest ih =>
      rw [read_ordinary ordinary, read_ordinary ordinary]
      exact onward_alike (fun _ _ => ih) (take_quiet alike word)
  | config value words others plain rest ih =>
      rw [read_config plain, read_config plain]
      refine onward_alike (fun _ _ => ih) ?_
      rw [map_lookup_quiet, map_lookup_quiet, set_config_quiet, set_config_quiet, alike]
  | valueless words others none none' rest ih => rw [read_valueless none, read_valueless none']
  | endOfOptions words =>
      rw [read_end, read_end]
      exact read_places_alike words alike

end

end Arguments

end PolicyLookup.CommandLine
