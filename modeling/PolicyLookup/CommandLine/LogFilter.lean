import PolicyLookup.Event
import PolicyLookup.Unicode.Property
import PolicyLookup.Text.Number

set_option autoImplicit false

namespace PolicyLookup

namespace Level

def all : List Level := [.trace, .debug, .info, .warn, .error]

def ofName? (t : Text) : Option Level :=
  all.find? fun level => Text.lower level.name.toList == Text.lower t

end Level

abbrev Threshold := Option Level

namespace Threshold

def ofNumber? (n : Nat) : Option Threshold :=
  if n = 0 then some none else (Level.all.reverse[n - 1]?).map some

def ofText? (t : Text) : Option Threshold :=
  let digits := if t.head? = some '+' then t.drop 1 else t
  if !digits.isEmpty && digits.all Char.isDigit then
    ofNumber? (Text.numberOf 10 digits)
  else if Text.lower t = "off".toList then some none
  else (Level.ofName? t).map some

def admits (threshold : Threshold) (level : Level) : Bool :=
  threshold.any fun least => least.rank ≤ level.rank

end Threshold

namespace LogFilter

structure Rule where
  target : Text
  threshold : Threshold
deriving DecidableEq

def afterSpan? (t : Text) : Option Text :=
  match t.dropWhile fun c => c ≠ ']' && c ≠ '\x7b' with
  | ']' :: rest => some rest
  | '\x7b' :: rest =>
      match rest.takeWhile (· ≠ '\x7d'), rest.dropWhile (· ≠ '\x7d') with
      | _ :: _, '\x7d' :: ']' :: rest => some rest
      | _, _ => none
  | _ => none

def thresholdAfter? : Text → Option Threshold
  | [] => some (some .trace)
  | '=' :: [] => some (some .trace)
  | '=' :: name => Threshold.ofText? name
  | _ => none

def mayStart (c : Char) : Bool :=
  c == '-' || c == ':' || c == '_' || c == '[' || Unicode.alphabetic.contains c ||
    Unicode.numeric.contains c

-- The rules of one part of a filter. A rule for spans says nothing about events outside them.
def readRule? (t : Text) : Option (List Rule) :=
  if !t.head?.any mayStart then none
  else
    let target := t.takeWhile fun c => c ≠ '=' && c ≠ '['
    match t.drop target.length with
    | '[' :: rest => do
        let _ ← thresholdAfter? (← afterSpan? rest)
        some []
    | [] =>
        match Threshold.ofText? t with
        | some threshold => some [⟨[], threshold⟩]
        | none => some [⟨t, some .trace⟩]
    | rest => (thresholdAfter? rest).map fun threshold => [⟨target, threshold⟩]

end LogFilter

structure LogFilter where
  rules : List LogFilter.Rule

namespace LogFilter

def ofText? (t : Text) : Option LogFilter := do
  let rules ← ((t.splitOn ',').filter (!·.isEmpty)).mapM readRule?
  some ⟨if rules.flatten.isEmpty then [⟨[], some .error⟩] else rules.flatten⟩

def ofThreshold (threshold : Threshold) : LogFilter := ⟨[⟨[], threshold⟩]⟩

-- The more specific of two rules, the later one if they are for the same target.
def pick (chosen : Option Rule) (rule : Rule) : Option Rule :=
  match chosen with
  | none => some rule
  | some old => if rule.target.length < old.target.length then some old else some rule

def ruleFor? (filter : LogFilter) (target : Text) : Option Rule :=
  (filter.rules.filter fun rule => Text.startsWith rule.target target).foldl pick none

def admits (filter : LogFilter) (event : Event) : Bool :=
  (filter.ruleFor? event.target.toList).any fun rule => rule.threshold.admits event.level

end LogFilter

end PolicyLookup
