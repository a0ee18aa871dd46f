import PolicyLookup.Regex.Expr
import PolicyLookup.Text.Number

set_option autoImplicit false

namespace PolicyLookup.Regex

def isMeta (c : Char) : Bool :=
  c == '\\' || c == '.' || c == '+' || c == '*' || c == '?' || c == '(' || c == ')' || c == '|' ||
    c == '[' || c == ']' || c == '\x7b' || c == '\x7d' || c == '^' || c == '$' || c == '#' ||
    c == '&' || c == '-' || c == '~'

def escape (t : Text) : Text := t.flatMap fun c => if isMeta c then ['\\', c] else [c]

def dropSpace (inComment : Bool) : Text → Text
  | [] => []
  | c :: rest =>
      if inComment then dropSpace (c ≠ '\n') rest
      else if Text.isBlank c then dropSpace false rest
      else if c = '#' then dropSpace true rest
      else c :: rest

def skip (verbose : Bool) (t : Text) : Text := if verbose then dropSpace false t else t

def takeSkipping (verbose : Bool) (kind : Char → Bool) : Nat → Text → Text × Text
  | n + 1, c :: rest =>
      if kind c then
        let (taken, rest) := takeSkipping verbose kind n (skip verbose rest)
        (c :: taken, rest)
      else ([], c :: rest)
  | _, t => ([], t)

def greatestCount : Nat := 4294967295

def readDecimal (verbose : Bool) (t : Text) : Except Fault (Nat × Text) :=
  let t := t.dropWhile Text.isBlank
  let (digits, rest) := takeSkipping verbose Char.isDigit t.length t
  let n := Text.numberOf 10 digits
  if digits.isEmpty || greatestCount < n then .error .countMalformed
  else .ok (n, skip verbose (rest.dropWhile Text.isBlank))

def readGreed : Text → Bool × Text
  | '?' :: rest => (false, rest)
  | t => (true, t)

def readCount (verbose : Bool) (t : Text) : Except Fault ((Nat × Option Nat) × Text) := do
  let (lo, rest) ← readDecimal verbose (skip verbose t)
  let (hi, rest) ← match rest with
    | ',' :: more =>
        match skip verbose more with
        | '\x7d' :: last => .ok (none, '\x7d' :: last)
        | more => (readDecimal verbose more).map fun (hi, rest) => (some hi, rest)
    | rest => .ok (some lo, rest)
  match rest with
  | '\x7d' :: rest =>
      if hi.any (· < lo) then .error .countMalformed else .ok ((lo, hi), skip verbose rest)
  | _ => .error .countMalformed

def charOf? (n : Nat) : Option Char := if n.isValidChar then some (Char.ofNat n) else none

def readCodePoint (verbose : Bool) (width : Nat) (t : Text) : Except Fault (Char × Text) :=
  let charFrom (digits rest : Text) : Except Fault (Char × Text) :=
    match charOf? (Text.numberOf 16 digits) with
    | some c => .ok (c, rest)
    | none => .error .codePoint
  match skip verbose t with
  | '\x7b' :: rest =>
      let rest := skip verbose rest
      match takeSkipping verbose (· ≠ '\x7d') rest.length rest with
      | (digits, '\x7d' :: rest) =>
          if digits.isEmpty || !digits.all Text.isHex then .error .codePoint
          else charFrom digits (skip verbose rest)
      | _ => .error .escapeUnfinished
  | t =>
      let (digits, rest) := takeSkipping verbose Text.isHex width t
      if digits.length = width then charFrom digits rest
      else .error (if rest.isEmpty then .escapeUnfinished else .codePoint)

def cutAt? (mark : Text) (t : Text) : Option (Text × Text) :=
  (Text.indexOf? mark t).map fun n => (t.take n, t.drop (n + mark.length))

def queryOf (t : Text) : Unicode.Query :=
  match (cutAt? ['!', '='] t).or ((cutAt? [':'] t).or (cutAt? ['='] t)) with
  | some (name, value) => .valued name value
  | none => .named t

def readProperty (verbose : Bool) (t : Text) : Except Fault (Unicode.Query × Text) :=
  match skip verbose t with
  | [] => .error .escapeUnfinished
  | '\x7b' :: rest =>
      let rest := skip verbose rest
      match takeSkipping verbose (· ≠ '\x7d') rest.length rest with
      | (name, '\x7d' :: rest) => .ok (queryOf name, rest)
      | _ => .error .escapeUnfinished
  | c :: rest => if c = '\\' then .error .propertyUnknown else .ok (.named [c], skip verbose rest)

-- The kind of boundary after `\b`. A brace that cannot name one is left to be a count.
def readBoundary (verbose : Bool) : Text → Except Fault (Anchor × Text)
  | '\x7b' :: rest =>
      let isLetter (c : Char) := c.isAlpha || c == '-'
      match skip verbose rest with
      | [] => .error .boundaryUnknown
      | c :: more =>
          if !isLetter c then .ok (.boundary, '\x7b' :: rest)
          else match takeSkipping verbose isLetter (more.length + 1) (c :: more) with
            | (name, '\x7d' :: rest) =>
                if name = "start".toList then .ok (.wordStart, rest)
                else if name = "end".toList then .ok (.wordEnd, rest)
                else if name = "start-half".toList then .ok (.wordStartHalf, rest)
                else if name = "end-half".toList then .ok (.wordEndHalf, rest)
                else .error .boundaryUnknown
            | _ => .error .boundaryUnknown
  | t => .ok (.boundary, t)

-- What stands after a backslash. Of ASCII, all but letters, digits and angles may be escaped.
def readEscape (verbose : Bool) : Text → Except Fault (Expr × Text)
  | [] => .error .escapeUnfinished
  | c :: rest =>
      let plain (c : Char) : Except Fault (Expr × Text) := .ok (.literal ⟨c, false⟩, rest)
      let anchor (a : Anchor) : Except Fault (Expr × Text) := .ok (.anchor a, rest)
      let shorthand (negated : Bool) (name : Shorthand) : Except Fault (Expr × Text) :=
        .ok (.shorthand negated name, rest)
      let codePoint (width : Nat) : Except Fault (Expr × Text) :=
        (readCodePoint verbose width rest).map fun (char, after) =>
          (.literal ⟨char, width = 2 && (skip verbose rest).head? != some '\x7b'⟩, after)
      if c.isDigit then .error .backreference
      else if isMeta c then plain c
      else match c with
        | 'x' => codePoint 2
        | 'u' => codePoint 4
        | 'U' => codePoint 8
        | 'p' => (readProperty verbose rest).map fun (q, after) => (.property false q, after)
        | 'P' => (readProperty verbose rest).map fun (q, after) => (.property true q, after)
        | 'd' => shorthand false .digit
        | 's' => shorthand false .space
        | 'w' => shorthand false .word
        | 'D' => shorthand true .digit
        | 'S' => shorthand true .space
        | 'W' => shorthand true .word
        | 'a' => plain '\x07'
        | 'f' => plain '\x0c'
        | 't' => plain '\t'
        | 'n' => plain '\n'
        | 'r' => plain '\r'
        | 'v' => plain '\x0b'
        | 'A' => anchor .textStart
        | 'z' => anchor .textEnd
        | 'b' => (readBoundary verbose rest).map fun (a, after) => (.anchor a, after)
        | 'B' => anchor .notBoundary
        | '<' => anchor .wordStart
        | '>' => anchor .wordEnd
        | c => if c.toNat < 0x80 && !c.isAlpha then plain c else .error .escapeUnknown

def posixNames : List (String × Posix) := [
  ("alnum", .alnum), ("alpha", .alpha), ("ascii", .ascii), ("blank", .blank), ("cntrl", .cntrl),
  ("digit", .digit), ("graph", .graph), ("lower", .lower), ("print", .print), ("punct", .punct),
  ("space", .space), ("upper", .upper), ("word", .word), ("xdigit", .xdigit)]

def readPosix? : Text → Option (ClassExpr × Text)
  | ':' :: rest =>
      let (negated, rest) := match rest with
        | '^' :: more => (true, more)
        | _ => (false, rest)
      match rest.dropWhile (· ≠ ':') with
      | ':' :: ']' :: after =>
          (posixNames.lookup (String.ofList (rest.takeWhile (· ≠ ':')))).map fun name =>
            (.posix negated name, after)
      | _ => none
  | _ => none

def memberOf? : Expr → Option ClassExpr
  | .literal l => some (.one l)
  | .shorthand negated name => some (.shorthand negated name)
  | .property negated query => some (.property negated query)
  | _ => none

def readMember (verbose : Bool) : Text → Except Fault (Expr × Text)
  | [] => .error .classUnclosed
  | '\\' :: rest => readEscape verbose rest
  | c :: rest => .ok (.literal ⟨c, false⟩, rest)

private def insideComment? : Text → Option Char
  | [] => none
  | c :: rest => if Text.isBlank c then insideComment? rest else some c

def peek? (verbose : Bool) (t : Text) : Option Char :=
  if verbose then
    match t.dropWhile Text.isBlank with
    | '#' :: rest => (insideComment? rest).or t.head?
    | [] => t.head?
    | c :: _ => some c
  else t.head?

def readRange (verbose : Bool) (t : Text) : Except Fault (ClassExpr × Text) := do
  let (first, rest) ← readMember verbose t
  match skip verbose rest with
  | [] => .error .classUnclosed
  | c :: more =>
      if c ≠ '-' ∨ peek? verbose more = some ']' ∨ peek? verbose more = some '-' then
        match memberOf? first with
        | some member => .ok (member, c :: more)
        | none => .error .classMember
      else
        let (last, rest) ← readMember verbose (skip verbose more)
        match first, last with
        | .literal lo, .literal hi =>
            if lo.char ≤ hi.char then .ok (.range lo hi, rest) else .error .classRange
        | _, _ => .error .classRange

def takeDashes (verbose : Bool) : Nat → Text → List ClassExpr × Text
  | n + 1, '-' :: rest =>
      let (dashes, rest) := takeDashes verbose n (skip verbose rest)
      (.one ⟨'-', false⟩ :: dashes, rest)
  | _, t => ([], t)

-- What a class has so far: the members of the row being read, last first, and what an operator
-- before it applies to.
structure Row where
  members : List ClassExpr
  pending : Option (SetOp × ClassExpr)

def Row.add (row : Row) (member : ClassExpr) : Row := { row with members := member :: row.members }

def Row.close (row : Row) : ClassExpr :=
  let item := ClassExpr.ofList row.members.reverse
  match row.pending with
  | some (op, left) => .combine op left item
  | none => item

mutual
def readBracket (verbose : Bool) : Nat → Text → Except Fault ((Bool × ClassExpr) × Text)
  | 0, _ => .error .classUnclosed
  | n + 1, t => do
      let t := skip verbose t
      let (negated, t) := match t with
        | '^' :: rest => (true, skip verbose rest)
        | _ => (false, t)
      let (dashes, t) := takeDashes verbose t.length t
      let (members, t) := match dashes, t with
        | [], ']' :: rest => ([ClassExpr.one ⟨']', false⟩], rest)
        | _, _ => (dashes.reverse, t)
      let (body, rest) ← readRow verbose n ⟨members, none⟩ t
      .ok ((negated, body), rest)

def readRow (verbose : Bool) : Nat → Row → Text → Except Fault (ClassExpr × Text)
  | 0, _, _ => .error .classUnclosed
  | n + 1, row, t =>
      let combine (op : SetOp) (rest : Text) := readRow verbose n ⟨[], some (op, row.close)⟩ rest
      match skip verbose t with
      | [] => .error .classUnclosed
      | ']' :: rest => .ok (row.close, rest)
      | '&' :: '&' :: rest => combine .intersection rest
      | '-' :: '-' :: rest => combine .difference rest
      | '~' :: '~' :: rest => combine .symmetricDifference rest
      | '[' :: rest =>
          match readPosix? rest with
          | some (member, rest) => readRow verbose n (row.add member) rest
          | none => do
              let ((negated, body), rest) ← readBracket verbose n rest
              readRow verbose n (row.add (.bracket negated body)) rest
      | t => do
          let (member, rest) ← readRange verbose t
          readRow verbose n (row.add member) rest
end

def readClass (verbose : Bool) (t : Text) : Except Fault (Expr × Text) :=
  (readBracket verbose (2 * t.length + 2) t).map fun ((negated, body), rest) =>
    (.bracket negated body, rest)

def flagOf? : Char → Option Flag
  | 'i' => some .ignoreCase
  | 'm' => some .multiLine
  | 's' => some .dotAll
  | 'U' => some .swapGreed
  | 'u' => some .unicode
  | 'R' => some .crlf
  | 'x' => some .verbose
  | _ => none

def readFlags (seen : List (Option Flag)) : Text → Except Fault (List (Option Flag) × Text)
  | [] => .error .flagMissing
  | c :: rest =>
      if c = ':' ∨ c = ')' then
        if seen.getLast? = some none then .error .flagMissing else .ok (seen, c :: rest)
      else if c = '-' then
        if seen.contains none then .error .flagTwice else readFlags (seen ++ [none]) rest
      else match flagOf? c with
        | none => .error .flagUnknown
        | some flag =>
            if seen.contains (some flag) then .error .flagTwice
            else readFlags (seen ++ [some flag]) rest

def changeOf (items : List (Option Flag)) : FlagChange :=
  ⟨(items.takeWhile Option.isSome).filterMap id, (items.dropWhile Option.isSome).filterMap id⟩

def isNameChar (isFirst : Bool) (c : Char) : Bool :=
  let isLetter := if c.toNat < 0x80 then c.isAlpha else Unicode.alphabetic.contains c
  let isNumber := if c.toNat < 0x80 then c.isDigit else Unicode.numeric.contains c
  c == '_' || isLetter || (!isFirst && (c == '.' || c == '[' || c == ']' || isNumber))

def readName (t : Text) : Except Fault (Text × Text) :=
  match t.takeWhile (· ≠ '>'), t.dropWhile (· ≠ '>') with
  | first :: more, '>' :: rest =>
      if isNameChar true first && more.all (isNameChar false) then .ok (first :: more, rest)
      else .error .groupName
  | _, _ => .error .groupName

inductive Opening where
  | directive (change : FlagChange)
  | group (kind : GroupKind) (name : Option Text)

def readOpening (verbose : Bool) (t : Text) : Except Fault (Opening × Text) :=
  match skip verbose t with
  | '?' :: '=' :: _ | '?' :: '!' :: _ | '?' :: '<' :: '=' :: _ | '?' :: '<' :: '!' :: _ =>
      .error .lookAround
  | '?' :: 'P' :: '<' :: rest | '?' :: '<' :: rest =>
      (readName rest).map fun (name, rest) => (.group .capture (some name), rest)
  | '?' :: rest => do
      let (items, rest) ← readFlags [] rest
      match rest with
      | ')' :: rest =>
          if items.isEmpty then .error .repetitionMissing else .ok (.directive (changeOf items), rest)
      | rest => .ok (.group (.plain (changeOf items)) none, rest.drop 1)
  | t => .ok (.group .capture none, t)

-- One level of groups being read: the choices that are complete and the items of the next one,
-- both last first.
structure Level where
  choices : List Expr
  items : List Expr

def Level.start : Level := ⟨[], []⟩

def Level.push (level : Level) (e : Expr) : Level := { level with items := e :: level.items }

def Level.nextChoice (level : Level) : Level := ⟨Expr.ofSeq level.items.reverse :: level.choices, []⟩

def Level.close (level : Level) : Expr := Expr.ofAlt level.nextChoice.choices.reverse

structure OpenGroup where
  kind : GroupKind
  verboseOutside : Bool
  outside : Level

structure Reading where
  verbose : Bool
  level : Level
  groups : List OpenGroup
  names : List Text

namespace Reading

def start : Reading := ⟨false, Level.start, [], []⟩

def push (r : Reading) (e : Expr) : Reading := { r with level := r.level.push e }

def repeatLast (r : Reading) (lo : Nat) (hi : Option Nat) (t : Text) : Except Fault (Reading × Text) :=
  match r.level.items with
  | [] | .flags _ :: _ => .error .repetitionMissing
  | e :: before =>
      let (greedy, rest) := readGreed t
      .ok ({ r with level := { r.level with items := .repeated greedy e lo hi :: before } }, rest)

def openGroup (r : Reading) : Opening → Except Fault Reading
  | .directive change =>
      .ok { r.push (.flags change) with verbose := change.apply .verbose r.verbose }
  | .group kind name =>
      let verbose := match kind with
        | .capture => r.verbose
        | .plain change => change.apply .verbose r.verbose
      if name.any r.names.contains then .error .groupNameTwice
      else .ok {
        verbose
        level := Level.start
        groups := ⟨kind, r.verbose, r.level⟩ :: r.groups
        names := name.toList ++ r.names }

def closeGroup (r : Reading) : Except Fault Reading :=
  match r.groups with
  | [] => .error .groupUnopened
  | g :: rest =>
      .ok { r with
        verbose := g.verboseOutside
        level := g.outside.push (.group g.kind r.level.close)
        groups := rest }

def finish (r : Reading) : Except Fault Expr :=
  if r.groups.isEmpty then .ok r.level.close else .error .groupUnclosed

def step (r : Reading) (c : Char) (rest : Text) : Except Fault (Reading × Text) :=
  match c with
  | '(' => do
      let (opening, rest) ← readOpening r.verbose rest
      .ok (← r.openGroup opening, rest)
  | ')' => r.closeGroup.map (·, rest)
  | '|' => .ok ({ r with level := r.level.nextChoice }, rest)
  | '[' => (readClass r.verbose rest).map fun (e, rest) => (r.push e, rest)
  | '?' => r.repeatLast 0 (some 1) rest
  | '*' => r.repeatLast 0 none rest
  | '+' => r.repeatLast 1 none rest
  | '\x7b' => do
      let ((lo, hi), rest) ← readCount r.verbose rest
      r.repeatLast lo hi rest
  | '\\' => (readEscape r.verbose rest).map fun (e, rest) => (r.push e, rest)
  | '.' => .ok (r.push .dot, rest)
  | '^' => .ok (r.push (.anchor .lineStart), rest)
  | '$' => .ok (r.push (.anchor .lineEnd), rest)
  | c => .ok (r.push (.literal ⟨c, false⟩), rest)

-- Reads to the end. Each step takes a character at least.
def run : Nat → Reading → Text → Except Fault Expr
  | 0, r, _ => r.finish
  | n + 1, r, t =>
      match skip r.verbose t with
      | [] => r.finish
      | c :: rest => do
          let (r, rest) ← r.step c rest
          run n r rest

end Reading

def Expr.ofText (t : Text) : Except Fault Expr := do
  let e ← Reading.run (t.length + 1) Reading.start t
  if depthLimit < e.depth .none then .error .tooDeep else .ok e

end PolicyLookup.Regex
