import PolicyLookup.Regex.Basic
import PolicyLookup.Regex.Expr

set_option autoImplicit false

namespace PolicyLookup.Regex

structure Flags where
  ignoreCase : Bool
  multiLine : Bool
  dotAll : Bool
  crlf : Bool
  swapGreed : Bool
  unicode : Bool

def Flags.start : Flags := ⟨false, false, false, false, false, true⟩

def Flags.change (f : Flags) (change : FlagChange) : Flags where
  ignoreCase := change.apply .ignoreCase f.ignoreCase
  multiLine := change.apply .multiLine f.multiLine
  dotAll := change.apply .dotAll f.dotAll
  crlf := change.apply .crlf f.crlf
  swapGreed := change.apply .swapGreed f.swapGreed
  unicode := change.apply .unicode f.unicode

def Flags.fold (f : Flags) (s : CharSet) : CharSet :=
  if !f.ignoreCase then s else if f.unicode then Unicode.foldCase s else Unicode.foldAscii s

-- The complement if `negated`. Without Unicode it would hold bytes that are no characters.
def Flags.negate (f : Flags) (negated : Bool) (s : CharSet) : Except Fault CharSet :=
  if !negated then .ok s else if f.unicode then .ok s.complement else .error .notUtf8

-- A character as a member of a class. Without Unicode a class has bytes for members.
def Flags.member (f : Flags) (l : Literal) : Except Fault Char :=
  if f.unicode || l.char.toNat < 0x80 then .ok l.char
  else .error (if l.byte then .notUtf8 else .unicodeOff)

def letters : CharSet := ⟨[(0x41, 0x5A), (0x61, 0x7A)]⟩

def Posix.set : Posix → CharSet
  | .alnum => ⟨[(0x30, 0x39), (0x41, 0x5A), (0x61, 0x7A)]⟩
  | .alpha => letters
  | .ascii => ⟨[(0, 0x7F)]⟩
  | .blank => ⟨[(9, 9), (0x20, 0x20)]⟩
  | .cntrl => ⟨[(0, 0x1F), (0x7F, 0x7F)]⟩
  | .digit => ⟨[(0x30, 0x39)]⟩
  | .graph => ⟨[(0x21, 0x7E)]⟩
  | .lower => ⟨[(0x61, 0x7A)]⟩
  | .print => ⟨[(0x20, 0x7E)]⟩
  | .punct => ⟨[(0x21, 0x2F), (0x3A, 0x40), (0x5B, 0x60), (0x7B, 0x7E)]⟩
  | .space => ⟨[(9, 0xD), (0x20, 0x20)]⟩
  | .upper => ⟨[(0x41, 0x5A)]⟩
  | .word => ⟨[(0x30, 0x39), (0x41, 0x5A), (0x5F, 0x5F), (0x61, 0x7A)]⟩
  | .xdigit => ⟨[(0x30, 0x39), (0x41, 0x46), (0x61, 0x66)]⟩

def Shorthand.set (unicode : Bool) : Shorthand → CharSet
  | .digit => if unicode then Unicode.decimal else Posix.set .digit
  | .space => if unicode then Unicode.blank else Posix.set .space
  | .word => if unicode then Unicode.word else Posix.set .word

def SetOp.apply : SetOp → CharSet → CharSet → CharSet
  | .intersection => CharSet.inter
  | .difference => CharSet.diff
  | .symmetricDifference => CharSet.symmDiff

def Flags.property (f : Flags) (negated : Bool) (query : Unicode.Query) : Except Fault CharSet :=
  if !f.unicode then .error .unicodeOff
  else match query.set? with
    | some s => f.negate negated (f.fold s)
    | none => .error .propertyUnknown

def ClassExpr.set (f : Flags) : ClassExpr → Except Fault CharSet
  | .nothing => .ok .empty
  | .one l => (f.member l).map CharSet.singleton
  | .range lo hi => do
      let first ← f.member lo
      let last ← f.member hi
      .ok ⟨[(first.toNat, last.toNat)]⟩
  | .posix negated name => f.negate negated (f.fold name.set)
  | .shorthand negated name => f.negate negated (name.set f.unicode)
  | .property negated query => f.property negated query
  | .union left right => do .ok ((← left.set f).union (← right.set f))
  | .bracket negated body => do f.negate negated (f.fold (← body.set f))
  | .combine op left right => do .ok (op.apply (f.fold (← left.set f)) (f.fold (← right.set f)))

def Flags.dot (f : Flags) : Except Fault CharSet :=
  if !f.unicode then .error .notUtf8
  else if f.dotAll then .ok .all
  else if f.crlf then .ok (CharSet.complement ⟨[(0xA, 0xA), (0xD, 0xD)]⟩)
  else .ok (CharSet.complement ⟨[(0xA, 0xA)]⟩)

def Flags.literal (f : Flags) (l : Literal) : Except Fault CharSet :=
  if !f.unicode && l.byte && 0x80 ≤ l.char.toNat then .error .notUtf8
  else .ok (f.fold (.singleton l.char))

def Flags.look (f : Flags) : Anchor → Look
  | .lineStart => if !f.multiLine then .textStart else if f.crlf then .lineStartCrlf else .lineStart
  | .lineEnd => if !f.multiLine then .textEnd else if f.crlf then .lineEndCrlf else .lineEnd
  | .textStart => .textStart
  | .textEnd => .textEnd
  | .boundary => .word f.unicode .edge
  | .notBoundary => .word f.unicode .inner
  | .wordStart => .word f.unicode .start
  | .wordEnd => .word f.unicode .stop
  | .wordStartHalf => .word f.unicode .startHalf
  | .wordEndHalf => .word f.unicode .stopHalf

-- A flag holds from where it is set to the end of its group, so that the flags after an expression
-- are told with what it matches.
def Expr.meaning : Flags → Expr → Except Fault (Regex × Flags)
  | f, .nothing => .ok (.empty, f)
  | f, .flags change => .ok (.empty, f.change change)
  | f, .literal l => (f.literal l).map fun s => (.set s, f)
  | f, .dot => f.dot.map fun s => (.set s, f)
  | f, .anchor a => .ok (.look (f.look a), f)
  | f, .shorthand negated name => (f.negate negated (name.set f.unicode)).map fun s => (.set s, f)
  | f, .property negated query => (f.property negated query).map fun s => (.set s, f)
  | f, .bracket negated body => ((ClassExpr.bracket negated body).set f).map fun s => (.set s, f)
  | f, .repeated greedy e lo hi =>
      (e.meaning f).map fun (r, _) => (.rep (greedy != f.swapGreed) r lo hi, f)
  | f, .group .capture e => (e.meaning f).map fun (r, _) => (.group true r, f)
  | f, .group (.plain change) e =>
      (e.meaning (f.change change)).map fun (r, _) => (.group false r, f)
  | f, .seq left right =>
      match left.meaning f with
      | .ok (l, f) => (right.meaning f).map fun (r, f) => (.seq l r, f)
      | .error fault => .error fault
  | f, .alt left right =>
      match left.meaning f with
      | .ok (l, f) => (right.meaning f).map fun (r, f) => (.alt l r, f)
      | .error fault => .error fault

end PolicyLookup.Regex
