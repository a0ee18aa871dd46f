import PolicyLookup.Unicode.Property

set_option autoImplicit false

namespace PolicyLookup.Regex

inductive Fault where
  | groupUnclosed
  | groupUnopened
  | groupName
  | groupNameTwice
  | lookAround
  | backreference
  | flagUnknown
  | flagTwice
  | flagMissing
  | repetitionMissing
  | countMalformed
  | escapeUnfinished
  | escapeUnknown
  | codePoint
  | boundaryUnknown
  | classUnclosed
  | classRange
  | classMember
  | propertyUnknown
  | unicodeOff
  | notUtf8
  | tooDeep
  | tooLarge
deriving DecidableEq

-- Only the kind of fault is fixed. How each is worded is this library's own.
def Fault.message : Fault → String
  | .groupUnclosed => "unclosed group"
  | .groupUnopened => "unopened group"
  | .groupName => "invalid capture group name"
  | .groupNameTwice => "duplicate capture group name"
  | .lookAround => "look-around, including look-ahead and look-behind, is not supported"
  | .backreference => "backreferences are not supported"
  | .flagUnknown => "unrecognized flag"
  | .flagTwice => "duplicate flag"
  | .flagMissing => "expected flag but got end of regex"
  | .repetitionMissing => "repetition operator missing expression"
  | .countMalformed => "invalid repetition count"
  | .escapeUnfinished => "incomplete escape sequence"
  | .escapeUnknown => "unrecognized escape sequence"
  | .codePoint => "hexadecimal literal is not a Unicode scalar value"
  | .boundaryUnknown => "unrecognized word boundary assertion"
  | .classUnclosed => "unclosed character class"
  | .classRange => "invalid character class range"
  | .classMember => "invalid member of a character class"
  | .propertyUnknown => "Unicode property not found"
  | .unicodeOff => "Unicode not allowed here"
  | .notUtf8 => "pattern can match invalid UTF-8"
  | .tooDeep => "exceeds the nesting limit"
  | .tooLarge => "Compiled regex exceeds size limit"

-- A character of the pattern. `byte` tells that it was written as a byte of two digits.
structure Literal where
  char : Char
  byte : Bool
deriving DecidableEq

inductive Flag where
  | ignoreCase
  | multiLine
  | dotAll
  | crlf
  | swapGreed
  | unicode
  | verbose
deriving DecidableEq

structure FlagChange where
  on : List Flag
  off : List Flag
deriving DecidableEq

def FlagChange.apply (change : FlagChange) (flag : Flag) (before : Bool) : Bool :=
  if change.off.contains flag then false else before || change.on.contains flag

inductive Anchor where
  | lineStart
  | lineEnd
  | textStart
  | textEnd
  | boundary
  | notBoundary
  | wordStart
  | wordEnd
  | wordStartHalf
  | wordEndHalf
deriving DecidableEq

inductive Shorthand where
  | digit
  | space
  | word
deriving DecidableEq

inductive Posix where
  | alnum
  | alpha
  | ascii
  | blank
  | cntrl
  | digit
  | graph
  | lower
  | print
  | punct
  | space
  | upper
  | word
  | xdigit
deriving DecidableEq

inductive SetOp where
  | intersection
  | difference
  | symmetricDifference
deriving DecidableEq

inductive ClassExpr where
  | nothing
  | one (l : Literal)
  | range (lo hi : Literal)
  | posix (negated : Bool) (name : Posix)
  | shorthand (negated : Bool) (name : Shorthand)
  | property (negated : Bool) (query : Unicode.Query)
  | union (left right : ClassExpr)
  | bracket (negated : Bool) (body : ClassExpr)
  | combine (op : SetOp) (left right : ClassExpr)
deriving DecidableEq

inductive GroupKind where
  | capture
  | plain (change : FlagChange)
deriving DecidableEq

inductive Expr where
  | nothing
  | flags (change : FlagChange)
  | literal (l : Literal)
  | dot
  | anchor (a : Anchor)
  | shorthand (negated : Bool) (name : Shorthand)
  | property (negated : Bool) (query : Unicode.Query)
  | bracket (negated : Bool) (body : ClassExpr)
  | repeated (greedy : Bool) (e : Expr) (lo : Nat) (hi : Option Nat)
  | group (kind : GroupKind) (e : Expr)
  | seq (left right : Expr)
  | alt (left right : Expr)
deriving DecidableEq

def ClassExpr.ofList : List ClassExpr → ClassExpr
  | [] => .nothing
  | [e] => e
  | e :: rest => .union e (ofList rest)

def Expr.ofSeq : List Expr → Expr
  | [] => .nothing
  | [e] => e
  | e :: rest => .seq e (ofSeq rest)

def Expr.ofAlt : List Expr → Expr
  | [] => .nothing
  | [e] => e
  | e :: rest => .alt e (ofAlt rest)

def ClassExpr.depth (inRow : Bool) : ClassExpr → Nat
  | .union left right => (if inRow then 0 else 1) + max (left.depth true) (right.depth true)
  | .bracket _ body => 1 + body.depth false
  | .combine _ left right => 1 + max (left.depth false) (right.depth false)
  | _ => 0

inductive Chain where
  | none
  | seq
  | alt
deriving DecidableEq

-- How deep an expression is nested. A sequence is one level however long it is, and so is a
-- choice; `chain` tells which of them has been counted.
def Expr.depth (chain : Chain) : Expr → Nat
  | .seq left right =>
      (if chain = .seq then 0 else 1) + max (left.depth .seq) (right.depth .seq)
  | .alt left right =>
      (if chain = .alt then 0 else 1) + max (left.depth .alt) (right.depth .alt)
  | .group _ e => 1 + e.depth .none
  | .repeated _ e _ _ => 1 + e.depth .none
  | .bracket _ body => 1 + body.depth false
  | _ => 0

def depthLimit : Nat := 250

end PolicyLookup.Regex
