import PolicyLookup.Location
import PolicyLookup.Text.Lines

set_option autoImplicit false

namespace PolicyLookup

inductive Shape where
  | singleLine
  | block
deriving DecidableEq

structure Construct where
  location : Location
  shape : Shape
  text : Text
deriving DecidableEq

namespace Construct

def header (c : Construct) : Text := (Text.lines c.text).headD []

def lineCount (c : Construct) : Nat := (Text.lines c.text).length

def isTerminator (line : Text) : Bool :=
  line == ['\'', ')', '\n'] || line == ['\'', ')', '\r', '\n'] || line == ['\'', ')']

def opensBlock (header : Text) : Bool := (Text.trim header).getLast? == some '\x60'

def blockLength? (lines : List Text) : Option Nat := (lines.findIdx? isTerminator).map (· + 1)

def ofLines (location : Location) (lines : List Text) : Except Failure Construct :=
  match lines.drop location.line with
  | [] => .error (.pastEnd location.path location.line)
  | header :: rest =>
      if !opensBlock header then .ok ⟨location, .singleLine, header⟩
      else match blockLength? (header :: rest) with
        | none => .error (.neverClosed location.path location.line)
        | some length => .ok ⟨location, .block, ((header :: rest).take length).flatten⟩

-- The file is read once more: what it holds may have changed since it was searched.
def extract {σ : Type} (source : Source σ) (location : Location) : Lookup σ Construct := do
  let lines ← source.read location.path
  let construct ← Lookup.ofExcept (ofLines location lines)
  if construct.shape = .block then
    let length := (blockLength? (lines.drop location.line)).getD 0
    Lookup.tell (.block location.path location.line length)
  return construct

end Construct

end PolicyLookup
