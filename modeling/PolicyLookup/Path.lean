import PolicyLookup.Text.Utf8

set_option autoImplicit false

namespace PolicyLookup

abbrev Name := Bytes

namespace Name

def here : Name := [0x2E]
def up : Name := [0x2E, 0x2E]

end Name

structure Path where
  bytes : Bytes
deriving DecidableEq, Inhabited

namespace Path

def slash : UInt8 := 0x2F

def ofText (t : Text) : Path := ⟨Utf8.encode t⟩

def text? (p : Path) : Option Text := Utf8.decode? p.bytes

def display (p : Path) : String := String.ofList (Utf8.decodeLossy p.bytes)

def parts (p : Path) : List Bytes := p.bytes.splitOn slash

def isAbsolute (p : Path) : Bool := p.bytes.head? == some slash

def endsInSlash (p : Path) : Bool := p.bytes.getLast? == some slash

inductive Step where
  | root
  | here
  | up
  | name (n : Name)
deriving DecidableEq

def innerStep? (part : Bytes) : Option Step :=
  if part = [] ∨ part = Name.here then none
  else if part = Name.up then some .up
  else some (.name part)

-- What the first part of a relative path stands for: there a dot counts.
def firstStep? (part : Bytes) : Option Step :=
  if part = Name.here then some .here else innerStep? part

def steps (p : Path) : List Step :=
  if p.isAbsolute then .root :: p.parts.filterMap innerStep?
  else match p.parts with
    | [] => []
    | first :: rest => (firstStep? first).toList ++ rest.filterMap innerStep?

def same (p q : Path) : Bool := p.steps == q.steps

theorem same_refl (p : Path) : p.same p = true := by simp [same]

theorem same_symm (p q : Path) : p.same q = q.same p := by
  simp only [same, Bool.beq_comm]

theorem same_trans (p q r : Path) (left : p.same q = true) (right : q.same r = true) :
    p.same r = true := by
  simp only [same, beq_iff_eq] at *
  exact left.trans right

def join (p : Path) (name : Bytes) : Path :=
  if name.head? == some slash || p.bytes.isEmpty then ⟨name⟩
  else if p.endsInSlash then ⟨p.bytes ++ name⟩
  else ⟨p.bytes ++ slash :: name⟩

def ofNames (names : List Name) : Path :=
  if names.isEmpty then ⟨[slash]⟩ else ⟨names.flatMap (slash :: ·)⟩

end Path

end PolicyLookup
