import PolicyLookup.Yaml.Token

set_option autoImplicit false

namespace PolicyLookup.Yaml

structure Properties where
  number : Option Nat
  tag : Option Bytes
deriving DecidableEq

inductive Node where
  | scalar (properties : Properties) (style : Style) (text : Text)
  | sequence (properties : Properties) (items : List Node)
  | mapping (properties : Properties) (entries : List (Node × Node))
  | alias (number : Nat)

namespace Node

def empty : Node := .scalar ⟨none, none⟩ .plain []

instance : Inhabited Node := ⟨empty⟩

def number? : Node → Option Nat
  | .scalar properties _ _ | .sequence properties _ | .mapping properties _ => properties.number
  | .alias _ => none

mutual
def last? (number : Nat) (node : Node) : Option Node :=
  (lastInside? number node).or (if node.number? = some number then some node else none)
termination_by (sizeOf node, 1)

def lastInside? (number : Nat) : Node → Option Node
  | .sequence _ items => lastOf? number items
  | .mapping _ entries => lastOfPairs? number entries
  | _ => none
termination_by node => (sizeOf node, 0)

def lastOf? (number : Nat) : List Node → Option Node
  | [] => none
  | node :: rest => (lastOf? number rest).or (last? number node)
termination_by nodes => (sizeOf nodes, 0)

def lastOfPairs? (number : Nat) : List (Node × Node) → Option Node
  | [] => none
  | (key, value) :: rest =>
      (lastOfPairs? number rest).or ((last? number value).or (last? number key))
termination_by pairs => (sizeOf pairs, 0)
end

def target? (root : Node) : Node → Option Node
  | .alias number => last? number root
  | node => some node

end Node

end PolicyLookup.Yaml
