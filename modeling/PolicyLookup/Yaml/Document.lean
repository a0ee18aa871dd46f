import PolicyLookup.Yaml.Node
import PolicyLookup.Yaml.Scan

set_option autoImplicit false

namespace PolicyLookup.Yaml

structure Reading where
  tokens : List Token
  anchors : List (Text × Nat)
  handles : List (Text × Bytes)

abbrev Reader := StateT Reading (Except Fault)

namespace Reader

def fail {α : Type} (fault : Fault) : Reader α := throw fault

def upcoming : Reader (List Token) := do return (← get).tokens

def skip : Reader Unit := modify fun reading => { reading with tokens := reading.tokens.drop 1 }

def define (name : Text) : Reader Nat := do
  let reading ← get
  let number := reading.anchors.length
  set { reading with anchors := (name, number) :: reading.anchors.filter (·.1 ≠ name) }
  return number

def numberOf (name : Text) : Reader Nat := do
  match (← get).anchors.lookup name with
  | some number => return number
  | none => fail .unknownAnchor

def fullTag (handle : Text) (suffix : Bytes) : Reader Bytes := do
  if handle.isEmpty then return suffix
  match (← get).handles.lookup handle with
  | some start => return start ++ suffix
  | none => fail .tag

def anchor? : Reader (Option Text) := do
  match ← upcoming with
  | .anchor name :: _ => do skip; return some name
  | _ => return none

def tag? : Reader (Option Bytes) := do
  match ← upcoming with
  | .tag handle suffix :: _ => do skip; return some (← fullTag handle suffix)
  | _ => return none

def marks : Reader (Option Text × Option Bytes) := do
  match ← anchor? with
  | some name => return (some name, ← tag?)
  | none =>
      let tag ← tag?
      return (← anchor?, tag)

def endsBlockItem : List Token → Bool
  | .blockEntry :: _ | .key :: _ | .value :: _ | .blockEnd :: _ => true
  | _ => false

def endsSequenceItem : List Token → Bool
  | .blockEntry :: _ | .blockEnd :: _ => true
  | _ => false

def endsMappingItem : List Token → Bool
  | .key :: _ | .value :: _ | .blockEnd :: _ => true
  | _ => false

def endsFlowKey : List Token → Bool
  | .value :: _ | .flowEntry :: _ | .flowMappingEnd :: _ => true
  | _ => false

def endsFlowValue : List Token → Bool
  | .flowEntry :: _ | .flowMappingEnd :: _ => true
  | _ => false

def comma (isFirst : Bool) (fault : Fault) : Reader Unit := do
  if !isFirst then
    match ← upcoming with
    | .flowEntry :: _ => skip
    | _ => fail fault

def plainMark : Bytes := Utf8.encode ['!']

def emptyNode (properties : Properties) : Reader Node :=
  if properties.number.isSome || properties.tag.isSome then return .scalar properties .plain []
  else fail .node

mutual
-- A node. In block context it may be a block collection, and after a key a sequence that is not
-- indented.
def node (inBlock afterKey : Bool) : Nat → Reader Node
  | 0 => fail .node
  | fuel + 1 => do
      match ← upcoming with
      | .alias name :: _ => do
          skip
          return .alias (← numberOf name)
      | _ => do
          let (anchor, tag) ← marks
          let properties : Properties := ⟨← anchor.mapM define, tag⟩
          match ← upcoming with
          | .scalar style text :: _ => do
              skip
              return .scalar { properties with tag := tag.filter (· ≠ plainMark) } style text
          | .flowSequence :: _ => do
              skip
              return .sequence properties (← flowItems true fuel)
          | .flowMapping :: _ => do
              skip
              return .mapping properties (← flowPairs true fuel)
          | .blockSequence :: _ => do
              if !inBlock then emptyNode properties
              else
                skip
                return .sequence properties (← blockItems fuel)
          | .blockMapping :: _ => do
              if !inBlock then emptyNode properties
              else
                skip
                return .mapping properties (← blockPairs fuel)
          | .blockEntry :: _ => do
              if !afterKey then emptyNode properties
              else return .sequence properties (← looseItems fuel)
          | _ => emptyNode properties

def blockItems : Nat → Reader (List Node)
  | 0 => fail .sequence
  | fuel + 1 => do
      match ← upcoming with
      | .blockEntry :: rest => do
          skip
          let item ← if endsSequenceItem rest then pure Node.empty else node true false fuel
          return item :: (← blockItems fuel)
      | .blockEnd :: _ => do
          skip
          return []
      | _ => fail .sequence

def looseItems : Nat → Reader (List Node)
  | 0 => fail .sequence
  | fuel + 1 => do
      match ← upcoming with
      | .blockEntry :: rest => do
          skip
          let item ← if endsBlockItem rest then pure Node.empty else node true false fuel
          return item :: (← looseItems fuel)
      | _ => return []

def blockPairs : Nat → Reader (List (Node × Node))
  | 0 => fail .mapping
  | fuel + 1 => do
      match ← upcoming with
      | .key :: rest => do
          skip
          let key ← if endsMappingItem rest then pure Node.empty else node true true fuel
          let value ← blockValue fuel
          return (key, value) :: (← blockPairs fuel)
      | .blockEnd :: _ => do
          skip
          return []
      | _ => fail .mapping

def blockValue : Nat → Reader Node
  | 0 => fail .mapping
  | fuel + 1 => do
      match ← upcoming with
      | .value :: rest => do
          skip
          if endsMappingItem rest then return Node.empty else node true true fuel
      | _ => return Node.empty

def flowItems (isFirst : Bool) : Nat → Reader (List Node)
  | 0 => fail .sequence
  | fuel + 1 => do
      match ← upcoming with
      | .flowSequenceEnd :: _ => do
          skip
          return []
      | _ => do
          comma isFirst .sequence
          match ← upcoming with
          | .flowSequenceEnd :: _ => do
              skip
              return []
          | .key :: _ => do
              skip
              let item ← flowPair fuel
              return item :: (← flowItems false fuel)
          | _ => do
              let item ← node false false fuel
              return item :: (← flowItems false fuel)

-- A mapping of one entry. The mark that follows an empty key is passed over.
def flowPair : Nat → Reader Node
  | 0 => fail .sequence
  | fuel + 1 => do
      let key ← match ← upcoming with
        | .value :: _ | .flowEntry :: _ | .flowSequenceEnd :: _ => do
            skip
            pure Node.empty
        | _ => node false false fuel
      let value ← match ← upcoming with
        | .value :: rest => do
            skip
            match rest with
            | .flowEntry :: _ | .flowSequenceEnd :: _ => pure Node.empty
            | _ => node false false fuel
        | _ => pure Node.empty
      return .mapping ⟨none, none⟩ [(key, value)]

def flowPairs (isFirst : Bool) : Nat → Reader (List (Node × Node))
  | 0 => fail .mapping
  | fuel + 1 => do
      match ← upcoming with
      | .flowMappingEnd :: _ => do
          skip
          return []
      | _ => do
          comma isFirst .mapping
          match ← upcoming with
          | .flowMappingEnd :: _ => do
              skip
              return []
          | .key :: rest => do
              skip
              let key ← if endsFlowKey rest then pure Node.empty else node false false fuel
              let value ← flowValue fuel
              return (key, value) :: (← flowPairs false fuel)
          | _ => do
              let key ← node false false fuel
              return (key, Node.empty) :: (← flowPairs false fuel)

def flowValue : Nat → Reader Node
  | 0 => fail .mapping
  | fuel + 1 => do
      match ← upcoming with
      | .value :: rest => do
          skip
          if endsFlowValue rest then return Node.empty else node false false fuel
      | _ => return Node.empty
end

def standardHandles : List (Text × Bytes) := [
  (['!'], Utf8.encode ['!']), (['!', '!'], Utf8.encode "tag:yaml.org,2002:".toList)]

def directives (versionKnown : Bool) (known : List (Text × Bytes)) :
    List Token → Except Fault (List (Text × Bytes) × List Token)
  | .version major minor :: rest =>
      if versionKnown || major ≠ 1 || (minor ≠ 1 && minor ≠ 2) then .error .directive
      else directives true known rest
  | .shorthand handle start :: rest =>
      if (known.lookup handle).isSome then .error .directive
      else directives versionKnown (known ++ [(handle, start)]) rest
  | rest => .ok (known, rest)

def endsDocument : List Token → Bool
  | [] | .documentEnd :: _ | .documentStart :: _ | .version _ _ :: _ | .shorthand _ _ :: _ => true
  | _ => false

-- The node of a document and the tokens after it. Only a document that its directives or its
-- start mark announce may be empty.
def document (tokens : List Token) : Except Fault (Node × List Token) := do
  let (given, rest) ← directives false [] tokens
  let handles := given ++ standardHandles
  let content (tokens : List Token) : Except Fault (Node × List Token) := do
    let (node, last) ← (node true false (2 * tokens.length + 2)).run ⟨tokens, [], handles⟩
    .ok (node, last.tokens)
  match rest with
  | .documentStart :: rest => if endsDocument rest then .ok (Node.empty, rest) else content rest
  | _ =>
      match tokens with
      | .version _ _ :: _ | .shorthand _ _ :: _ => .error .document
      | _ => content tokens

end Reader

def Node.ofText? (t : Text) : Except Fault (Option Node) := do
  match ← Token.ofText t with
  | [] => .ok none
  | tokens =>
      let (node, rest) ← Reader.document tokens
      if rest.all (· = .documentEnd) then .ok (some node) else .error .manyDocuments

end PolicyLookup.Yaml
