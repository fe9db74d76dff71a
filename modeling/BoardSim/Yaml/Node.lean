import BoardSim.Yaml.Token.Lexer

/-!
# Nodes

The tree of a YAML document. A text holds one document. Aliases stay in the tree, as what they
stand for is settled at the end of the document only.

An anchor has a number: how many names are in use before it. So a name that is used again takes a
new number, and the next new name takes the same one. An alias is the number of its name at that
point, and stands for the last node with the number.
-/

namespace BoardSim.Yaml

inductive Node where
  | scalar (tag : Option Tag) (style : ScalarStyle) (text : String)
  | seq (tag : Option Tag) (items : List Node)
  | map (tag : Option Tag) (entries : List (Node × Node))
  | alias (number : Nat)
deriving Inhabited

structure Document where
  root : Node
  targets : Array Node

namespace Node

/-- A node that is left out. -/
def missing : Node := .scalar none .plain ""

/-- The tokens not yet read, and what anchors and tag handles stand for. -/
structure State where
  tokens : List Token
  /-- The handles of tags and what tags with them begin with. -/
  handles : List (String × List UInt8) := []
  names : List (String × Nat) := []
  /-- The place of the last node with each number. -/
  places : Array Nat := #[]
  /-- The anchored nodes, in the order they begin in. -/
  anchored : Array Node := #[]

namespace State

def next? (s : State) : Option Token := s.tokens.head?

def skip (s : State) : State := { s with tokens := s.tokens.tail }

/-- Give an anchor its number. Its node is not complete. -/
def declare (s : State) (anchor : Option String) : State :=
  match anchor with
  | none => s
  | some name =>
    let number := s.names.length
    let place := s.anchored.size
    { s with
      names := (name, number) :: s.names.filter (·.1 != name)
      places :=
        if number < s.places.size then s.places.setIfInBounds number place
        else s.places.push place
      anchored := s.anchored.push missing }

def complete (s : State) (anchor : Option String) (place : Nat) (node : Node) : State :=
  if anchor.isNone then s else { s with anchored := s.anchored.setIfInBounds place node }

def number? (s : State) (name : String) : Option Nat :=
  (s.names.find? (·.1 == name)).map (·.2)

def targets (s : State) : Array Node := s.places.map fun place => s.anchored.getD place missing

def tag? (s : State) (handle : String) (suffix : List UInt8) : Option Tag :=
  if handle = "" then some ⟨suffix⟩
  else (s.handles.find? (·.1 == handle)).map fun (_, start) => ⟨start ++ suffix⟩

end State

/-- What stands before the content of a node. -/
structure Properties where
  anchor : Option String := none
  tag : Option Tag := none

/-- The anchor and the tag of a node, in either order. -/
def properties? (s : State) : Option (Properties × State) :=
  match s.tokens with
  | .anchor name :: .tag handle suffix :: tokens =>
    (s.tag? handle suffix).map fun tag => (⟨some name, some tag⟩, { s with tokens })
  | .tag handle suffix :: .anchor name :: tokens =>
    (s.tag? handle suffix).map fun tag => (⟨some name, some tag⟩, { s with tokens })
  | .anchor name :: tokens => some (⟨some name, none⟩, { s with tokens })
  | .tag handle suffix :: tokens =>
    (s.tag? handle suffix).map fun tag => (⟨none, some tag⟩, { s with tokens })
  | _ => some ({}, s)

/-- The next token begins an entry or ends the block, so a node is left out before it. -/
def endsBlockValue : Option Token → Bool
  | some .key | some .value | some .blockEnd => true
  | _ => false

mutual

/-- One node. A block collection is one only where `block` is set, and entries of a sequence that
is not indented only where `flat` is. -/
def node? (fuel : Nat) (block flat : Bool) (s : State) : Option (Node × State) :=
  match fuel with
  | 0 => none
  | fuel + 1 =>
    match s.tokens with
    | .aliasOf name :: tokens =>
      (s.number? name).map fun number => (.alias number, { s with tokens })
    | _ => do
      let (p, s) ← properties? s
      -- The anchor is known inside the node already, where an alias to it is a cycle.
      let place := s.anchored.size
      let s := s.declare p.anchor
      let (node, s) ← content? fuel block flat p s
      pure (node, s.complete p.anchor place node)

def content? (fuel : Nat) (block flat : Bool) (p : Properties) (s : State) :
    Option (Node × State) :=
  match fuel with
  | 0 => none
  | fuel + 1 =>
    match s.next? with
    | some (.scalar text style) =>
      some (.scalar p.tag style text, s.skip)
    | some .flowSequenceStart =>
      (flowItems? fuel true [] s.skip).map fun (items, s) => (.seq p.tag items, s)
    | some .flowMappingStart =>
      (flowEntries? fuel true [] s.skip).map fun (entries, s) => (.map p.tag entries, s)
    | some .blockSequenceStart =>
      if block then (blockItems? fuel [] s.skip).map fun (items, s) => (.seq p.tag items, s)
      else empty? p s
    | some .blockMappingStart =>
      if block then (blockEntries? fuel [] s.skip).map fun (entries, s) => (.map p.tag entries, s)
      else empty? p s
    | some .blockEntry =>
      if flat then (flatItems? fuel [] s).map fun (items, s) => (.seq p.tag items, s)
      else empty? p s
    | _ => empty? p s

/-- A node without content needs an anchor or a tag. -/
def empty? (p : Properties) (s : State) : Option (Node × State) :=
  if p.anchor.isSome || p.tag.isSome then some (.scalar p.tag .plain "", s) else none

def blockItems? (fuel : Nat) (done : List Node) (s : State) : Option (List Node × State) :=
  match fuel with
  | 0 => none
  | fuel + 1 =>
    match s.next? with
    | some .blockEntry => do
      let s := s.skip
      let (node, s) ←
        match s.next? with
        | some .blockEntry | some .blockEnd => pure (missing, s)
        | _ => node? fuel true false s
      blockItems? fuel (node :: done) s
    | some .blockEnd => some (done.reverse, s.skip)
    | _ => none

/-- The items of a sequence that is not indented. -/
def flatItems? (fuel : Nat) (done : List Node) (s : State) : Option (List Node × State) :=
  match fuel with
  | 0 => none
  | fuel + 1 =>
    match s.next? with
    | some .blockEntry => do
      let s := s.skip
      let (node, s) ←
        if s.next? = some .blockEntry || endsBlockValue s.next? then pure (missing, s)
        else node? fuel true false s
      flatItems? fuel (node :: done) s
    | _ => some (done.reverse, s)

def blockEntries? (fuel : Nat) (done : List (Node × Node)) (s : State) :
    Option (List (Node × Node) × State) :=
  match fuel with
  | 0 => none
  | fuel + 1 =>
    match s.next? with
    | some .key => do
      let (key, s) ← blockValue? fuel s.skip
      let (value, s) ←
        if s.next? = some .value then blockValue? fuel s.skip else pure (missing, s)
      blockEntries? fuel ((key, value) :: done) s
    | some .blockEnd => some (done.reverse, s.skip)
    | _ => none

def blockValue? (fuel : Nat) (s : State) : Option (Node × State) :=
  match fuel with
  | 0 => none
  | fuel + 1 => if endsBlockValue s.next? then some (missing, s) else node? fuel true true s

/-- The items of a flow sequence, up to its end. An item with a key is a mapping of one entry. -/
def flowItems? (fuel : Nat) (first : Bool) (done : List Node) (s : State) :
    Option (List Node × State) :=
  match fuel with
  | 0 => none
  | fuel + 1 =>
    if s.next? = some .flowSequenceEnd then some (done.reverse, s.skip)
    else if !first && s.next? ≠ some .flowEntry then none
    else
      let s := if first then s else s.skip
      match s.next? with
      | some .flowSequenceEnd => some (done.reverse, s.skip)
      | some .key => do
        let (pair, s) ← flowPair? fuel s.skip
        flowItems? fuel false (pair :: done) s
      | _ => do
        let (node, s) ← node? fuel false false s
        flowItems? fuel false (node :: done) s

/-- The one entry of a mapping in a flow sequence. -/
def flowPair? (fuel : Nat) (s : State) : Option (Node × State) :=
  match fuel with
  | 0 => none
  | fuel + 1 => do
    let (key, s) ←
      match s.next? with
      | some .value | some .flowEntry | some .flowSequenceEnd => pure (missing, s.skip)
      | _ => node? fuel false false s
    let (value, s) ←
      if s.next? = some .value then flowValue? fuel .flowSequenceEnd s.skip else pure (missing, s)
    pure (.map none [(key, value)], s)

/-- A value in a flow collection that ends with `closing`. -/
def flowValue? (fuel : Nat) (closing : Token) (s : State) : Option (Node × State) :=
  match fuel with
  | 0 => none
  | fuel + 1 =>
    if s.next? = some .flowEntry || s.next? = some closing then some (missing, s)
    else node? fuel false false s

def flowEntries? (fuel : Nat) (first : Bool) (done : List (Node × Node)) (s : State) :
    Option (List (Node × Node) × State) :=
  match fuel with
  | 0 => none
  | fuel + 1 =>
    if s.next? = some .flowMappingEnd then some (done.reverse, s.skip)
    else if !first && s.next? ≠ some .flowEntry then none
    else
      let s := if first then s else s.skip
      match s.next? with
      | some .flowMappingEnd => some (done.reverse, s.skip)
      | some .key => do
        let s := s.skip
        let (key, s) ←
          if s.next? = some .value then pure (missing, s)
          else flowValue? fuel .flowMappingEnd s
        let (value, s) ←
          if s.next? = some .value then flowValue? fuel .flowMappingEnd s.skip
          else pure (missing, s)
        flowEntries? fuel false ((key, value) :: done) s
      | _ => do
        let (key, s) ← node? fuel false false s
        flowEntries? fuel false ((key, missing) :: done) s

end

end Node

namespace Document

open Node

/-- The handles that need no directive. -/
def defaultHandles : List (String × List UInt8) :=
  [("!", asciiBytes ['!']), ("!!", (Tag.core "").bytes)]

/-- The directives before a document: at most one version, which has to be 1.1 or 1.2, and each
handle at most once. -/
def directives? (versioned : Bool) (handles : List (String × List UInt8)) :
    List Token → Option (List (String × List UInt8) × List Token)
  | .versionDirective major minor :: tokens =>
    if versioned || major ≠ 1 || (minor ≠ 1 && minor ≠ 2) then none
    else directives? true handles tokens
  | .tagDirective handle start :: tokens =>
    if handles.any (·.1 == handle) then none
    else directives? versioned ((handle, start) :: handles) tokens
  | tokens => some (handles ++ defaultHandles, tokens)

/-- The content of a document whose beginning is marked. -/
def markedContent? (fuel : Nat) (s : State) : Option (Node × State) :=
  match s.next? with
  | none | some .documentStart | some .documentEnd | some (.versionDirective ..)
  | some (.tagDirective ..) => some (missing, s)
  | _ => node? fuel true false s

def ofTokens? (tokens : List Token) : Option Document := do
  let fuel := 4 * tokens.length + 8
  let (handles, rest) ← directives? false [] tokens
  let isMarked := rest.head? = some .documentStart
  -- Directives belong to a document whose beginning is marked.
  if tokens.isEmpty || (rest.length < tokens.length && !isMarked) then none
  else
    let s : State := { tokens := rest, handles }
    let (root, s) ← if isMarked then markedContent? fuel s.skip else node? fuel true false s
    if s.tokens.all (· = .documentEnd) then pure { root, targets := s.targets } else none

def ofText? (text : String) : Option Document := do
  let tokens ← Token.ofText? text
  ofTokens? tokens

end Document

end BoardSim.Yaml
