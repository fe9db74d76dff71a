import BoardSim.Outline
import BoardSim.Yaml.Node

/-!
# Reading documents

What is read of a document has its aliases replaced by the nodes they stand for. A node may hold an
alias that stands for itself, and aliases of aliases stand for trees of any size. So nodes nest at
most `maxDepth` deep, aliases being followed, and the number of aliases that are followed is bounded
by the size of the document. Neither counts in what is passed over.

The keys of a mapping with a local tag are bare: their own tags do not count, nor those of the keys
within them. What an alias stands for has its tag everywhere.
-/

namespace BoardSim.Yaml

/-- How deep sequences and mappings may nest. -/
def maxDepth : Nat := 128

/-- How many aliases may be followed for each event. -/
def aliasesPerEvent : Nat := 100

namespace Node

mutual

/-- The events of a node: one for a scalar or an alias, two for the ends of a collection. -/
def events : Node → Nat
  | .scalar .. | .alias _ => 1
  | .seq _ items => 2 + eventsOfItems items
  | .map _ entries => 2 + eventsOfEntries entries

def eventsOfItems : List Node → Nat
  | [] => 0
  | item :: rest => events item + eventsOfItems rest

def eventsOfEntries : List (Node × Node) → Nat
  | [] => 0
  | (key, value) :: rest => events key + events value + eventsOfEntries rest

end

def isAlias : Node → Bool
  | .alias _ => true
  | _ => false

/-- What is read of a mapping's value; `none` if it is passed over. -/
def outlineOf (outline : Outline) (key : Node) : Option Outline :=
  match key with
  | .scalar _ _ name => outline.member? name
  | _ => some .whole

end Node

namespace Document

/-- A step of reading; the number is how many aliases may still be followed. -/
abbrev Step := StateT Nat Option

def follow (d : Document) : Node → Step Node
  | .alias number => fun left => do
    let node ← d.targets[number]?
    if left = 0 then none else pure (node, left - 1)
  | node => pure node

def tagAt (bare : Bool) (tag : Option Tag) : Option Tag := if bare then none else tag

/-- What `outline` tells of a node, without aliases; `depth` more levels may be opened. -/
def expand (d : Document) (depth : Nat) (outline : Outline) (bare : Bool) (node : Node) :
    Step Node :=
  let bare := bare && !node.isAlias
  match depth with
  | 0 => do
    match ← d.follow node with
    | .scalar tag style text => pure (.scalar (tagAt bare tag) style text)
    | _ => failure
  | depth + 1 => do
    match ← d.follow node with
    | .scalar tag style text => pure (.scalar (tagAt bare tag) style text)
    | .seq tag items =>
      .seq (tagAt bare tag) <$> items.mapM (d.expand depth outline.nextItem.1 false)
    | .map tag entries =>
      let bareKeys := bare || (tag.bind Tag.localName?).isSome
      .map (tagAt bare tag) <$> entries.filterMapM fun (key, value) => do
        let key ← d.expand depth .whole bareKeys key
        match Node.outlineOf outline key with
        | none => pure none
        | some outline => some <$> (key, ·) <$> d.expand depth outline false value
    | .alias _ => failure

def read? (d : Document) (outline : Outline) : Option Node :=
  (d.expand maxDepth outline false d.root).run' (aliasesPerEvent * d.root.events)

end Document

end BoardSim.Yaml
