import EntryStore.Regex.Growth

/-!
# Trees of literals

A choice among literals is prepared for matching as a tree that shares what literals have in
common in front.  Earlier literals take precedence over later ones, so the end of a literal
closes what has been read so far at its node: later literals go on behind it.
-/

namespace EntryStore

/-- A node of a tree of literals. -/
structure LiteralNode where
  /-- how many transitions stood between the ends of literals here, the latest first -/
  closed : List Nat
  /-- the transitions since the last end of a literal, each with its node -/
  active : List (UInt8 × Nat)
  deriving DecidableEq, Repr, Inhabited

namespace LiteralNode

/-- A node at which nothing is known. -/
def new : LiteralNode := ⟨[], []⟩

/-- Whether nothing goes on behind a node. -/
def isLeaf (node : LiteralNode) : Bool := node.active.isEmpty && node.closed.all (· == 0)

/-- Marks the end of a literal. -/
def finish (node : LiteralNode) : LiteralNode :=
  if node.isLeaf && !node.closed.isEmpty then node
  else ⟨node.active.length :: node.closed, []⟩

/-- Makes the states of a node: one for each group of transitions, and one that leads to them and
to the end. -/
def build (node : LiteralNode) (growth : Growth) : Option Growth := do
  if node.isLeaf then return growth
  let groups := (node.active.length :: node.closed).filter (0 < ·)
  let growth ← groups.foldlM (fun growth count =>
    if count = 1 then growth.addState else growth.addTable count) growth
  growth.addBranch (groups.length + node.closed.length)

end LiteralNode

/-- A tree of literals; the root is the first node. -/
structure LiteralTree where
  nodes : Array LiteralNode
  deriving Repr

namespace LiteralTree

/-- A tree without literals. -/
def empty : LiteralTree := ⟨#[.new]⟩

/-- Goes from a node along a byte, to a new node if there is none. -/
def descend (tree : LiteralTree) (position : Nat) (byte : UInt8) : LiteralTree × Nat :=
  let node := tree.nodes.getD position .new
  match node.active.lookup byte with
  | some next => (tree, next)
  | none =>
      let next := tree.nodes.size
      let node := { node with active := (byte, next) :: node.active }
      (⟨(tree.nodes.setIfInBounds position node).push .new⟩, next)

/-- Adds a literal. -/
def insert (tree : LiteralTree) (bytes : List UInt8) : LiteralTree :=
  let (tree, position) := bytes.foldl (fun (tree, position) byte =>
    tree.descend position byte) (tree, 0)
  ⟨tree.nodes.modify position LiteralNode.finish⟩

/-- The tree of some literals. -/
def ofLiterals (literals : List (List UInt8)) : LiteralTree := literals.foldl insert empty

/-- Makes the states of a tree, one of which stands for all ends. -/
def build (tree : LiteralTree) (growth : Growth) : Option Growth := do
  tree.nodes.foldlM (fun growth node => node.build growth) (← growth.addState)

end LiteralTree

end EntryStore
