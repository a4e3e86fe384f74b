import CubeQuery.Regex.Error

/-!
# Nested parts

How deep the parts of a pattern lie in each other. Groups, repetitions, classes in
brackets, operations on classes, and sequences and alternatives of several parts
each add to the depth of what they hold. `Nesting.atDepth?` finds the first part of
a pattern at a given depth.
-/

namespace CubeQuery.Regex

/-- For each depth that the parts of an expression reach, where the first part at that
    depth stands. -/
abbrev Nesting := List Span

namespace Nesting

/-- The nesting of what holds no parts. -/
def flat : Nesting := []

/-- The nesting of a part that holds others. Depths beyond the limit are not kept. -/
def around (span : Span) (inner : Nesting) : Nesting := span :: inner.take depthLimit

/-- The nesting of two expressions side by side. -/
def beside (left right : Nesting) : Nesting := left ++ right.drop left.length

/-- The nesting of expressions side by side. -/
def ofAll (nestings : List Nesting) : Nesting := nestings.foldl beside flat

/-- Where the first part at a depth stands. The outermost parts have the depth one. -/
def atDepth? (nesting : Nesting) (depth : Nat) : Option Span := nesting[depth - 1]?

end Nesting

end CubeQuery.Regex
