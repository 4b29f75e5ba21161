/-!
# Misfits

The ways in which a value can fail to have the shape that an operation needs.
-/

namespace WorkspaceLink

/-- Why an operation does not apply to a value. -/
inductive Misfit where
  /-- There is nothing to go through. -/
  | notIterable
  /-- There are no named entries. -/
  | notMapping
  /-- There is nothing to look up by a key. -/
  | notIndexable
  /-- A list or mapping was used as a key. -/
  | unhashable
  /-- Keys that are not all texts were to be listed. -/
  | untextualKeys
  /-- A text was needed. -/
  | notText
  /-- The letters of something that is not a text were needed. -/
  | noLetters
  /-- A key is not there. -/
  | missingKey
  /-- An attribute is not there. -/
  | missingAttribute
  /-- An element is not there. -/
  | missingElement
  /-- A command was given arguments that it does not take, or not all that it needs. -/
  | wrongArguments
  /-- A whole number has too many digits to be written. -/
  | unwritable
  /-- Collections hold one another too deeply to be written. -/
  | tooDeep
  /-- A list was to be a mapping, but an element has this many parts instead of two. -/
  | notPair (index parts : Nat)
  deriving DecidableEq

end WorkspaceLink
