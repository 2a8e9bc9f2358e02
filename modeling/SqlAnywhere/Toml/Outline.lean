import SqlAnywhere.Configuration.Setting

/-!
# The outline of a document

Tables come about in two ways: a header declares one, and a key of several
parts makes one for each part but the last.  A header may go on in tables that
headers have made, and a key in tables that keys have made under the same
header; a table is declared once, and a setting is given once.
-/

namespace SqlAnywhere.Toml

/-- A path of keys from the root of a file. -/
abbrev KeyPath := List Text

/-- The members of a table in their order. -/
abbrev Members := List (Text × Setting)

namespace Members

/-- The members with another setting under a key that they have. -/
def replace (members : Members) (key : Text) (setting : Setting) : Members :=
  members.map fun member =>
    if member.1 = key then (key, setting) else member

/--
Changes the table at a path; tables that are missing on the way are made.
-/
def modifyAt (change : Members → Members) : KeyPath → Members → Option Members
  | [], members => some (change members)
  | key :: path, members =>
      match List.lookup key members with
      | none => do
          let inner ← modifyAt change path []
          return members ++ [(key, .table inner)]
      | some (.table inner) => do
          let inner ← modifyAt change path inner
          return members.replace key (.table inner)
      | some _ => none

/-- Whether there is a setting at a path. -/
def isDefined : KeyPath → Members → Bool
  | [], _ => true
  | key :: path, members =>
      match List.lookup key members with
      | some (.table inner) => isDefined path inner
      | some _ => path.isEmpty
      | none => false

end Members

/-- The settings read so far, and how their tables came about. -/
structure Outline where
  root : Members
  /-- The paths of tables that headers made. -/
  opened : List KeyPath
  /-- The paths of headers. -/
  declared : List KeyPath
  /--
  The paths of tables that keys of several parts made under the last header.
  -/
  dotted : List KeyPath
  /-- The path of the last header. -/
  current : KeyPath

namespace Outline

/-- The outline of an empty file. -/
def empty : Outline :=
  ⟨[], [], [], [], []⟩

/-- The paths on the way to the end of a path. -/
def waypoints (path : KeyPath) : List KeyPath :=
  (List.range' 1 (path.length - 1)).map fun count => path.take count

/-- Whether a path is free, or is one of the given ones. -/
def isFreeOr (known : List KeyPath) (outline : Outline) (path : KeyPath) :
    Bool :=
  known.contains path || !outline.root.isDefined path

/-- The outline after a header. -/
def declare? (outline : Outline) (path : KeyPath) : Option Outline := do
  let onTheWay := waypoints path
  if onTheWay.all (outline.isFreeOr outline.opened) &&
      outline.isFreeOr outline.opened path &&
      !outline.declared.contains path then
    let root ← Members.modifyAt id path outline.root
    return {
      root
      opened := path :: onTheWay ++ outline.opened
      declared := path :: outline.declared
      dotted := []
      current := path }
  else
    none

/--
The outline after a setting under a key, which is read from the last header
on.
-/
def assign? (outline : Outline) (key : KeyPath) (setting : Setting) :
    Option Outline := do
  let last ← key.getLast?
  let onTheWay := (waypoints key).map (outline.current ++ ·)
  if onTheWay.all (outline.isFreeOr outline.dotted) &&
      outline.isFreeOr [] (outline.current ++ key) then
    let root ← Members.modifyAt (· ++ [(last, setting)])
      (outline.current ++ key.dropLast) outline.root
    return { outline with root, dotted := onTheWay ++ outline.dotted }
  else
    none

end Outline

end SqlAnywhere.Toml
