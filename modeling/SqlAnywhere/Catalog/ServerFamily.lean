import SqlAnywhere.Catalog.Error

/-!
# Server families

The layout of the catalog changed with two releases of the server.  Releases
with one layout form a family, and the major version of a server decides which
family it belongs to.
-/

namespace SqlAnywhere

/-- The releases that share a layout of the catalog. -/
inductive ServerFamily where
  | v9
  | v11
  /-- The releases 12, 16 and 17. -/
  | v12
deriving DecidableEq

namespace ServerFamily

/-- The name of a family, after its first release. -/
def name : ServerFamily → Text
  | .v9 => "V9".toList
  | .v11 => "V11".toList
  | .v12 => "V12".toList

/-- The family of a major version, if that is supported. -/
def ofMajor? (major : UInt32) : Option ServerFamily :=
  if major = 9 then some .v9
  else if major = 11 then some .v11
  else if major = 12 ∨ major = 16 ∨ major = 17 then some .v12
  else none

/--
The major version in the version text of a server, such as `17.0.10.5963`.
-/
def major? (version : Text) : Option UInt32 :=
  Numeral.readUInt32? (Text.trim ((Text.trim version).takeWhile (· ≠ '.')))

/-- The family of a server by its version text, if that is supported. -/
def ofVersion? (version : Text) : Option ServerFamily :=
  (major? version).bind ofMajor?

/--
The family of a major version; an unsupported one is reported by its number.
-/
def ofMajor (major : UInt32) : Except CatalogError ServerFamily :=
  match ofMajor? major with
  | some family => .ok family
  | none => .error (.unsupportedVersion (Numeral.ofNat major.toNat))

/--
The family of a server by its version text; an unsupported one is reported as
it is.
-/
def ofVersion (version : Text) : Except CatalogError ServerFamily :=
  match ofVersion? version with
  | some family => .ok family
  | none => .error (.unsupportedVersion version)

end ServerFamily

end SqlAnywhere
