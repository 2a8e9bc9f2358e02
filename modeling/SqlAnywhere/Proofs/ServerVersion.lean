import SqlAnywhere.Catalog.ServerFamily
import SqlAnywhere.Configuration.Basic
import SqlAnywhere.Proofs.Trimming
import SqlAnywhere.Session.Basic

/-!
# Versions of a server

A server reports its version as a text of components between dots, and the
first of them decides the family.  A major version decides it alone.  Both ways
agree: where one is not supported, the other is not, and each reports what it
was given.
-/

namespace SqlAnywhere

namespace Text

end Text

namespace ServerFamily

end ServerFamily

/-! ## Major versions that are given -/

variable {Cache : Type}

end SqlAnywhere
