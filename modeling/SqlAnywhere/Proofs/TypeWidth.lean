import SqlAnywhere.Proofs.Words
import SqlAnywhere.ColumnType.Reported

/-!
# Types that a size gives

The portable type of a reported one is that of its name, except for bit
fields and tiny integers of some sizes.  Whether a size gives the type
depends on it and on the first word of the name alone.
-/

namespace SqlAnywhere.ReportedType

/-- The first word of the name of a type. -/
def leading (reported : ReportedType) : Text :=
  reported.name.takeWhile (· ≠ ' ')

/--
Bit fields and tiny integers: the types that widths can give, by their first
word.
-/
def IsNarrow (leading : Text) : Prop :=
  leading = "bit".toList ∨ leading = "tinyint".toList

instance (leading : Text) : Decidable (IsNarrow leading) :=
  inferInstanceAs (Decidable (_ ∨ _))

/-- The portable types that a width gives, by the first word of a name. -/
inductive GivenByWidth (leading : Text) (width : Int64) : PortableType → Prop where
  | boolean (narrow : IsNarrow leading) (single : width = 1) :
      GivenByWidth leading width .boolean
  | integer (bits : leading = "bit".toList) (exact : width = 32) :
      GivenByWidth leading width .integer
  | bigInt (bits : leading = "bit".toList) (wide : 32 < width) :
      GivenByWidth leading width .bigInt

/--
The portable types that a first word and a size allow beside that of the
name: what the size gives, and that of the name where it gives none.
-/
inductive TypedAs (leading : Text) (named : PortableType) :
    Option Int64 → PortableType → Prop where
  | byWidth {width : Int64} {portable : PortableType}
      (given : GivenByWidth leading width portable) :
      TypedAs leading named (some width) portable
  | byName {size : Option Int64}
      (other : ∀ width ∈ size, ∀ portable,
        ¬ GivenByWidth leading width portable) :
      TypedAs leading named size named

section GivenByWidth

variable {leading : Text} {width : Int64} {portable : PortableType}
  (given : GivenByWidth leading width portable)

include given

/-- Only bit fields and tiny integers have a type by their width. -/
theorem GivenByWidth.narrow : IsNarrow leading := by
  cases given with
  | boolean narrow => exact narrow
  | integer bits | bigInt bits => exact .inl bits

/-- A width gives one type. -/
theorem GivenByWidth.unique {portable' : PortableType}
    (given' : GivenByWidth leading width portable') : portable = portable' := by
  cases given with
  | boolean narrow single =>
      subst single
      cases given' with
      | boolean => rfl
      | integer bits exact' => exact absurd exact' (by decide)
      | bigInt bits wide => exact absurd wide (by decide)
  | integer bits exact' =>
      subst exact'
      cases given' with
      | boolean narrow single => exact absurd single (by decide)
      | integer => rfl
      | bigInt bits wide => exact absurd wide (by decide)
  | bigInt bits wide =>
      cases given' with
      | boolean narrow single => exact absurd (single ▸ wide) (by decide)
      | integer bits exact' => exact absurd (exact' ▸ wide) (by decide)
      | bigInt => rfl

end GivenByWidth

/--
The portable type of a reported one is what its size gives, else that of its
name.
-/
theorem portable_typedAs (reported : ReportedType) :
    TypedAs reported.leading (.ofTypeName reported.name) reported.size
      reported.portable := by
  rw [portable]
  cases reported.size with
  | none => exact .byName nofun
  | some width =>
      dsimp only
      rw [← leading]
      split
      · next narrow => exact .byWidth (.boolean narrow.1.symm narrow.2)
      · next notSingle =>
          split
          · next wide => exact .byWidth (.bigInt wide.1 wide.2)
          · next notWide =>
              split
              · next exact' => exact .byWidth (.integer exact'.1 exact'.2)
              · next notExact =>
                  refine .byName ?_
                  rintro _ ⟨⟩ _ (⟨narrow, single⟩ | ⟨bits, exact'⟩ | ⟨bits, wide⟩)
                  · exact notSingle ⟨narrow.symm, single⟩
                  · exact notExact ⟨bits, exact'⟩
                  · exact notWide ⟨bits, wide⟩

/-- A first word and a size allow one portable type beside that of the name. -/
theorem TypedAs.unique {leading : Text} {named : PortableType}
    {size : Option Int64} {portable portable' : PortableType}
    (typed : TypedAs leading named size portable)
    (typed' : TypedAs leading named size portable') : portable = portable' := by
  cases typed with
  | byWidth given =>
      cases typed' with
      | byWidth given' => exact given.unique given'
      | byName other => exact absurd given (other _ rfl _)
  | byName other =>
      cases typed' with
      | byWidth given => exact absurd given (other _ rfl _)
      | byName => rfl

/--
The portable type is that of the name where the name leads with no type that
has widths.
-/
theorem portable_of_not_narrow {reported : ReportedType}
    (other : ¬ IsNarrow reported.leading) :
    reported.portable = .ofTypeName reported.name :=
  reported.portable_typedAs.unique
    (.byName fun _ _ _ given => other given.narrow)

end SqlAnywhere.ReportedType
