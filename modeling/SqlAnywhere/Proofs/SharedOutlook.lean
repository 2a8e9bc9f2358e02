import SqlAnywhere.Proofs.Piece
import SqlAnywhere.Proofs.StatementReading

/-!
# The leading SELECT of a bound statement

The scan for the leading SELECT sees the same blanks, marks and keywords in a
statement and in the text it is bound to.  A placeholder is none of them, and
neither is a question mark.  Whatever is left of the statement in some state
of the scan, and whatever is left of the bound text there, are two writings of
the same last pieces.
-/

namespace SqlAnywhere

open Piece

namespace LeadingSelect

/-! ## Texts of the same pieces -/

/--
Whether two texts are what the same last ones of some pieces make up in a
statement and in a bound statement.
-/
def Shared (pieces : List Piece) (text bound : Text) : Prop :=
  ∃ others, others <:+ pieces ∧ text = sources others ∧ bound = images others

/--
Whether the same is found in a statement and in a bound one, up to the pieces
that are left.
-/
def Alike (pieces : List Piece) : Option Text → Option Text → Prop :=
  Option.Rel (Shared pieces)

/--
Whether the names that pieces stand for hold only characters that a name may
hold.
-/
def Named (pieces : List Piece) : Prop :=
  ∀ name, named name ∈ pieces → ∀ part ∈ name, Segment.isParameterPart part

variable {pieces : List Piece}

theorem Shared.refl (pieces : List Piece) :
    Shared pieces (sources pieces) (images pieces) :=
  ⟨pieces, List.suffix_refl pieces, rfl, rfl⟩

theorem Shared.of_suffix {more : List Piece} {text bound : Text}
    (shared : Shared pieces text bound) (suffix : pieces <:+ more) :
    Shared more text bound := by
  obtain ⟨others, part, rfl, rfl⟩ := shared
  exact ⟨others, part.trans suffix, rfl, rfl⟩

theorem Alike.of_suffix {more : List Piece} {found found' : Option Text}
    (alike : Alike pieces found found') (suffix : pieces <:+ more) :
    Alike more found found' := by
  cases alike with
  | some shared => exact .some (shared.of_suffix suffix)
  | none => exact .none

theorem Alike.cons {found found' : Option Text}
    (alike : Alike pieces found found') (piece : Piece) :
    Alike (piece :: pieces) found found' :=
  alike.of_suffix (List.suffix_cons piece pieces)

theorem Shared.ite {condition : Prop} [Decidable condition]
    {text bound other other' : Text}
    (shared : Shared pieces text bound)
    (shared' : Shared pieces other other') :
    Shared pieces (if condition then text else other)
      (if condition then bound else other') := by
  split
  · exact shared
  · exact shared'

theorem Alike.ite {condition : Prop} [Decidable condition]
    {found found' other other' : Option Text}
    (alike : Alike pieces found found') (alike' : Alike pieces other other') :
    Alike pieces (if condition then found else other)
      (if condition then found' else other') := by
  split
  · exact alike
  · exact alike'

theorem Alike.or {found found' other other' : Option Text}
    (alike : Alike pieces found found') (alike' : Alike pieces other other') :
    Alike pieces (found.or other) (found'.or other') := by
  cases alike with
  | some shared => exact .some shared
  | none => exact alike'

theorem Alike.filter {passes : Text → Bool} {found found' : Option Text}
    (alike : Alike pieces found found')
    (same : ∀ others, passes (sources others) = passes (images others)) :
    Alike pieces (found.filter passes) (found'.filter passes) := by
  cases alike with
  | some shared =>
      obtain ⟨others, part, rfl, rfl⟩ := shared
      rw [Option.filter_some, Option.filter_some, same]
      exact .ite (.some ⟨others, part, rfl, rfl⟩) .none
  | none => exact .none

theorem Alike.map {skip : Text → Text} {found found' : Option Text}
    (alike : Alike pieces found found')
    (skips : ∀ others,
      Shared others (skip (sources others)) (skip (images others))) :
    Alike pieces (found.map skip) (found'.map skip) := by
  cases alike with
  | some shared =>
      obtain ⟨others, part, rfl, rfl⟩ := shared
      exact .some ((skips others).of_suffix part)
  | none => exact .none

theorem Alike.getD {found found' : Option Text}
    {text bound : Text} (alike : Alike pieces found found')
    (shared : Shared pieces text bound) :
    Shared pieces (found.getD text) (found'.getD bound) := by
  cases alike with
  | some shared => exact shared
  | none => exact shared

/-- Either nothing is found twice, or the same last pieces are left. -/
theorem Alike.eq_none_or {found found' : Option Text}
    (alike : Alike pieces found found') :
    (found = none ∧ found' = none) ∨
      ∃ front back, pieces = front ++ back ∧ found = some (sources back) ∧
        found' = some (images back) := by
  cases alike with
  | some shared =>
      obtain ⟨back, ⟨front, rfl⟩, rfl, rfl⟩ := shared
      exact .inr ⟨front, back, rfl, rfl, rfl⟩
  | none => exact .inl ⟨rfl, rfl⟩

theorem Alike.isSome_eq {found found' : Option Text}
    (alike : Alike pieces found found') : found.isSome = found'.isSome := by
  cases alike <;> rfl

/-! ## Keywords in a bound statement -/

/-- A word ends before a placeholder, and before a question mark. -/
theorem endsWord_sources (pieces : List Piece) :
    Text.endsWord (sources pieces) = Text.endsWord (images pieces) := by
  cases pieces with
  | nil => rfl
  | cons piece pieces =>
      cases piece with
      | kept character => rfl
      | named name => rfl

theorem alike_dropKeyword? {keyword : Text}
    (letters : keyword.all Char.isLower) (pieces : List Piece) :
    Alike pieces (Text.dropKeyword? keyword (sources pieces))
      (Text.dropKeyword? keyword (images pieces)) := by
  induction keyword generalizing pieces with
  | nil =>
      cases pieces <;> exact .some (.refl _)
  | cons letter keyword ih =>
      rw [List.all_cons, Bool.and_eq_true] at letters
      obtain ⟨first, others⟩ := letters
      cases pieces with
      | nil => exact .none
      | cons piece pieces =>
          cases piece with
          | kept character => exact .ite ((ih others pieces).cons _) .none
          | named name =>
              have colon : foldCharacter ':' ≠ letter := by
                rintro rfl
                exact absurd first (by decide)
              have question : foldCharacter '?' ≠ letter := by
                rintro rfl
                exact absurd first (by decide)
              simp only [sources_cons, images_cons, source, image,
                List.cons_append, List.nil_append, Text.dropKeyword?,
                if_neg colon, if_neg question]
              exact .none

theorem alike_afterKeyword? {keyword : Text}
    (letters : keyword.all Char.isLower) (pieces : List Piece) :
    Alike pieces (afterKeyword? keyword (sources pieces))
      (afterKeyword? keyword (images pieces)) := by
  exact (alike_dropKeyword? letters pieces).filter endsWord_sources

theorem shared_trimStart (pieces : List Piece) :
    Shared pieces (Text.trimStart (sources pieces))
      (Text.trimStart (images pieces)) := by
  induction pieces with
  | nil => exact .refl []
  | cons piece pieces ih =>
      cases piece with
      | kept character =>
          simp only [sources_cons, images_cons, source, image,
            List.singleton_append, Text.trimStart, List.dropWhile_cons]
          apply Shared.ite
          · exact ih.of_suffix (List.suffix_cons _ _)
          · exact .refl (kept character :: pieces)
      | named name => exact .refl (named name :: pieces)

theorem shared_skipDistinct (pieces : List Piece) :
    Shared pieces (skipDistinct (sources pieces))
      (skipDistinct (images pieces)) := by
  cases pieces with
  | nil => exact .refl []
  | cons piece pieces =>
      cases piece with
      | kept character =>
          apply Shared.ite
          · apply Alike.getD
            · obtain ⟨others, part, trimmed, trimmed'⟩ :=
                shared_trimStart (kept character :: pieces)
              rw [trimmed, trimmed']
              apply Alike.of_suffix _ part
              apply alike_afterKeyword?
              decide
            · exact .refl (kept character :: pieces)
          · exact .refl (kept character :: pieces)
      | named name => exact .refl (named name :: pieces)

theorem alike_afterSelect? (pieces : List Piece) :
    Alike pieces (afterSelect? (sources pieces))
      (afterSelect? (images pieces)) := by
  apply Alike.map _ shared_skipDistinct
  apply alike_afterKeyword?
  decide

/-- TOP stands in a statement where it stands in the bound one. -/
theorem hasTop_sources (pieces : List Piece) :
    hasTop (sources pieces) = hasTop (images pieces) := by
  obtain ⟨others, -, trimmed, trimmed'⟩ := shared_trimStart pieces
  rw [hasTop, hasTop, trimmed, trimmed']
  apply Alike.isSome_eq
  apply alike_afterKeyword?
  decide

/-! ## The scan of a bound statement -/

/-- Whether the scan finds the same in two texts, in each of its states. -/
structure AlikeOutlook (pieces : List Piece) (outlook outlook' : Outlook) :
    Prop where
  outside : Alike pieces outlook.outside outlook'.outside
  afterDash : Alike pieces outlook.afterDash outlook'.afterDash
  afterSlash : Alike pieces outlook.afterSlash outlook'.afterSlash
  inLine : Alike pieces outlook.inLine outlook'.inLine
  inBlock : Alike pieces outlook.inBlock outlook'.inBlock
  afterStar : Alike pieces outlook.afterStar outlook'.afterStar

/-- A copied character changes the state of both scans in the same way. -/
theorem AlikeOutlook.kept (character : Char)
    (alike : AlikeOutlook pieces (outlook (sources pieces))
      (outlook (images pieces))) :
    AlikeOutlook (kept character :: pieces)
      (outlook (sources (.kept character :: pieces)))
      (outlook (images (.kept character :: pieces))) where
  outside := by
    apply Alike.ite (alike.outside.cons _)
    apply Alike.ite (alike.afterDash.cons _)
    apply Alike.ite (alike.afterSlash.cons _)
    exact alike_afterSelect? (.kept character :: pieces)
  afterDash := .ite (alike.inLine.cons _) .none
  afterSlash := .ite (alike.inBlock.cons _) .none
  inLine := .ite (alike.outside.cons _) (alike.inLine.cons _)
  inBlock :=
    .ite ((alike.afterStar.cons _).or (alike.inBlock.cons _))
      (alike.inBlock.cons _)
  afterStar := .ite (alike.outside.cons _) .none

/--
A placeholder and a question mark are passed over in comments, and end the
scan outside.
-/
theorem AlikeOutlook.named {name : Text}
    (parts : ∀ part ∈ name, Segment.isParameterPart part)
    (alike : AlikeOutlook pieces (outlook (sources pieces))
      (outlook (images pieces))) :
    AlikeOutlook (.named name :: pieces)
      (outlook (sources (.named name :: pieces)))
      (outlook (images (.named name :: pieces))) where
  outside := alike_afterSelect? (.named name :: pieces)
  afterDash := .none
  afterSlash := .none
  inLine := by
    have oneLine : '\n' ∉ name := fun member =>
      absurd (parts _ member) (by decide)
    have passed := alike.inLine.cons (.named name)
    rwa [← inLine_append oneLine] at passed
  inBlock := by
    have noStar : '*' ∉ name := fun member =>
      absurd (parts _ member) (by decide)
    have passed := alike.inBlock.cons (.named name)
    rwa [← inBlock_append noStar] at passed
  afterStar := .none

/--
The scan finds the same in a statement and in the bound one, in each of its
states.
-/
theorem alike_outlook (named : Named pieces) :
    AlikeOutlook pieces (outlook (sources pieces))
      (outlook (images pieces)) := by
  induction pieces with
  | nil => exact ⟨.none, .none, .none, .none, .none, .none⟩
  | cons piece pieces ih =>
      have alike := ih fun name member =>
        named name (List.mem_cons_of_mem piece member)
      cases piece with
      | kept character => exact alike.kept character
      | named name => exact alike.named (named name List.mem_cons_self)

end LeadingSelect

end SqlAnywhere
