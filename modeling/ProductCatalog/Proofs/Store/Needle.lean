import ProductCatalog.Proofs.Store.Matching
import ProductCatalog.Proofs.Text.Wildcard

/-! What a search by name finds. None of the characters of a needle acts as a sign in its pattern,
whichever of them stand next to each other. The needle is found as it is read, and three characters
are read alike. -/

namespace ProductCatalog.Store

open Query (needlePattern)
open Text (lowercase)
open Text.Like (Matches ToldApart accepts_iff_matches asRead isMatch toldApart_of_not_mem
  visible_containing visible_of_not_mem)

theorem isMatch_iff_matches {needle text : String} (plainNeedle : '\u0000' ∉ needle.toList)
    (plainText : '\u0000' ∉ text.toList) :
    isMatch (needlePattern needle).toList text.toList = true ↔
      Matches (needlePattern needle).toList text.toList := by
  have plainLower : '\u0000' ∉ lowercase needle.toList := by
    rwa [Text.zero_mem_lowercase_iff]
  rw [isMatch, visible_of_not_mem plainText, needlePattern, String.toList_ofList,
    visible_containing, if_neg plainLower, accepts_iff_matches]

/-- The pattern of a needle matches the texts in which the lowercase of the needle occurs, both as
they are read, and where the engine takes the pattern it finds just these. So it misses no text in
which the lowercase of the needle occurs, and it finds no others where the characters of both are
told apart. -/
theorem needle_literal {needle source : String} (plainNeedle : '\u0000' ∉ needle.toList)
    (plainText : '\u0000' ∉ (foldName source).toList) :
    let pattern := (needlePattern needle).toList
    let text := (foldName source).toList
    (Matches pattern text ↔ (lowercase needle.toList).map asRead <:+: text.map asRead) ∧
    (lowercase needle.toList <:+: text → Matches pattern text) ∧
    (ToldApart (lowercase needle.toList) text →
      (Matches pattern text ↔ lowercase needle.toList <:+: text)) ∧
    ((∀ c ∈ ['\uFFFE', '\uFFFF'], c ∉ needle.toList ∧ c ∉ source.toList) →
      ToldApart (lowercase needle.toList) text) ∧
    ((needlePattern needle).utf8ByteSize ≤ maxPatternSize → ∀ row,
      ∃ found, meets ⟨row, foldName source⟩ (.nameContains needle) = .ok found ∧
        (found = true ↔ Matches pattern text)) := by
  intro pattern text
  have found : isMatch pattern text = true ↔ Matches pattern text :=
    isMatch_iff_matches plainNeedle plainText
  have matched : Matches pattern text ↔
      (lowercase needle.toList).map asRead <:+: text.map asRead := by
    rw [← found, isMatch_needlePattern, finds_iff_occurs plainNeedle plainText]
  refine ⟨matched, ?_, ?_, ?_, ?_⟩
  · exact fun occurs => matched.mpr (occurs.map asRead)
  · exact fun apart => matched.trans apart.map_infix_iff
  · exact fun absent => toldApart_foldName (toldApart_of_not_mem absent)
  · intro short row
    have taken : isOverlong (.nameContains needle) = false := by simpa [isOverlong] using short
    refine ⟨_, ?_, found⟩
    rw [meets_eq, taken]
    rfl

def mosaic : NewProduct :=
  { name := "MOSAIC_100%\\TILE", price := 10.0, company := "ikea" }

theorem needle_literal_signs :
    Matches (needlePattern "c_100%\\").toList (foldName mosaic.name).toList ∧
    ¬ Matches (needlePattern "1_0").toList (foldName mosaic.name).toList ∧
    meets (newEntry 1 0 mosaic) (.nameContains "%\\T") = .ok true ∧
    meets (newEntry 1 0 mosaic) (.nameContains "%%") = .ok false := by
  have plain : '\u0000' ∉ (foldName mosaic.name).toList := by decide +kernel
  obtain ⟨-, mixed, -⟩ := @needle_literal "c_100%\\" mosaic.name (by decide) plain
  obtain ⟨underline, -⟩ := @needle_literal "1_0" mosaic.name (by decide) plain
  obtain ⟨-, percent, -, -, percentMet⟩ := @needle_literal "%\\T" mosaic.name (by decide) plain
  obtain ⟨doubled, -, -, -, doubledMet⟩ := @needle_literal "%%" mosaic.name (by decide) plain
  obtain ⟨first, firstMet, firstFound⟩ := percentMet (by decide) (newRow 1 0 mosaic)
  obtain ⟨second, secondMet, secondFound⟩ := doubledMet (by decide) (newRow 1 0 mosaic)
  have occurs : first = true := firstFound.mpr (percent (by decide +kernel))
  have missing : ¬ second = true :=
    fun found => absurd (doubled.mp (secondFound.mp found)) (by decide +kernel)
  refine ⟨mixed (by decide +kernel), fun matched => ?_, ?_, ?_⟩
  · have within := underline.mp matched
    revert within
    decide +kernel
  · rw [← occurs, ← firstMet]
    rfl
  · rw [← Bool.eq_false_iff.mpr missing, ← secondMet]
    rfl

/-- The replacement character is found by a needle that is no character. -/
theorem needle_not_literal :
    ¬∀ needle source : String, '\u0000' ∉ needle.toList → '\u0000' ∉ (foldName source).toList →
      (needlePattern needle).utf8ByteSize ≤ maxPatternSize →
      (Matches (needlePattern needle).toList (foldName source).toList ↔
        lowercase needle.toList <:+: (foldName source).toList) := by
  intro literal
  have matched : Matches (needlePattern "\uFFFE").toList (foldName "\uFFFD").toList :=
    (accepts_iff_matches _ _).mp (by decide +kernel)
  have occurs := (literal "\uFFFE" "\uFFFD" (by decide) (by decide +kernel) (by decide)).mp matched
  revert occurs
  decide +kernel

end ProductCatalog.Store
